import EndpointSync.Proofs.Entries

/-!
# A run is one pass over its changes

A controller lists, watches, waits and watches again, and it can be told to stop in the middle of
any of it. To the roster none of this shows. There is one course of changes, written down from the
responses alone: the objects of the first list, and then what the watches report, each up to its
first error. A run deals with the changes of its course in order, each of them once, and either with
all of them or with the first so many.

## Two ways not to get to the end

A run breaks off where it is told to stop, and where it waits for an answer about a parent that
never comes. In both cases it has dealt with the first so many changes to the end, and with the
others not at all. `Controller.BreaksOff` is closed under whatever comes after the break and
whatever came before it, so a run is put together from its watches, and a watch from its events,
without counting.
-/

namespace EndpointSync

open Cluster (Change Feed Listing ListResult Object Response WatchEnd WatchEvent)

/-! ## What a response to a watch says -/

namespace Cluster

namespace WatchEvent

/-- The change that an event reports, if it reports one. -/
def change? : WatchEvent → Option Change
  | .changed change => some change
  | .bookmark _ => none
  | .error _ => none

/-- An error ends its watch. -/
def isError : WatchEvent → Bool
  | .error _ => true
  | _ => false

/-- The events that are looked at: an error is the last of them. -/
def heard : List WatchEvent → List WatchEvent
  | [] => []
  | e :: rest => if e.isError then [e] else e :: heard rest

/-- The version to resume from after an event. An object counts by its metadata, whatever becomes of
it otherwise. -/
def resume (version : String) : WatchEvent → String
  | .changed change => change.object.metadata.resourceVersion.getD version
  | .bookmark newer => newer
  | .error e => if e.code = 410 then "0" else version

theorem heard_cons_of_isError {e : WatchEvent} (h : e.isError = true) (rest : List WatchEvent) :
    heard (e :: rest) = [e] := by
  rw [heard, if_pos h]

theorem heard_cons {e : WatchEvent} (h : e.isError = false) (rest : List WatchEvent) :
    heard (e :: rest) = e :: heard rest := by
  rw [heard, if_neg (Bool.eq_false_iff.mp h)]

end WatchEvent

namespace Response

/-- The events of a watch that are looked at. A watch that is refused has none. -/
def events (r : Response) : List WatchEvent :=
  match r.watch? with
  | none => []
  | some feed => WatchEvent.heard feed.events

def changes (r : Response) : List Change := r.events.filterMap WatchEvent.change?

/-- The watch stays open for ever: no error ends it, and the body does not either. -/
def neverEnds (r : Response) : Bool :=
  match r.watch? with
  | none => false
  | some feed => feed.ending == .silent && !feed.events.any WatchEvent.isError

def resume (version : String) (r : Response) : String := r.events.foldl WatchEvent.resume version

end Response

end Cluster

namespace Controller

variable {κ : Type} (c : Controller κ)

/-! ## The course of a run -/

/-- What comes of asking for the first list. -/
def firstList (script : Script) : ListResult :=
  match c.request? .list with
  | none => .failed
  | some _ => (script.head?.getD .pending).list

/-- The watches of a run that nothing interrupts: the version from which each of them is asked for,
and the response to it. The responses that are left over are used up one by one; after them no
answer comes any more. There is no next watch where one never ends or cannot be asked for. -/
def watches (version : String) : List Response → List (String × Response)
  | [] => if (c.request? (.watch version)).isSome then [(version, .pending)] else []
  | r :: rest =>
    if (c.request? (.watch version)).isSome then
      (version, r) :: if r.neverEnds then [] else watches (r.resume version) rest
    else []

/-- The changes of successive watches. -/
def changesOf (watches : List (String × Response)) : List Change :=
  watches.flatMap fun w ↦ w.2.changes

/-- The course of a run: the changes that the responses bring, and how each of them is written. It
is empty if the first list cannot be had. -/
def course (script : Script) : List (Change × Write) :=
  match c.firstList script with
  | .listed l =>
    l.objects.map (fun o ↦ (.added o, .deferred)) ++
      (changesOf (c.watches l.version script.tail)).map fun change ↦ (change, .now)
  | .failed => []
  | .pending => []

def replay (s : Store) (course : List (Change × Write)) : Store :=
  course.foldl (fun s x ↦ (c.handle s x.1 x.2).store) s

def carryOut (r : Roster) (changes : List Change) : Roster :=
  changes.foldl (fun r change ↦ r.settle (c.ruling change)) r

@[simp] theorem carryOut_nil (r : Roster) : c.carryOut r [] = r := rfl

theorem carryOut_cons (r : Roster) (change : Change) (rest : List Change) :
    c.carryOut r (change :: rest) = c.carryOut (r.settle (c.ruling change)) rest := rfl

theorem carryOut_append (r : Roster) (before after : List Change) :
    c.carryOut r (before ++ after) = c.carryOut (c.carryOut r before) after :=
  List.foldl_append

theorem roster_replay (s : Store) (course : List (Change × Write)) :
    (c.replay s course).roster = c.carryOut s.roster (course.map Prod.fst) := by
  induction course generalizing s with
  | nil => rfl
  | cons x rest ih => rw [List.map_cons, carryOut_cons, ← c.roster_handle s x.1 x.2, ← ih]; rfl

/-! ## Breaking off -/

variable (stop : Option Moment)

/-- A run was cut short: it was told to stop, or it waits for the answer about a parent for ever. -/
def Result.isCut : Result → Bool
  | .told _ => true
  | .stuck => true
  | .silent => false
  | .unaskable => false
  | .noList => false

/-- A run broke off with a result: it has carried out the first of some changes and none of the
others, either because it was told to stop or because the next one stalls. -/
inductive BreaksOff (r : Roster) (changes : List Change) : Result → Roster → Prop where
  | told {m : Moment} {n : Nat} : stop = some m → n ≤ changes.length →
      BreaksOff r changes (.told m) (c.carryOut r (changes.take n))
  | stuck {n : Nat} {change : Change} : changes[n]? = some change → c.stalls change = true →
      BreaksOff r changes .stuck (c.carryOut r (changes.take n))

variable {c stop}

theorem BreaksOff.of_told {m : Moment} (r : Roster) (changes : List Change) (h : stop = some m) :
    BreaksOff c stop r changes (.told m) r := by
  have hnone : BreaksOff c stop r changes (.told m) (c.carryOut r (changes.take 0)) :=
    .told h (Nat.zero_le _)
  rwa [List.take_zero, carryOut_nil] at hnone

theorem BreaksOff.of_stalls {change : Change} (r : Roster) (rest : List Change)
    (h : c.stalls change = true) : BreaksOff c stop r (change :: rest) .stuck r := by
  have hnone : BreaksOff c stop r (change :: rest) .stuck
      (c.carryOut r ((change :: rest).take 0)) := .stuck rfl h
  rwa [List.take_zero, carryOut_nil] at hnone

theorem BreaksOff.isCut {r r' : Roster} {changes : List Change} {result : Result}
    (h : BreaksOff c stop r changes result r') : result.isCut = true := by
  cases h with
  | told hstop hn => rfl
  | stuck hchange hstalls => rfl

/-- What comes after the break does not matter. -/
theorem BreaksOff.append {r r' : Roster} {changes : List Change} {result : Result}
    (h : BreaksOff c stop r changes result r') (later : List Change) :
    BreaksOff c stop r (changes ++ later) result r' := by
  cases h with
  | @told m n hstop hn =>
    rw [← List.take_append_of_le_length hn]
    exact .told hstop (by rw [List.length_append]; omega)
  | @stuck n change hchange hstalls =>
    obtain ⟨hn, -⟩ := List.getElem?_eq_some_iff.mp hchange
    rw [← List.take_append_of_le_length (Nat.le_of_lt hn)]
    exact .stuck (by rw [List.getElem?_append_left hn, hchange]) hstalls

theorem BreaksOff.after {r r' : Roster} {changes : List Change} {result : Result}
    (earlier : List Change) (h : BreaksOff c stop (c.carryOut r earlier) changes result r') :
    BreaksOff c stop r (earlier ++ changes) result r' := by
  cases h with
  | @told m n hstop hn =>
    rw [← carryOut_append, ← List.take_length_add_append]
    exact .told hstop (by rw [List.length_append]; omega)
  | @stuck n change hchange hstalls =>
    rw [← carryOut_append, ← List.take_length_add_append]
    refine .stuck ?_ hstalls
    rw [List.getElem?_append_right (Nat.le_add_right _ _), Nat.add_sub_cancel_left, hchange]

variable (c stop)

/-! ## The first list -/

theorem carryOut_added_cons (r : Roster) (o : Object) (rest : List Object) :
    c.carryOut r ((o :: rest).map Change.added)
      = c.carryOut (r.settle (c.ruling (.added o))) (rest.map Change.added) := by
  rw [List.map_cons, carryOut_cons]

/-- What becomes of the objects of the first list: all of them are dealt with, or it breaks off. -/
inductive Seeded (c : Controller κ) (stop : Option Moment) (r : Roster) (objects : List Object) :
    Store × Option Result → Prop where
  | whole {after : Store} : after.roster = c.carryOut r (objects.map Change.added) →
      Seeded c stop r objects (after, none)
  | brokeOff {after : Store} {result : Result} :
      BreaksOff c stop r (objects.map Change.added) result after.roster →
      Seeded c stop r objects (after, some result)

variable {c stop} in
theorem Seeded.cons {r : Roster} {o : Object} {rest : List Object} {end_ : Store × Option Result}
    (h : Seeded c stop (r.settle (c.ruling (.added o))) rest end_) :
    Seeded c stop r (o :: rest) end_ := by
  cases h with
  | whole hrest => exact .whole (by rw [hrest, carryOut_added_cons])
  | brokeOff hbreak => exact .brokeOff (hbreak.after [.added o])

private theorem seeded_handleAll (objects : List Object) (s : Store) (n : Nat) :
    Seeded c stop s.roster objects (c.handleAll stop s n objects) := by
  induction objects generalizing s n with
  | nil => exact .whole rfl
  | cons o rest ih =>
    rw [handleAll]
    dsimp only
    rw [isStuck_handle, isStuck_handle]
    by_cases htold : stop = some (.lookup n)
    · rw [if_pos htold]
      by_cases hstalls : c.unanswered.stalls (.added o) = true
      · rw [if_pos hstalls]
        refine .brokeOff ?_
        rw [roster_handle, ruling_of_stalls hstalls, Roster.settle_none]
        exact .of_told _ _ htold
      · -- no answer is needed for this object, so it is dealt with as ever
        rw [if_neg hstalls]
        have hroster : (c.unanswered.handle s (.added o) .deferred).store.roster
            = s.roster.settle (c.ruling (.added o)) := by
          rw [roster_handle, ruling_unanswered (Bool.eq_false_iff.mpr hstalls)]
        exact Seeded.cons (hroster ▸ ih _ _)
    · rw [if_neg htold]
      by_cases hstalls : c.stalls (.added o) = true
      · rw [if_pos hstalls]
        refine .brokeOff ?_
        rw [roster_handle, ruling_of_stalls hstalls, Roster.settle_none]
        exact .of_stalls _ _ hstalls
      · rw [if_neg hstalls]
        exact Seeded.cons (c.roster_handle s (.added o) .deferred ▸ ih _ _)

theorem seeded_seed (objects : List Object) (s : Store) :
    Seeded c stop s.roster objects (c.seed stop s objects) := by
  have h := seeded_handleAll c stop objects s 0
  rw [seed]
  generalize c.handleAll stop s 0 objects = end_ at h
  cases h with
  | whole hroster => exact .whole (by rw [Store.roster_note, Store.roster_write, hroster])
  | brokeOff hbreak => exact .brokeOff hbreak

/-! ## One event of a watch -/

theorem roster_observe (here : Watching) (e : WatchEvent) :
    (c.observe here e).1.store.roster = c.carryOut here.store.roster e.change?.toList := by
  cases e with
  | changed change => exact c.roster_handle here.store change .now
  | bookmark version => rfl
  | error report => rw [observe]; split <;> rfl

private theorem version_observe (here : Watching) (e : WatchEvent) :
    (c.observe here e).1.version = e.resume here.version := by
  cases e with
  | changed change => rfl
  | bookmark version => rfl
  | error report =>
    rw [observe, WatchEvent.resume]
    split <;> rfl

/-- The watch goes on unless it is an error that was observed, or a change that stalls. -/
theorem outcome_observe (here : Watching) (e : WatchEvent) :
    (c.observe here e).2 = if e.isError then some .reopen
      else if e.change?.any c.stalls then some (.finish .stuck) else none := by
  cases e with
  | changed change =>
    rw [observe, isStuck_handle]
    rfl
  | bookmark version => rfl
  | error report => rw [observe]; split <;> rfl

/-! ## One watch -/

/-- What becomes of the events of a watch: all of them are dealt with and the watch is opened again
or stays open for ever, or it breaks off. -/
inductive Attended (c : Controller κ) (stop : Option Moment) (here : Watching)
    (events : List WatchEvent) (neverEnds : Bool) : Watching × Outcome → Prop where
  | ended {after : Watching} : neverEnds = false →
      after.store.roster
        = c.carryOut here.store.roster (events.filterMap WatchEvent.change?) →
      after.version = events.foldl WatchEvent.resume here.version →
      Attended c stop here events neverEnds (after, .reopen)
  | silent {after : Watching} : neverEnds = true →
      after.store.roster
        = c.carryOut here.store.roster (events.filterMap WatchEvent.change?) →
      Attended c stop here events neverEnds (after, .finish .silent)
  | brokeOff {after : Watching} {result : Result} :
      BreaksOff c stop here.store.roster (events.filterMap WatchEvent.change?) result
        after.store.roster →
      Attended c stop here events neverEnds (after, .finish result)

theorem filterMap_change?_cons (e : WatchEvent) (rest : List WatchEvent) :
    (e :: rest).filterMap WatchEvent.change?
      = e.change?.toList ++ rest.filterMap WatchEvent.change? := by
  rw [List.filterMap_cons]
  cases e.change? <;> rfl

variable {c stop} in
theorem Attended.cons {here after : Watching} {e : WatchEvent} {rest : List WatchEvent}
    {neverEnds : Bool} {end_ : Watching × Outcome}
    (hroster : after.store.roster = c.carryOut here.store.roster e.change?.toList)
    (hversion : after.version = e.resume here.version)
    (h : Attended c stop after rest neverEnds end_) :
    Attended c stop here (e :: rest) neverEnds end_ := by
  cases h with
  | ended hends hrest hlast =>
    refine .ended hends ?_ ?_
    · rw [hrest, hroster, filterMap_change?_cons, carryOut_append]
    · rw [hlast, hversion, List.foldl_cons]
  | silent hends hrest =>
    refine .silent hends ?_
    rw [hrest, hroster, filterMap_change?_cons, carryOut_append]
  | brokeOff hbreak =>
    rw [hroster] at hbreak
    refine .brokeOff ?_
    rw [filterMap_change?_cons]
    exact hbreak.after _

private theorem attended_conclude (here : Watching) (ending : WatchEnd) :
    Attended c stop here [] (ending == .silent) (conclude here ending) := by
  cases ending with
  | closed => exact .ended rfl rfl rfl
  | failed => exact .ended rfl rfl rfl
  | silent => exact .silent rfl rfl

private theorem attended_follow (attempt : Nat) (ending : WatchEnd) (events : List WatchEvent)
    (here : Watching) (n : Nat) :
    Attended c stop here (WatchEvent.heard events)
      (ending == .silent && !events.any WatchEvent.isError)
      (c.follow stop attempt ending here n events) := by
  induction events generalizing here n with
  | nil =>
    rw [follow]
    split
    next htold => exact .brokeOff (.of_told _ _ htold)
    · rw [List.any_nil, Bool.not_false, Bool.and_true]
      exact attended_conclude c stop here ending
  | cons e rest ih =>
    rw [follow]
    split
    next htold => exact .brokeOff (.of_told _ _ htold)
    have hroster := roster_observe c here e
    have hversion := version_observe c here e
    have houtcome := outcome_observe c here e
    generalize c.observe here e = seen at hroster hversion houtcome
    obtain ⟨after, outcome⟩ := seen
    dsimp only at hroster hversion houtcome
    by_cases herror : e.isError = true
    · -- the last event that is looked at
      rw [if_pos herror] at houtcome
      rw [houtcome, WatchEvent.heard_cons_of_isError herror, List.any_cons, herror]
      exact .ended (by simp) (by rw [hroster, filterMap_change?_cons]; simp) hversion
    · rw [if_neg herror] at houtcome
      have hgoesOn : e.isError = false := Bool.eq_false_iff.mpr herror
      rw [WatchEvent.heard_cons hgoesOn, List.any_cons, hgoesOn, Bool.false_or]
      by_cases hstalls : e.change?.any c.stalls = true
      · rw [if_pos hstalls] at houtcome
        -- nothing has been done with the change that stalls
        obtain ⟨change, hchange, hstall⟩ := (Option.any_eq_true _ _).mp hstalls
        have hsame : after.store.roster = here.store.roster := by
          rw [hroster, hchange, Option.toList_some, carryOut_cons, ruling_of_stalls hstall,
            Roster.settle_none, carryOut_nil]
        rw [houtcome]
        refine .brokeOff ?_
        rw [hsame, List.filterMap_cons, hchange]
        exact .of_stalls _ _ hstall
      · rw [if_neg hstalls] at houtcome
        rw [houtcome]
        exact (ih after (n + 1)).cons hroster hversion

theorem attended_attend (attempt : Nat) (here : Watching) (response : Response) :
    Attended c stop here response.events response.neverEnds
      (c.attend stop attempt here response) := by
  rw [attend, Response.events, Response.neverEnds]
  cases response.watch? with
  | none => exact .ended rfl rfl rfl
  | some feed => exact attended_follow c stop attempt feed.ending feed.events here 0

/-! ## The loop

A round asks for a watch, attends to the response and waits. What the loop does is the same for
every property of it, so the ways in which a round can end are written down once. -/

/-- A watch that has been asked for. -/
def opened (n : Nat) (here : Watching) (request : Request) : Watching :=
  { here with store := poll here.store (.watch here.version) request (c.timeOf n) true }

/-- The rounds of a loop, from where a controller is to the end of its run. -/
inductive Rounds (c : Controller κ) (stop : Option Moment) :
    Script → Nat → Watching → Report → Prop where
  | toldBefore {script : Script} {n : Nat} {here : Watching} : stop = some (.asking n) →
      Rounds c stop script n here ⟨here.store, .told (.asking n), c.timeOf n⟩
  | unaskable {script : Script} {n : Nat} {here : Watching} :
      c.request? (.watch here.version) = none →
      Rounds c stop script n here (c.insist stop here n)
  | toldOpening {script : Script} {n : Nat} {here : Watching} {request : Request} :
      c.request? (.watch here.version) = some request → stop = some (.answering n) →
      Rounds c stop script n here
        ⟨(c.opened n here request).store, .told (.answering n), c.timeOf n⟩
  | unanswered {n : Nat} {here : Watching} {request : Request} :
      c.request? (.watch here.version) = some request →
      Rounds c stop [] n here ⟨(c.opened n here request).store, .silent, c.timeOf n⟩
  | finished {response : Response} {rest : Script} {n : Nat} {here after : Watching}
      {request : Request} {result : Result} :
      c.request? (.watch here.version) = some request →
      c.attend stop n (c.opened n here request) response = (after, .finish result) →
      Rounds c stop (response :: rest) n here ⟨after.store, result, c.timeOf n⟩
  | toldAfter {response : Response} {rest : Script} {n : Nat} {here after : Watching}
      {request : Request} :
      c.request? (.watch here.version) = some request →
      c.attend stop n (c.opened n here request) response = (after, .reopen) →
      stop = some (.delay n) →
      Rounds c stop (response :: rest) n here ⟨after.store, .told (.delay n), c.timeOf n⟩
  | again {response : Response} {rest : Script} {n : Nat} {here after : Watching}
      {request : Request} {report : Report} :
      c.request? (.watch here.version) = some request →
      c.attend stop n (c.opened n here request) response = (after, .reopen) →
      Rounds c stop rest (n + 1) after report →
      Rounds c stop (response :: rest) n here report

theorem ask_eq_ok_or (here : Watching) (n : Nat) :
    (∃ request, c.request? (.watch here.version) = some request ∧
        c.ask stop n here = .ok (c.opened n here request)) ∨
      ∃ report, c.ask stop n here = .error report ∧
        ∀ script, Rounds c stop script n here report := by
  rw [ask]
  by_cases hasking : stop = some (.asking n)
  · rw [if_pos hasking]
    exact .inr ⟨_, rfl, fun script ↦ .toldBefore hasking⟩
  rw [if_neg hasking]
  cases hrequest : c.request? (.watch here.version) with
  | none => exact .inr ⟨_, rfl, fun script ↦ .unaskable hrequest⟩
  | some request =>
    dsimp only
    by_cases hanswering : stop = some (.answering n)
    · rw [if_pos hanswering]
      exact .inr ⟨_, rfl, fun script ↦ .toldOpening hrequest hanswering⟩
    · rw [if_neg hanswering]
      exact .inl ⟨request, rfl, rfl⟩

theorem rounds_watch (script : Script) (here : Watching) (n : Nat) :
    Rounds c stop script n here (c.watch stop script n here) := by
  induction script generalizing here n with
  | nil =>
    rw [watch]
    rcases ask_eq_ok_or c stop here n with ⟨request, hrequest, hask⟩ | ⟨report, hask, hrounds⟩
    · rw [hask]
      exact .unanswered hrequest
    · rw [hask]
      exact hrounds []
  | cons response rest ih =>
    rw [watch]
    rcases ask_eq_ok_or c stop here n with ⟨request, hrequest, hask⟩ | ⟨report, hask, hrounds⟩
    · rw [hask]
      dsimp only
      rcases hattend : c.attend stop n (c.opened n here request) response with ⟨after, _ | result⟩
      · dsimp only
        by_cases hdelay : stop = some (.delay n)
        · rw [if_pos hdelay]
          exact .toldAfter hrequest hattend hdelay
        · rw [if_neg hdelay]
          exact .again hrequest hattend (ih after (n + 1))
      · exact .finished hrequest hattend
    · rw [hask]
      exact hrounds (response :: rest)

/-! ## The changes of a loop -/

variable {c} in
theorem watches_of_unaskable {version : String} (h : c.request? (.watch version) = none)
    (script : List Response) : c.watches version script = [] := by
  cases script with
  | nil => rw [watches, h]; rfl
  | cons response rest => rw [watches, h]; rfl

variable {c} in
theorem watches_nil {version : String} {request : Request}
    (h : c.request? (.watch version) = some request) :
    c.watches version [] = [(version, .pending)] := by
  rw [watches, h]
  rfl

variable {c} in
theorem watches_cons {version : String} {request : Request}
    (h : c.request? (.watch version) = some request) (response : Response) (rest : List Response) :
    c.watches version (response :: rest) = (version, response) ::
      if response.neverEnds then [] else c.watches (response.resume version) rest := by
  rw [watches, h]
  rfl

theorem changesOf_cons (w : String × Response) (rest : List (String × Response)) :
    changesOf (w :: rest) = w.2.changes ++ changesOf rest := rfl

/-- What becomes of the changes of a run: all of them are carried out, or it breaks off. -/
inductive Ran (c : Controller κ) (stop : Option Moment) (r : Roster) (changes : List Change)
    (report : Report) : Prop where
  | whole : report.result.isCut = false → report.store.roster = c.carryOut r changes →
      Ran c stop r changes report
  | brokeOff : BreaksOff c stop r changes report.result report.store.roster →
      Ran c stop r changes report

variable {c stop} in
theorem Ran.after {r : Roster} {changes : List Change} {report : Report} (earlier : List Change)
    (h : Ran c stop (c.carryOut r earlier) changes report) :
    Ran c stop r (earlier ++ changes) report := by
  cases h with
  | whole hresult hroster => exact .whole hresult (by rw [hroster, carryOut_append])
  | brokeOff hbreak => exact .brokeOff (hbreak.after earlier)

private theorem ran_insist (here : Watching) (n : Nat) :
    Ran c stop here.store.roster [] (c.insist stop here n) := by
  have hgivesUp : Ran c stop here.store.roster []
      ⟨here.store.record (refusals 1), .unaskable, c.timeOf n⟩ := .whole rfl rfl
  unfold insist
  split
  · split
    · exact .brokeOff (.of_told _ _ rfl)
    · exact hgivesUp
  · split
    · exact .brokeOff (.of_told _ _ rfl)
    · exact hgivesUp
  · exact hgivesUp

variable {c stop} in
/-- The changes of all watches of a loop are carried out, or it breaks off. -/
theorem Rounds.ran {script : Script} {n : Nat} {here : Watching} {report : Report}
    (h : Rounds c stop script n here report) :
    Ran c stop here.store.roster (changesOf (c.watches here.version script)) report := by
  induction h with
  | toldBefore htold => exact .brokeOff (.of_told _ _ htold)
  | unaskable hrequest =>
    rw [watches_of_unaskable hrequest]
    exact ran_insist c stop _ _
  | toldOpening hrequest htold => exact .brokeOff (.of_told _ _ htold)
  | unanswered hrequest =>
    rw [watches_nil hrequest]
    exact .whole rfl rfl
  | @finished response rest n here after request result hrequest hattend =>
    rw [watches_cons hrequest, changesOf_cons]
    have hattended := attended_attend c stop n (c.opened n here request) response
    rw [hattend] at hattended
    cases hattended with
    | silent hends hcarried =>
      rw [if_pos hends]
      refine .whole rfl ?_
      rw [changesOf, List.flatMap_nil, List.append_nil]
      exact hcarried
    | brokeOff hbreak => exact .brokeOff (hbreak.append _)
  | @toldAfter response rest n here after request hrequest hattend htold =>
    rw [watches_cons hrequest, changesOf_cons]
    have hattended := attended_attend c stop n (c.opened n here request) response
    rw [hattend] at hattended
    cases hattended with
    | ended hends hcarried hresumed =>
      -- the watch is over, so all of its changes count
      have hafter : after.store.roster = c.carryOut here.store.roster response.changes := hcarried
      refine Ran.after response.changes (.brokeOff ?_)
      rw [← hafter]
      exact .of_told _ _ htold
  | @again response rest n here after request report hrequest hattend hrounds ih =>
    rw [watches_cons hrequest, changesOf_cons]
    have hattended := attended_attend c stop n (c.opened n here request) response
    rw [hattend] at hattended
    cases hattended with
    | ended hends hcarried hresumed =>
      -- the changes of this watch have been carried out, and the induction has the others
      have hafter : after.store.roster = c.carryOut here.store.roster response.changes := hcarried
      have hversion : after.version = response.resume here.version := hresumed
      rw [if_neg (Bool.eq_false_iff.mp hends), ← hversion]
      refine Ran.after response.changes ?_
      rw [← hafter]
      exact ih

/-! ## The whole run

A run asks for the first list, puts it into the store and goes on with the loop. As for the loop,
the ways in which this can end are written down once. -/

/-- A run, by how it begins. -/
inductive Begun (c : Controller κ) (stop : Option Moment) (s : Store) (script : Script) :
    Report → Prop where
  | toldBefore : stop = some (.asking 0) →
      Begun c stop s script (endEarly s (.told (.asking 0)))
  | unaskable : c.request? .list = none → Begun c stop s script (endEarly s .noList)
  | toldAnswering {request : Request} : c.request? .list = some request →
      stop = some (.answering 0) →
      Begun c stop s script (endEarly (poll s .list request 0 false) (.told (.answering 0)))
  | noList {request : Request} : c.request? .list = some request →
      c.firstList script = .failed →
      Begun c stop s script (endEarly (poll s .list request 0 false) .noList)
  | silent {request : Request} : c.request? .list = some request →
      c.firstList script = .pending →
      Begun c stop s script (endEarly (poll s .list request 0 false) .silent)
  | brokeOff {request : Request} {l : Listing} {after : Store} {result : Result} :
      c.request? .list = some request → c.firstList script = .listed l →
      c.seed stop (poll s .list request 0 false) l.objects = (after, some result) →
      Begun c stop s script (endEarly after result)
  | seeded {request : Request} {l : Listing} {after : Store} :
      c.request? .list = some request → c.firstList script = .listed l →
      c.seed stop (poll s .list request 0 false) l.objects = (after, none) →
      Begun c stop s script (c.watch stop script.tail 1
        ⟨(after.record [.released]).note (.watching l.version), l.version⟩)

variable {c} in
theorem firstList_of_request {request : Request} (h : c.request? .list = some request)
    (script : Script) : c.firstList script = (script.head?.getD .pending).list := by
  rw [firstList, h]

theorem begun_run (s : Store) (script : Script) :
    Begun c stop s script (c.run s script stop) := by
  unfold run
  by_cases hasking : stop = some (.asking 0)
  · rw [if_pos hasking]
    exact .toldBefore hasking
  rw [if_neg hasking]
  cases hrequest : c.request? .list with
  | none => exact .unaskable hrequest
  | some request =>
    dsimp only
    by_cases hanswering : stop = some (.answering 0)
    · rw [if_pos hanswering]
      exact .toldAnswering hrequest hanswering
    rw [if_neg hanswering, ← firstList_of_request hrequest]
    cases hlist : c.firstList script with
    | failed => exact .noList hrequest hlist
    | pending => exact .silent hrequest hlist
    | listed l =>
      dsimp only
      rcases hseed : c.seed stop (poll s .list request 0 false) l.objects with
        ⟨after, _ | result⟩
      · exact .seeded hrequest hlist hseed
      · exact .brokeOff hrequest hlist hseed

theorem fst_course_listed (objects : List Object) (changes : List Change) :
    (objects.map (fun o ↦ ((.added o, .deferred) : Change × Write)) ++
        changes.map fun change ↦ (change, Write.now)).map Prod.fst
      = objects.map Change.added ++ changes := by
  simp [Function.comp_def]

theorem ran_run (s : Store) (script : Script) :
    Ran c stop s.roster ((c.course script).map Prod.fst) (c.run s script stop) := by
  have hbegun := begun_run c stop s script
  rw [course]
  generalize c.run s script stop = report at hbegun
  cases hbegun with
  | toldBefore htold => exact .brokeOff (.of_told _ _ htold)
  | unaskable hrequest =>
    rw [firstList, hrequest]
    exact .whole rfl rfl
  | toldAnswering hrequest htold => exact .brokeOff (.of_told _ _ htold)
  | noList hrequest hlist =>
    rw [hlist]
    exact .whole rfl rfl
  | silent hrequest hlist =>
    rw [hlist]
    exact .whole rfl rfl
  | @brokeOff request l after result hrequest hlist hseed =>
    have hseeded := seeded_seed c stop l.objects (poll s .list request 0 false)
    rw [hseed] at hseeded
    rw [hlist]
    dsimp only
    rw [fst_course_listed]
    cases hseeded with
    | brokeOff hbreak => exact .brokeOff (hbreak.append _)
  | @seeded request l after hrequest hlist hseed =>
    have hseeded := seeded_seed c stop l.objects (poll s .list request 0 false)
    rw [hseed] at hseeded
    rw [hlist]
    dsimp only
    rw [fst_course_listed]
    cases hseeded with
    | whole hroster =>
      have hcarried : after.roster = c.carryOut s.roster (l.objects.map Change.added) := hroster
      refine Ran.after _ ?_
      rw [← hcarried]
      exact (rounds_watch c stop script.tail
        ⟨(after.record [.released]).note (.watching l.version), l.version⟩ 1).ran

end Controller

end EndpointSync
