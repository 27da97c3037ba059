import EndpointSync.Proofs.Course

/-!
# Being told to stop

A controller can be told to stop wherever it waits. Each of these moments has a place in the course
of the run: before it so many changes have been carried out and after it none
(`Controller.changesUntil`). For a moment between two watches these are all changes of the watches
that are over; while a watch waits for its next event they are those of the events before it; and
while the parent of an object of the first list is looked up they are the objects before it.

Together with what a run does that is not told to stop this says what becomes of the roster in every
run (`Controller.run_replays_course`).
-/

namespace EndpointSync

open Cluster (Change Listing Object Response WatchEnd WatchEvent)

namespace Controller

/-! ## The place of a moment -/

namespace Moment

/-- The changes of some watches before a moment. The first list was the attempt before the first of
them. -/
def watched (watches : List (String × Response)) : Moment → List Change
  | .asking attempt => changesOf (watches.take (attempt - 1))
  | .answering attempt => changesOf (watches.take (attempt - 1))
  | .lookup _ => []
  | .event attempt index => changesOf (watches.take (attempt - 1)) ++
      (((watches[attempt - 1]?.map Prod.snd).getD .pending).events.take index).filterMap
        WatchEvent.change?
  | .delay attempt => changesOf (watches.take attempt)

/-- The changes before a moment of a course, whose first list has some objects and after which there
are some watches. -/
def changes (objects : List Object) (watches : List (String × Response)) : Moment → List Change
  | .asking 0 => []
  | .answering 0 => []
  | .lookup index => (objects.take index).map .added
  | m => objects.map .added ++ m.watched watches

/-- How many attempts are over at a moment between two watches. -/
def attempts? : Moment → Option Nat
  | .asking attempt => some attempt
  | .answering attempt => some attempt
  | .lookup _ => none
  | .event _ _ => none
  | .delay attempt => some (attempt + 1)

end Moment

/-- The changes that the responses bring before a moment. -/
def changesUntil (script : Script) (m : Moment) : List Change :=
  match listOf script with
  | .listed l => m.changes l.objects (watchesOf l.version script.tail)
  | .failed => []
  | .pending => []

private theorem changesOf_append (before after : List (String × Response)) :
    changesOf (before ++ after) = changesOf before ++ changesOf after := List.flatMap_append

private theorem changesOf_split (watches : List (String × Response)) (n : Nat) :
    changesOf watches = changesOf (watches.take n) ++ changesOf (watches.drop n) := by
  rw [← changesOf_append, List.take_append_drop]

private theorem changesOf_take_isPrefix (watches : List (String × Response)) (n : Nat) :
    changesOf (watches.take n) <+: changesOf watches := by
  rw [changesOf_split watches n]
  exact List.prefix_append _ _

namespace Moment

private theorem watched_isPrefix (watches : List (String × Response)) (m : Moment) :
    m.watched watches <+: changesOf watches := by
  cases m with
  | asking attempt => exact changesOf_take_isPrefix watches _
  | answering attempt => exact changesOf_take_isPrefix watches _
  | lookup index => exact List.nil_prefix
  | event attempt index =>
    rw [watched]
    cases hwatch : watches[attempt - 1]? with
    | none =>
      -- nothing is reported where there is no watch
      have hnothing : Response.pending.events = [] := rfl
      rw [Option.map_none, Option.getD_none, hnothing, List.take_nil, List.filterMap_nil,
        List.append_nil]
      exact changesOf_take_isPrefix watches _
    | some w =>
      obtain ⟨hlt, hw⟩ := List.getElem?_eq_some_iff.mp hwatch
      rw [Option.map_some, Option.getD_some, changesOf_split watches (attempt - 1),
        List.drop_eq_getElem_cons hlt, hw, changesOf_cons]
      refine (List.prefix_append_right_inj _).mpr (List.IsPrefix.trans ?_ (List.prefix_append _ _))
      exact (List.take_prefix _ _).filterMap _
  | delay attempt => exact changesOf_take_isPrefix watches _

private theorem changes_isPrefix (objects : List Object) (watches : List (String × Response))
    (m : Moment) : m.changes objects watches <+: objects.map Change.added ++ changesOf watches := by
  have hwatched : objects.map Change.added ++ m.watched watches
      <+: objects.map Change.added ++ changesOf watches :=
    (List.prefix_append_right_inj _).mpr (m.watched_isPrefix watches)
  unfold changes
  split
  · exact List.nil_prefix
  · exact List.nil_prefix
  · exact ((List.take_prefix _ _).map _).trans (List.prefix_append _ _)
  · exact hwatched

end Moment

theorem changesUntil_isPrefix (script : Script) (m : Moment) :
    changesUntil script m <+: (courseOf script).map Prod.fst := by
  rw [changesUntil, courseOf]
  cases listOf script with
  | listed l =>
    dsimp only
    rw [fst_course_listed]
    exact m.changes_isPrefix _ _
  | failed => exact List.nil_prefix
  | pending => exact List.nil_prefix

variable {κ : Type} {c : Controller κ} {stop : Option Moment}

/-! ## In the first list -/

/-- While the first list is dealt with, there is no moment to stop but a lookup, and the objects
before it have been dealt with. -/
theorem handleAll_told {objects : List Object} {s after : Store} {n : Nat} {m : Moment}
    (h : c.handleAll (some m) s n objects = (after, some (.told m))) :
    ∃ i, m = .lookup (n + i) ∧
      after.roster = c.carryOut s.roster ((objects.take i).map Change.added) := by
  induction objects generalizing s n with
  | nil => exact absurd (congrArg Prod.snd h) (by simp [handleAll])
  | cons o rest ih =>
    -- an object that is dealt with comes before those that the induction has
    have hlater : ∀ {t : Store}, t.roster = s.roster.settle (c.ruling (.added o)) →
        c.handleAll (some m) t (n + 1) rest = (after, some (.told m)) →
        ∃ i, m = .lookup (n + i) ∧
          after.roster = c.carryOut s.roster (((o :: rest).take i).map Change.added) := by
      intro t ht hrest
      obtain ⟨i, hm, hroster⟩ := ih hrest
      refine ⟨i + 1, by rw [hm, Nat.add_right_comm, Nat.add_assoc], ?_⟩
      rw [hroster, ht, List.take_succ_cons, carryOut_added_cons]
    rw [handleAll] at h
    dsimp only at h
    rw [isStuck_handle, isStuck_handle] at h
    split at h
    next hnow =>
      rw [Option.some.injEq] at hnow
      split at h
      next hstalls =>
        refine ⟨0, hnow, ?_⟩
        have hafter : _ = after := congrArg Prod.fst h
        rw [← hafter, roster_handle, ruling_of_stalls hstalls, Roster.settle_none]
        rfl
      next hanswered =>
        refine hlater ?_ h
        rw [roster_handle, ruling_unanswered (Bool.eq_false_iff.mpr hanswered)]
    · split at h
      · exact absurd (congrArg Prod.snd h) (by simp)
      · exact hlater (c.roster_handle s (.added o) .deferred) h

theorem seed_told {objects : List Object} {s after : Store} {m : Moment}
    (h : c.seed (some m) s objects = (after, some (.told m))) :
    ∃ i, m = .lookup i ∧
      after.roster = c.carryOut s.roster ((objects.take i).map Change.added) := by
  rw [seed] at h
  split at h
  · exact absurd (congrArg Prod.snd h) (by simp)
  next hall =>
    rw [h] at hall
    obtain ⟨i, hm, hroster⟩ := handleAll_told hall
    exact ⟨i, by rw [hm, Nat.zero_add], hroster⟩

/-! ## In a watch -/

/-- What is left of a watch that is told to stop at one of its events: it stands there, or there is
an event before it that does not end the watch. -/
theorem follow_cases {a i attempt : Nat} {ending : WatchEnd} {events : List WatchEvent}
    {here after : Watching} {n : Nat}
    (h : c.follow (some (.event a i)) attempt ending here n events
      = (after, .finish (.told (.event a i)))) :
    (a = attempt ∧ i = n ∧ after = here) ∨
      ∃ e rest next, events = e :: rest ∧ e.isError = false ∧
        next.store.roster = c.carryOut here.store.roster e.change?.toList ∧
        c.follow (some (.event a i)) attempt ending next (n + 1) rest
          = (after, .finish (.told (.event a i))) := by
  by_cases hnow : Moment.event a i = .event attempt n
  · have hstays : c.follow (some (.event a i)) attempt ending here n events
        = (here, .finish (.told (.event attempt n))) := by
      cases events <;> rw [follow, if_pos (congrArg some hnow)]
    rw [Moment.event.injEq] at hnow
    rw [h] at hstays
    exact .inl ⟨hnow.1, hnow.2, congrArg Prod.fst hstays⟩
  · have hpasses : ¬some (Moment.event a i) = some (.event attempt n) :=
      fun hsame ↦ hnow (Option.some.inj hsame)
    cases events with
    | nil =>
      rw [follow, if_neg hpasses] at h
      cases ending <;> exact absurd (congrArg Prod.snd h) (by simp [conclude])
    | cons e rest =>
      rw [follow, if_neg hpasses] at h
      have hroster := roster_observe c here e
      have houtcome := outcome_observe c here e
      generalize c.observe here e = seen at hroster houtcome h
      obtain ⟨next, outcome⟩ := seen
      dsimp only at hroster houtcome h
      -- neither an error nor a change that stalls is followed by another event
      by_cases herror : e.isError = true
      · rw [houtcome, if_pos herror] at h
        exact absurd (congrArg Prod.snd h) (by simp)
      by_cases hstalls : e.change?.any c.stalls = true
      · rw [houtcome, if_neg herror, if_pos hstalls] at h
        exact absurd (congrArg Prod.snd h) (by simp)
      rw [houtcome, if_neg herror, if_neg hstalls] at h
      exact .inr ⟨e, rest, next, rfl, Bool.eq_false_iff.mpr herror, hroster, h⟩

private theorem follow_told {a i attempt : Nat} {ending : WatchEnd} {events : List WatchEvent}
    {here after : Watching} {n : Nat}
    (h : c.follow (some (.event a i)) attempt ending here n events
      = (after, .finish (.told (.event a i)))) :
    ∃ j, a = attempt ∧ i = n + j ∧ after.store.roster = c.carryOut here.store.roster
      (((WatchEvent.heard events).take j).filterMap WatchEvent.change?) := by
  induction events generalizing here n with
  | nil =>
    rcases follow_cases h with ⟨hattempt, hindex, rfl⟩ | ⟨e, rest, next, hevents, -⟩
    · exact ⟨0, hattempt, hindex, rfl⟩
    · exact absurd hevents (by simp)
  | cons e rest ih =>
    rcases follow_cases h with
      ⟨hattempt, hindex, rfl⟩ | ⟨e', rest', next, hevents, hgoesOn, hnext, hrest⟩
    · exact ⟨0, hattempt, hindex, rfl⟩
    · rw [List.cons.injEq] at hevents
      obtain ⟨rfl, rfl⟩ := hevents
      obtain ⟨j, hattempt, hindex, hroster⟩ := ih hrest
      refine ⟨j + 1, hattempt, by omega, ?_⟩
      rw [hroster, hnext, WatchEvent.heard_cons hgoesOn, List.take_succ_cons,
        filterMap_change?_cons, carryOut_append]

private theorem attend_told {a i attempt : Nat} {response : Response} {here after : Watching}
    (h : c.attend (some (.event a i)) attempt here response
      = (after, .finish (.told (.event a i)))) :
    a = attempt ∧ after.store.roster
      = c.carryOut here.store.roster ((response.events.take i).filterMap WatchEvent.change?) := by
  rw [attend] at h
  rw [Response.events]
  cases hwatch : response.watch? with
  | none =>
    rw [hwatch] at h
    exact absurd (congrArg Prod.snd h) (by simp)
  | some feed =>
    rw [hwatch] at h
    obtain ⟨j, hattempt, hindex, hroster⟩ := follow_told h
    rw [Nat.zero_add] at hindex
    rw [hindex]
    exact ⟨hattempt, hroster⟩

/-- A loop that is told to stop at an event of one of its watches has carried out the watches before
it, and of this one the changes before the event. -/
theorem Rounds.told_at_event {a i : Nat} {script : Script} {n : Nat} {here : Watching}
    {report : Report} (h : Rounds c (some (.event a i)) script n here report)
    (htold : report.result = .told (.event a i)) :
    ∃ k v, a = n + k ∧
      (c.watches here.version script)[k]? = some (v, script[k]?.getD .pending) ∧
      report.store.roster = c.carryOut here.store.roster
        (changesOf ((c.watches here.version script).take k) ++
          ((script[k]?.getD .pending).events.take i).filterMap WatchEvent.change?) := by
  induction h with
  | toldBefore hstop => exact absurd hstop (by simp)
  | unaskable hrequest => exact absurd htold (by simp [insist])
  | toldOpening hrequest hstop => exact absurd hstop (by simp)
  | unanswered hrequest => exact absurd htold (by simp)
  | @finished response rest n here after request result hrequest hattend =>
    have hresult : result = .told (.event a i) := htold
    rw [hresult] at hattend
    obtain ⟨hattempt, hroster⟩ := attend_told hattend
    rw [watches_cons hrequest]
    exact ⟨0, here.version, hattempt, rfl, hroster⟩
  | toldAfter hrequest hattend hstop => exact absurd hstop (by simp)
  | @again response rest n here after request report hrequest hattend hrounds ih =>
    have hattended := attended_attend c (some (.event a i)) n (c.opened n here request) response
    rw [hattend] at hattended
    cases hattended with
    | ended hends hcarried hresumed =>
      -- this watch has been carried out to its end, and the induction has the others
      have hafter : after.store.roster = c.carryOut here.store.roster response.changes := hcarried
      have hversion : after.version = response.resume here.version := hresumed
      obtain ⟨k, v, hattempt, hwatch, hroster⟩ := ih htold
      rw [watches_cons hrequest, if_neg (Bool.eq_false_iff.mp hends), ← hversion]
      refine ⟨k + 1, v, by omega, ?_, ?_⟩
      · rw [List.getElem?_cons_succ, List.getElem?_cons_succ, hwatch]
      · rw [hroster, hafter, List.take_succ_cons, changesOf_cons, List.append_assoc,
          carryOut_append c here.store.roster response.changes, List.getElem?_cons_succ]

private theorem follow_told_event {attempt : Nat} {ending : WatchEnd} {events : List WatchEvent}
    {here after : Watching} {n : Nat} {m : Moment}
    (h : c.follow stop attempt ending here n events = (after, .finish (.told m))) :
    ∃ i, m = .event attempt i := by
  induction events generalizing here n with
  | nil =>
    rw [follow] at h
    split at h
    · rw [Prod.mk.injEq, Outcome.finish.injEq, Result.told.injEq] at h
      exact ⟨n, h.2.symm⟩
    · cases ending <;> exact absurd (congrArg Prod.snd h) (by simp [conclude])
  | cons e rest ih =>
    rw [follow] at h
    split at h
    · rw [Prod.mk.injEq, Outcome.finish.injEq, Result.told.injEq] at h
      exact ⟨n, h.2.symm⟩
    · have houtcome := outcome_observe c here e
      generalize c.observe here e = seen at houtcome h
      obtain ⟨next, _ | outcome⟩ := seen
      · exact ih h
      · -- an event that ends its watch does not tell the controller to stop
        rw [Prod.mk.injEq] at h
        rw [h.2] at houtcome
        split at houtcome
        · exact absurd houtcome (by simp)
        · split at houtcome <;> exact absurd houtcome (by simp)

private theorem attend_told_event {attempt : Nat} {response : Response} {here after : Watching}
    {m : Moment} (h : c.attend stop attempt here response = (after, .finish (.told m))) :
    ∃ i, m = .event attempt i := by
  rw [attend] at h
  split at h
  · exact absurd (congrArg Prod.snd h) (by simp)
  · exact follow_told_event h

/-! ## Between watches -/

private theorem insist_told {here : Watching} {n : Nat} {m : Moment}
    (h : (c.insist (some m) here n).result = .told m) :
    ∃ a, m.attempts? = some a ∧ n ≤ a ∧
      (c.insist (some m) here n).store.roster = here.store.roster := by
  unfold insist at h ⊢
  split at h
  next last hstop =>
    rw [Option.some.injEq] at hstop
    subst hstop
    split at h
    next hle => exact ⟨last, rfl, hle, by rw [if_pos hle]; rfl⟩
    · exact absurd h (by simp)
  next last hstop =>
    rw [Option.some.injEq] at hstop
    subst hstop
    split at h
    next hle => exact ⟨last + 1, rfl, by omega, by rw [if_pos hle]; rfl⟩
    · exact absurd h (by simp)
  · exact absurd h (by simp)

/-- A loop that is told to stop is at an event of one of its watches, or between two of them and has
carried out those that are over. -/
theorem Rounds.told_cases {m : Moment} {script : Script} {n : Nat} {here : Watching}
    {report : Report} (h : Rounds c (some m) script n here report)
    (htold : report.result = .told m) :
    (∃ a i, m = .event a i) ∨ ∃ a, m.attempts? = some a ∧ n ≤ a ∧
      report.store.roster = c.carryOut here.store.roster
        (changesOf ((c.watches here.version script).take (a - n))) := by
  induction h with
  | @toldBefore script n here hstop =>
    rw [Option.some.injEq] at hstop
    refine .inr ⟨n, by rw [hstop]; rfl, Nat.le_refl n, ?_⟩
    rw [Nat.sub_self]
    rfl
  | unaskable hrequest =>
    obtain ⟨a, hover, hle, hroster⟩ := insist_told htold
    refine .inr ⟨a, hover, hle, ?_⟩
    rw [hroster, watches_of_unaskable hrequest, List.take_nil]
    rfl
  | @toldOpening script n here request hrequest hstop =>
    rw [Option.some.injEq] at hstop
    refine .inr ⟨n, by rw [hstop]; rfl, Nat.le_refl n, ?_⟩
    rw [Nat.sub_self]
    rfl
  | unanswered hrequest => exact absurd htold (by simp)
  | @finished response rest n here after request result hrequest hattend =>
    have hresult : result = .told m := htold
    rw [hresult] at hattend
    obtain ⟨i, hm⟩ := attend_told_event hattend
    exact .inl ⟨n, i, hm⟩
  | @toldAfter response rest n here after request hrequest hattend hstop =>
    rw [Option.some.injEq] at hstop
    have hattended := attended_attend c (some m) n (c.opened n here request) response
    rw [hattend] at hattended
    cases hattended with
    | ended hends hcarried hresumed =>
      refine .inr ⟨n + 1, by rw [hstop]; rfl, Nat.le_succ n, ?_⟩
      rw [watches_cons hrequest, Nat.add_sub_cancel_left, List.take_succ_cons, changesOf_cons,
        List.take_zero, changesOf, List.flatMap_nil, List.append_nil]
      exact hcarried
  | @again response rest n here after request report hrequest hattend hrounds ih =>
    have hattended := attended_attend c (some m) n (c.opened n here request) response
    rw [hattend] at hattended
    cases hattended with
    | ended hends hcarried hresumed =>
      have hafter : after.store.roster = c.carryOut here.store.roster response.changes := hcarried
      have hversion : after.version = response.resume here.version := hresumed
      rcases ih htold with hevent | ⟨a, hover, hle, hroster⟩
      · exact .inl hevent
      · refine .inr ⟨a, hover, by omega, ?_⟩
        have hone : a - n = a - (n + 1) + 1 := by omega
        rw [hroster, hafter, hversion, hone, watches_cons hrequest,
          if_neg (Bool.eq_false_iff.mp hends), List.take_succ_cons, changesOf_cons,
          carryOut_append]

theorem Rounds.told {m : Moment} {script : Script} {here : Watching} {report : Report}
    (h : Rounds c (some m) script 1 here report) (htold : report.result = .told m)
    (objects : List Object) :
    m.changes objects (c.watches here.version script)
        = objects.map Change.added ++ m.watched (c.watches here.version script) ∧
      report.store.roster
        = c.carryOut here.store.roster (m.watched (c.watches here.version script)) := by
  rcases h.told_cases htold with ⟨a, i, rfl⟩ | ⟨a, hover, hle, hroster⟩
  · obtain ⟨k, v, hattempt, hwatch, hroster⟩ := h.told_at_event htold
    refine ⟨rfl, ?_⟩
    rw [hroster, Moment.watched, hattempt, Nat.add_sub_cancel_left, hwatch, Option.map_some,
      Option.getD_some]
  · obtain ⟨b, rfl⟩ := Nat.exists_eq_add_of_le hle
    rw [Nat.add_sub_cancel_left] at hroster
    cases m with
    | asking attempt =>
      cases hover
      refine ⟨by rw [Nat.add_comm]; rfl, ?_⟩
      rw [hroster, Moment.watched, Nat.add_sub_cancel_left]
    | answering attempt =>
      cases hover
      refine ⟨by rw [Nat.add_comm]; rfl, ?_⟩
      rw [hroster, Moment.watched, Nat.add_sub_cancel_left]
    | lookup index => exact absurd hover (by simp [Moment.attempts?])
    | event attempt index => exact absurd hover (by simp [Moment.attempts?])
    | delay attempt =>
      have hb : attempt = b := by
        rw [Moment.attempts?, Option.some.injEq] at hover
        omega
      subst hb
      exact ⟨rfl, hroster⟩

/-! ## The whole run -/

/-- A run that is told to stop has carried out what its responses bring before that moment. -/
theorem roster_of_told {s : Store} {script : Script} {m : Moment} (hasks : c.AsksAll script)
    (htold : (c.run s script (some m)).result = .told m) :
    (c.run s script (some m)).store.roster = c.carryOut s.roster (changesUntil script m) := by
  have hbegun := begun_run c (some m) s script
  have hlistOf := firstList_eq hasks.request?_list script
  rw [changesUntil]
  generalize c.run s script (some m) = report at hbegun htold
  cases hbegun with
  | toldBefore hstop =>
    rw [Option.some.injEq] at hstop
    subst hstop
    cases listOf script <;> rfl
  | unaskable hrequest => exact absurd htold (by simp [endEarly])
  | toldAnswering hrequest hstop =>
    rw [Option.some.injEq] at hstop
    subst hstop
    cases listOf script <;> rfl
  | noList hrequest hlist => exact absurd htold (by simp [endEarly])
  | silent hrequest hlist => exact absurd htold (by simp [endEarly])
  | @brokeOff request l after result hrequest hlist hseed =>
    have hresult : result = .told m := htold
    rw [hresult] at hseed
    obtain ⟨i, rfl, hroster⟩ := seed_told hseed
    rw [← hlistOf, hlist]
    exact hroster
  | @seeded request l after hrequest hlist hseed =>
    have hseeded := seeded_seed c (some m) l.objects (poll s .list request 0 false)
    rw [hseed] at hseeded
    cases hseeded with
    | whole hroster =>
      have hcarried : after.roster = c.carryOut s.roster (l.objects.map Change.added) := hroster
      obtain ⟨hchanges, hloop⟩ := (rounds_watch c (some m) script.tail
        ⟨(after.record [.released]).note (.watching l.version), l.version⟩ 1).told htold l.objects
      have hlisted : listOf script = .listed l := hlistOf.symm.trans hlist
      rw [hlisted]
      dsimp only
      rw [← hasks.watches_eq hlisted, hchanges, carryOut_append, ← hcarried]
      exact hloop

variable (c) in
/-- **A run is one pass over its course.** The responses alone write down a course of changes: the
objects of the first list in order, and then what the watches report, each up to its first error or
its end. Whatever the responses say, and whenever the controller is told to stop, its run leaves the
roster as it is after the first so many changes of this course have been dealt with one after the
other. Where it is told to stop, these are the changes that come before that moment; where the
answer about a parent never comes, those before the object whose parent it is; and otherwise all
that can be asked for. This is the whole course for each kind that is followed, unless the namespace
is no name for a path or something is too long to be sent. -/
theorem run_replays_course (s : Store) (script : Script) (stop : Option Moment) :
    (∃ n, (c.run s script stop).store.roster
          = (c.replay s ((courseOf script).take n)).roster ∧
      match (c.run s script stop).result with
      | .told m => stop = some m ∧ (c.AsksAll script → n = (changesUntil script m).length)
      | .stuck => ∃ change w, (courseOf script)[n]? = some (change, w) ∧
          ∀ t w', (c.handle t change w').isStuck = true
      | _ => n = (c.course script).length) ∧
    (c.AsksAll script → c.course script = courseOf script) ∧
    ∀ k : Kind, c.rules.resource = k.rules.resource → c.config.HasPlainNamespace →
      (∀ ask ∈ asksOf script, c.config.HasRoomFor ask) → c.AsksAll script := by
  refine ⟨?_, AsksAll.course_eq, fun k hresource hplain hroom ↦
    asksAll_of_kind hresource hplain hroom⟩
  obtain ⟨later, hlater⟩ := course_isPrefix (c := c) script
  cases ran_run c stop s script with
  | whole hresult hroster =>
    refine ⟨(c.course script).length, ?_, ?_⟩
    · rw [← hlater, List.take_left, roster_replay, hroster]
    · revert hresult
      cases (c.run s script stop).result <;> simp [Result.isCut]
  | brokeOff hbreak =>
    generalize hresult : (c.run s script stop).result = result at hbreak ⊢
    generalize hroster : (c.run s script stop).store.roster = roster at hbreak ⊢
    have hbegins : ∀ n ≤ ((c.course script).map Prod.fst).length,
        ((c.course script).map Prod.fst).take n = ((courseOf script).take n).map Prod.fst := by
      intro n hn
      rw [List.length_map] at hn
      rw [← hlater, List.take_append_of_le_length hn, List.map_take]
    cases hbreak with
    | @told m n hstop hn =>
      subst hstop
      by_cases hasks : c.AsksAll script
      · refine ⟨(changesUntil script m).length, ?_, rfl, fun _ ↦ rfl⟩
        rw [← hroster, roster_of_told hasks hresult, roster_replay, List.map_take,
          ← List.prefix_iff_eq_take.mp (changesUntil_isPrefix script m)]
      · exact ⟨n, by rw [roster_replay, hbegins n hn], rfl, fun hall ↦ absurd hall hasks⟩
    | @stuck n change hchange hstalls =>
      obtain ⟨hn, -⟩ := List.getElem?_eq_some_iff.mp hchange
      refine ⟨n, by rw [roster_replay, hbegins n (Nat.le_of_lt hn)], ?_⟩
      rw [List.getElem?_map, Option.map_eq_some_iff] at hchange
      obtain ⟨⟨change', w⟩, hnext, rfl⟩ := hchange
      rw [List.length_map] at hn
      refine ⟨change', w, ?_, fun t w' ↦ by rw [isStuck_handle, hstalls]⟩
      rw [← hlater, List.getElem?_append_left hn, hnext]

/-! ### A service that takes the place of another -/

/-- A controller that follows all services. -/
def everyService : Controller Cluster.Service :=
  { rules := Rules.Service.rules, config := { autoService := true } }

theorem hasPlainNamespace_everyService : everyService.config.HasPlainNamespace :=
  fun name hname ↦ absurd hname (by simp [everyService])

def serviceText (name : String) : String :=
  "\x7b\"metadata\":\x7b\"name\":\"" ++ name ++ "\",\"namespace\":\"default\"\x7d," ++
    "\"spec\":\x7b\"ports\":[\x7b\"port\":80\x7d]\x7d\x7d"

def betaList : Response :=
  .reply 200 ("\x7b\"items\":[" ++ serviceText "beta" ++ "]\x7d") .complete

def serviceKey (name : String) : Key := ⟨name, "default", "services"⟩

/-- A line of a watch about a service. -/
def serviceLine (type name : String) : String :=
  "\x7b\"type\":\"" ++ type ++ "\",\"object\":" ++ serviceText name ++ "\x7d\n"

/-- One service is listed, a watch brings another one and ends, and the next watch takes the first
one away. -/
def replacementScript : Script :=
  [betaList, .reply 200 (serviceLine "ADDED" "alpha") .complete,
    .reply 200 (serviceLine "DELETED" "beta") .stalled]

/-- All three changes are carried out, and the first two if the controller is told to stop before
the last of them. -/
theorem replacement_is_followed :
    (courseOf replacementScript).map (fun x ↦ everyService.key x.1.object)
        = [serviceKey "beta", serviceKey "alpha", serviceKey "beta"] ∧
      everyService.AsksAll replacementScript ∧
      (everyService.run {} replacementScript none).store.roster
        = (everyService.replay {} (courseOf replacementScript)).roster ∧
      (everyService.run {} replacementScript none).store.roster.map Prod.fst
        = [serviceKey "alpha"] ∧
      (everyService.run {} replacementScript (some (.event 2 0))).store.roster
        = (everyService.replay {} ((courseOf replacementScript).take 2)).roster ∧
      (everyService.run {} replacementScript (some (.event 2 0))).store.roster.map Prod.fst
        = [serviceKey "beta", serviceKey "alpha"] := by
  -- one evaluation for all of them, since each of them reads the same responses
  obtain ⟨hkeys, hsilent, htold, hbefore, hlast, hfirst, hroom⟩ :
      (courseOf replacementScript).map (fun x ↦ everyService.key x.1.object)
        = [serviceKey "beta", serviceKey "alpha", serviceKey "beta"] ∧
      (everyService.run {} replacementScript none).result = .silent ∧
      (everyService.run {} replacementScript (some (.event 2 0))).result = .told (.event 2 0) ∧
      (changesUntil replacementScript (.event 2 0)).length = 2 ∧
      (everyService.carryOut [] ((courseOf replacementScript).map Prod.fst)).map Prod.fst
        = [serviceKey "alpha"] ∧
      (everyService.carryOut [] (((courseOf replacementScript).take 2).map Prod.fst)).map Prod.fst
        = [serviceKey "beta", serviceKey "alpha"] ∧
      ∀ ask ∈ asksOf replacementScript, everyService.config.HasRoomFor ask := by decide +kernel
  have hpass := run_replays_course everyService {} replacementScript none
  rw [hsilent] at hpass
  obtain ⟨⟨n, hrun, hn⟩, hcourse, hkinds⟩ := hpass
  have hpart := run_replays_course everyService {} replacementScript (some (.event 2 0))
  rw [htold] at hpart
  obtain ⟨⟨m, hstopped, -, hm⟩, -, -⟩ := hpart
  have hasks : everyService.AsksAll replacementScript :=
    hkinds .service rfl hasPlainNamespace_everyService hroom
  rw [hn, hcourse hasks, List.take_length] at hrun
  rw [hm hasks, hbefore] at hstopped
  refine ⟨hkeys, hasks, hrun, ?_, hstopped, ?_⟩
  · rw [hrun, roster_replay]
    exact hlast
  · rw [hstopped, roster_replay]
    exact hfirst

end Controller

end EndpointSync
