import EndpointSync.Proofs.Restart
import EndpointSync.Proofs.RosterOrder
import EndpointSync.Proofs.Traces
import EndpointSync.Proofs.Writable

/-!
# The first list is written once

A controller puts all objects of the first list into the store before it writes anything, writes
them together, releases its handle and only then asks for its first watch. That nothing is written
before is because additions are deferred, while removals, which are not, find nothing to remove: the
roster has no entry yet of an object in the list.

What is written does not depend on the order of the list. Each object decides its own entry, and
the text depends on the entries alone.
-/

namespace EndpointSync

open Cluster (Change Listing ListResult Object Response WatchEvent)

/-! ## Lists that cannot be had -/

namespace Cluster.Response

/-- The response says no list: there is none, it breaks off, its status is that of an error, or its
body is none. -/
inductive NoList : Response → Prop where
  | refused : NoList .refused
  | broken {status : Nat} {body : String} : NoList (.reply status body .broken)
  | errorStatus {status : Nat} {body : String} : isErrorStatus status = true →
      NoList (.reply status body .complete)
  | malformed {status : Nat} {body : String} :
      (wholeJson? body).bind Listing.ofJson? = none → NoList (.reply status body .complete)

theorem list_eq_failed_iff {r : Response} : r.list = .failed ↔ r.NoList := by
  constructor
  · intro h
    match r with
    | .refused => exact .refused
    | .pending => exact absurd h (by simp [list])
    | .reply _ _ .stalled => exact absurd h (by simp [list])
    | .reply _ _ .broken => exact .broken
    | .reply status body .complete =>
      rw [list] at h
      split at h
      next hstatus => exact .errorStatus hstatus
      · split at h
        · exact absurd h (by simp)
        next hbody => exact .malformed hbody
  · intro h
    cases h with
    | refused => rfl
    | broken => rfl
    | errorStatus hstatus => exact if_pos hstatus
    | malformed hbody =>
      rw [list]
      split
      · rfl
      · rw [hbody]

end Cluster.Response

namespace Controller

open Store (Adds)
open Happening (IsWithin)

variable {κ : Type} {c : Controller κ} {stop : Option Moment}

/-! ## Putting objects into the store -/

/-- Some objects as the first list deals with them. -/
def seeding (objects : List Object) : List (Change × Write) :=
  objects.map fun o ↦ (.added o, .deferred)

theorem roster_replay_seeding (s : Store) (objects : List Object) :
    (c.replay s (seeding objects)).roster = c.carryOut s.roster (objects.map Change.added) := by
  rw [roster_replay, seeding, List.map_map]
  rfl

theorem place_handle (s : Store) (change : Change) (w : Write) :
    (c.handle s change w).store.disk.place = s.disk.place := by
  rw [(c.agree_handle s change w).disk, Store.place_performAll]

theorem place_replay (s : Store) (course : List (Change × Write)) :
    (c.replay s course).disk.place = s.disk.place := by
  induction course generalizing s with
  | nil => rfl
  | cons x rest ih => exact (ih (c.handle s x.1 x.2).store).trans (place_handle s x.1 x.2)

private theorem handleAll_eq (hstop : ∀ index, stop ≠ some (.lookup index)) {objects : List Object}
    (hanswered : ∀ o ∈ objects, c.stalls (.added o) = false) (s : Store) (n : Nat) :
    c.handleAll stop s n objects = (c.replay s (seeding objects), none) := by
  induction objects generalizing s n with
  | nil => rfl
  | cons o rest ih =>
    obtain ⟨ho, hrest⟩ := List.forall_mem_cons.mp hanswered
    have hgoesOn : ¬(c.handle s (.added o) .deferred).isStuck = true := by
      rw [isStuck_handle, ho]
      exact Bool.false_ne_true
    rw [handleAll, if_neg (hstop n)]
    dsimp only
    rw [if_neg hgoesOn, ih hrest]
    rfl

/-- Where a lookup is not answered, nothing beyond its object is dealt with. -/
theorem handleAll_of_stalls (hstop : ∀ index, stop ≠ some (.lookup index)) {objects : List Object}
    (hstalls : ∃ o ∈ objects, c.stalls (.added o) = true) (s : Store) (n : Nat) :
    ∃ reached, reached <+: objects ∧
      c.handleAll stop s n objects = (c.replay s (seeding reached), some .stuck) := by
  induction objects generalizing s n with
  | nil => exact absurd hstalls (by simp)
  | cons o rest ih =>
    rw [handleAll, if_neg (hstop n)]
    dsimp only
    rw [isStuck_handle]
    by_cases ho : c.stalls (.added o) = true
    · refine ⟨[o], ⟨rest, rfl⟩, ?_⟩
      rw [if_pos ho]
      rfl
    · have hrest : ∃ later ∈ rest, c.stalls (.added later) = true := by simpa [ho] using hstalls
      obtain ⟨reached, hreached, hall⟩ := ih hrest (c.handle s (.added o) .deferred).store (n + 1)
      refine ⟨o :: reached, (List.prefix_cons_inj o).mpr hreached, ?_⟩
      rw [if_neg ho, hall]
      rfl

private theorem seed_eq (hstop : ∀ index, stop ≠ some (.lookup index)) {objects : List Object}
    (hanswered : ∀ o ∈ objects, c.stalls (.added o) = false) (s : Store) :
    c.seed stop s objects
      = ((c.replay s (seeding objects)).write.note (.synced objects.length), none) := by
  rw [seed, handleAll_eq hstop hanswered]

section Kinds

variable {k : Kind} {c : Controller k.Form}

private theorem quiet_of_absent (hrules : c.rules = k.rules) {s : Store} {o : Object}
    (h : s.roster.get? (c.key o) = none) :
    (callsOf .deferred (c.ruling (.added o))).any (·.writes s) = false := by
  cases hruling : c.ruling (.added o) with
  | none => rfl
  | some found =>
    obtain ⟨key, v⟩ := found
    have hkey : key = c.key o := key_of_ruling hrules hruling
    cases v with
    | drop => simp [callsOf, Verdict.calls, Call.writes, Call.answer?, Store.has, hkey, h]
    | noUrl => rfl
    | invalid why => rfl
    | endpoint e => rfl

/-- Nothing is written while objects that have no entries yet are put into the store. -/
theorem quiet_seeding (hrules : c.rules = k.rules) {objects : List Object}
    (hkeys : (objects.map c.key).Nodup) {s : Store}
    (habsent : ∀ o ∈ objects, s.roster.get? (c.key o) = none) :
    Adds (fun x ↦ x.isIncidental = true) s (c.replay s (seeding objects)) ∧
      (c.replay s (seeding objects)).disk = s.disk := by
  induction objects generalizing s with
  | nil => exact ⟨.of_eq rfl, rfl⟩
  | cons o rest ih =>
    obtain ⟨ho, hrest⟩ := List.forall_mem_cons.mp habsent
    rw [List.map_cons, List.nodup_cons] at hkeys
    have hquiet := quiet_of_absent hrules ho
    have habsentAfter : ∀ later ∈ rest,
        (c.handle s (.added o) .deferred).store.roster.get? (c.key later) = none := by
      intro later hlater
      -- the others have other keys
      have hother : ∀ change ∈ [Change.added o], c.key change.object ≠ c.key later := by
        intro change hchange hsame
        rw [List.mem_singleton.mp hchange] at hsame
        exact hkeys.1 (hsame ▸ List.mem_map_of_mem hlater)
      have hroster : (c.handle s (.added o) .deferred).store.roster
          = c.carryOut s.roster [.added o] := c.roster_handle s _ _
      rw [hroster, get?_carryOut_of_ne hrules hother, hrest later hlater]
    obtain ⟨hadds, hdisk⟩ := ih hkeys.2 habsentAfter
    exact ⟨(adds_handle_of_quiet hquiet).trans hadds, hdisk.trans (disk_handle_of_quiet hquiet)⟩

theorem get?_carryOut_perm (hrules : c.rules = k.rules) {objects objects' : List Object}
    (hkeys : (objects.map c.key).Nodup) (hperm : objects'.Perm objects) (r : Roster) (key : Key) :
    (c.carryOut r (objects'.map Change.added)).get? key
      = (c.carryOut r (objects.map Change.added)).get? key := by
  have hkeys' : (objects'.map c.key).Nodup := (hperm.map c.key).nodup_iff.mpr hkeys
  by_cases h : ∃ o ∈ objects, c.key o = key
  · obtain ⟨o, ho, rfl⟩ := h
    rw [get?_carryOut_added hrules hkeys ho,
      get?_carryOut_added hrules hkeys' (hperm.mem_iff.mpr ho)]
  · have hnone : ∀ {those : List Object}, (∀ o ∈ those, o ∈ objects) →
        ∀ change ∈ those.map Change.added, c.key change.object ≠ key := by
      rintro those hthose change hchange rfl
      obtain ⟨o, ho, rfl⟩ := List.mem_map.mp hchange
      exact h ⟨o, hthose o ho, rfl⟩
    rw [get?_carryOut_of_ne hrules (hnone fun o ho ↦ ho),
      get?_carryOut_of_ne hrules (hnone fun o ho ↦ hperm.mem_iff.mp ho)]

theorem distinct_carryOut {r : Roster} (h : r.Distinct) (changes : List Change) :
    (c.carryOut r changes).Distinct := by
  induction changes generalizing r with
  | nil => exact h
  | cons change rest ih => exact ih (h.settle (c.ruling change))

end Kinds

/-! ## What the watches add -/

/-- What happens once the first list is in the store: whatever the events of watches bring, and the
polls of these watches. -/
def IsOfWatches (x : Happening) : Prop :=
  IsWithin true x ∨ ∃ p version, x = .polled p ∧ p.ask = .watch version

theorem adds_opened (c : Controller κ) (n : Nat) (here : Watching) (request : Request) :
    Adds IsOfWatches here.store (c.opened n here request).store :=
  Store.adds_record here.store fun _ hx ↦
    .inr ⟨_, here.version, List.mem_singleton.mp hx, rfl⟩

theorem adds_attend_opened {n : Nat} {here after : Watching} {request : Request}
    {response : Response} {outcome : Outcome}
    (hattend : c.attend stop n (c.opened n here request) response = (after, outcome)) :
    Adds IsOfWatches (c.opened n here request).store after.store := by
  have hadds := c.adds_attend stop n (c.opened n here request) response
  rw [hattend] at hadds
  exact hadds.mono fun _ ↦ .inl

theorem Rounds.adds {script : Script} {n : Nat} {here : Watching} {report : Report}
    (h : Rounds c stop script n here report) : Adds IsOfWatches here.store report.store := by
  induction h with
  | toldBefore htold => exact .of_eq rfl
  | @unaskable script n here hrequest =>
    obtain ⟨count, hstore⟩ := c.store_insist stop here n
    rw [hstore]
    refine Store.adds_record here.store fun x hx ↦ .inl (.inl ?_)
    rw [List.eq_of_mem_replicate hx]
    rfl
  | toldOpening hrequest htold => exact adds_opened c _ _ _
  | unanswered hrequest => exact adds_opened c _ _ _
  | finished hrequest hattend =>
    exact (adds_opened c _ _ _).trans (adds_attend_opened hattend)
  | toldAfter hrequest hattend htold =>
    exact (adds_opened c _ _ _).trans (adds_attend_opened hattend)
  | again hrequest hattend hrounds ih =>
    exact ((adds_opened c _ _ _).trans (adds_attend_opened hattend)).trans ih

/-- Nothing comes between where a loop starts and its first watch. If there is no watch, then
nothing comes at all, or only notices of watches that could not be asked for. -/
inductive OpensAt (here : Watching) : List Happening → Prop where
  | never : OpensAt here []
  | unaskable (count : Nat) : OpensAt here (refusals count)
  | asked {p : Poll} (later : List Happening) : p.ask = .watch here.version →
      p.initialized = true → p.file = here.store.disk.contents →
      p.count = here.store.roster.length → OpensAt here (.polled p :: later)

theorem opensAt_of_opened {n : Nat} {here : Watching} {request : Request} {s : Store}
    (h : Adds IsOfWatches (c.opened n here request).store s) :
    ∃ later, s.history = here.store.history ++ later ∧ OpensAt here later := by
  obtain ⟨added, hhistory, -⟩ := h
  refine ⟨_, hhistory.trans (List.append_assoc ..), ?_⟩
  exact .asked added rfl rfl rfl rfl

private theorem Rounds.opensAt {script : Script} {n : Nat} {here : Watching} {report : Report}
    (h : Rounds c stop script n here report) :
    ∃ later, report.store.history = here.store.history ++ later ∧ OpensAt here later := by
  cases h with
  | toldBefore htold => exact ⟨[], (List.append_nil _).symm, .never⟩
  | unaskable hrequest =>
    obtain ⟨count, hstore⟩ := c.store_insist stop here n
    rw [hstore]
    exact ⟨_, rfl, .unaskable count⟩
  | toldOpening hrequest htold => exact opensAt_of_opened (.of_eq rfl)
  | unanswered hrequest => exact opensAt_of_opened (.of_eq rfl)
  | finished hrequest hattend => exact opensAt_of_opened (adds_attend_opened hattend)
  | toldAfter hrequest hattend htold => exact opensAt_of_opened (adds_attend_opened hattend)
  | again hrequest hattend hrounds =>
    exact opensAt_of_opened ((adds_attend_opened hattend).trans hrounds.adds)

/-! ## The whole first list -/

/-- A run is not told to stop before the first list has been written. -/
structure Uninterrupted (stop : Option Moment) : Prop where
  asking : stop ≠ some (.asking 0)
  answering : stop ≠ some (.answering 0)
  lookup : ∀ index, stop ≠ some (.lookup index)

/-- Where a controller starts to watch. -/
def seeded (c : Controller κ) (s : Store) (l : Listing) : Watching where
  store := (((c.replay s (seeding l.objects)).write.note (.synced l.objects.length)).record
    [.released]).note (.watching l.version)
  version := l.version

/-- How a run goes on after its first list. -/
def goOn (c : Controller κ) (stop : Option Moment) (script : Script) (l : Listing) :
    Store × Option Result → Report
  | (after, some result) => endEarly after result
  | (after, none) => c.watch stop script.tail 1
    ⟨(after.record [.released]).note (.watching l.version), l.version⟩

/-- A list that can be had is dealt with as far as that goes. -/
theorem run_of_list (hasking : stop ≠ some (.asking 0)) (hanswering : stop ≠ some (.answering 0))
    {script : Script} {l : Listing} (hlist : c.firstList script = .listed l) (s : Store) :
    ∃ request, c.request? .list = some request ∧ c.run s script stop
      = c.goOn stop script l (c.seed stop (poll s .list request 0 false) l.objects) := by
  cases hrequest : c.request? .list with
  | none =>
    rw [firstList, hrequest] at hlist
    exact absurd hlist (by simp)
  | some request =>
    rw [firstList_of_request hrequest] at hlist
    refine ⟨request, rfl, ?_⟩
    rw [run, if_neg hasking, hrequest]
    dsimp only
    rw [if_neg hanswering, hlist]
    rfl

theorem run_of_listed (hstop : Uninterrupted stop) {script : Script} {l : Listing}
    (hlist : c.firstList script = .listed l)
    (hanswered : ∀ o ∈ l.objects, c.stalls (.added o) = false) (s : Store) :
    ∃ request, c.request? .list = some request ∧ c.run s script stop
      = c.watch stop script.tail 1 (c.seeded (poll s .list request 0 false) l) := by
  obtain ⟨request, hrequest, hrun⟩ := run_of_list hstop.asking hstop.answering hlist s
  rw [seed_eq hstop.lookup hanswered] at hrun
  exact ⟨request, hrequest, hrun⟩

theorem run_of_not_answered (hstop : Uninterrupted stop) {script : Script} {l : Listing}
    (hlist : c.firstList script = .listed l)
    (hstalls : ∃ o ∈ l.objects, c.stalls (.added o) = true) (s : Store) :
    ∃ request reached, reached <+: l.objects ∧ c.run s script stop
      = endEarly (c.replay (poll s .list request 0 false) (seeding reached)) .stuck := by
  obtain ⟨request, -, hrun⟩ := run_of_list hstop.asking hstop.answering hlist s
  obtain ⟨reached, hreached, hall⟩ :=
    handleAll_of_stalls hstop.lookup hstalls (poll s .list request 0 false) 0
  rw [seed, hall] at hrun
  exact ⟨request, reached, hreached, hrun⟩

theorem watch_of_told {n : Nat} (h : stop = some (.asking n)) (script : Script)
    (here : Watching) : c.watch stop script n here
      = ⟨here.store, .told (.asking n), c.timeOf n⟩ := by
  cases script with
  | nil => rw [watch, ask, if_pos h]
  | cons response rest => rw [watch, ask, if_pos h]

/-- No list means that none could be asked for, or that the response says none. -/
theorem firstList_eq_failed_iff {script : Script} : c.firstList script = .failed ↔
    c.request? .list = none ∨ (script.head?.getD .pending).NoList := by
  rw [firstList]
  cases hrequest : c.request? .list with
  | none => simp
  | some request =>
    rw [← Response.list_eq_failed_iff]
    simp

theorem run_of_failed (hasking : stop ≠ some (.asking 0)) (hanswering : stop ≠ some (.answering 0))
    {script : Script} (hlist : c.firstList script = .failed) (s : Store) :
    ∃ polls, c.run s script stop = endEarly (s.record polls) .noList ∧
      (polls = [] ∨ ∃ p, polls = [.polled p] ∧ p.ask = .list) := by
  have hbegun := begun_run c stop s script
  generalize c.run s script stop = report at hbegun
  cases hbegun with
  | toldBefore htold => exact absurd htold hasking
  | unaskable hrequest =>
    have hnothing : s.record [] = s := by rw [Store.record, List.append_nil]
    exact ⟨[], by rw [hnothing], .inl rfl⟩
  | toldAnswering hrequest htold => exact absurd htold hanswering
  | noList hrequest hfailed => exact ⟨_, rfl, .inr ⟨_, rfl, rfl⟩⟩
  | silent hrequest hpending => exact absurd (hlist.symm.trans hpending) (by simp)
  | brokeOff hrequest hlisted hseed => exact absurd (hlist.symm.trans hlisted) (by simp)
  | seeded hrequest hlisted hseed => exact absurd (hlist.symm.trans hlisted) (by simp)

/-- The objects of a first list are new to a store: they have different keys, and nothing stands
there under any key of their kind. -/
structure AllNew (c : Controller κ) (s : Store) (objects : List Object) : Prop where
  keys : (objects.map c.key).Nodup
  unknown : ∀ key : Key, key.resource = c.rules.resource.plural → s.roster.get? key = none

/-- The objects of a first list can be put into a store and written: they are new to it, what they
inherit is answered, and there is a text for them and a place for it. -/
structure Seedable (c : Controller κ) (s : Store) (objects : List Object) (text : String) : Prop
    extends AllNew c s objects where
  answered : ∀ o ∈ objects, c.stalls (.added o) = false
  distinct : s.roster.Distinct
  place : s.disk.place = .free
  renders : (c.carryOut s.roster (objects.map Change.added)).render? = some text

/-- Nothing is different for a list once it has been asked for. -/
theorem Seedable.asked {s : Store} {objects : List Object} {text : String}
    (h : c.Seedable s objects text) (ask : Ask) (request : Request) (milliseconds : Nat)
    (initialized : Bool) :
    c.Seedable (poll s ask request milliseconds initialized) objects text :=
  ⟨⟨h.keys, h.unknown⟩, h.answered, h.distinct, h.place, h.renders⟩

private theorem roster_seeded (c : Controller κ) (s : Store) (l : Listing) :
    (c.seeded s l).store.roster = c.carryOut s.roster (l.objects.map Change.added) := by
  rw [seeded, Store.roster_note, Store.roster_record, Store.roster_note, Store.roster_write,
    roster_replay_seeding]

theorem write_seeding {s : Store} {objects : List Object} {text : String}
    (h : c.Seedable s objects text) : (c.replay s (seeding objects)).write
      = { c.replay s (seeding objects) with
          disk := { (c.replay s (seeding objects)).disk with contents := some text } }.note
        (.rosterWritten (c.carryOut s.roster (objects.map Change.added)).length) := by
  have hplace : (c.replay s (seeding objects)).disk.place = .free := by rw [place_replay, h.place]
  have htext : (c.replay s (seeding objects)).roster.render? = some text := by
    rw [roster_replay_seeding, h.renders]
  rw [Store.write_eq hplace htext, ← roster_replay_seeding]

section Kinds

variable {k : Kind} {c : Controller k.Form}

private theorem history_seeded (hrules : c.rules = k.rules) {s : Store} {l : Listing}
    {text : String}
    (h : c.Seedable s l.objects text) : ∃ looked, (∀ x ∈ looked, x.isIncidental = true) ∧
      (c.seeded s l).store.history = s.history ++ looked ++
        [.noticed (.rosterWritten (c.carryOut s.roster (l.objects.map Change.added)).length),
          .noticed (.synced l.objects.length), .released, .noticed (.watching l.version)] := by
  obtain ⟨⟨looked, hhistory, hincidental⟩, -⟩ :=
    quiet_seeding hrules h.keys fun _ _ ↦ h.unknown _ rfl
  refine ⟨looked, hincidental, ?_⟩
  rw [← hhistory, seeded, write_seeding h]
  simp [Store.note, Store.record]

theorem Seedable.perm (hrules : c.rules = k.rules) {s : Store} {objects objects' : List Object}
    {text : String} (h : c.Seedable s objects text) (hperm : objects'.Perm objects) :
    c.Seedable s objects' text where
  keys := (hperm.map c.key).nodup_iff.mpr h.keys
  unknown := h.unknown
  answered o ho := h.answered o (hperm.mem_iff.mp ho)
  distinct := h.distinct
  place := h.place
  renders := by
    rw [← h.renders]
    exact (distinct_carryOut h.distinct _).render?_eq (distinct_carryOut h.distinct _)
      (get?_carryOut_perm hrules h.keys hperm s.roster)

theorem store_before_first_watch {script : Script} {l : Listing}
    (hlist : c.firstList script = .listed l)
    (hanswered : ∀ o ∈ l.objects, c.stalls (.added o) = false) {request : Request}
    (hrequest : c.request? .list = some request) (s : Store) :
    (c.run s script (some (.asking 1))).store
      = (c.seeded (poll s .list request 0 false) l).store := by
  have hstop : Uninterrupted (some (.asking 1)) := ⟨by simp, by simp, by simp⟩
  obtain ⟨request', hrequest', hrun⟩ := run_of_listed hstop hlist hanswered s
  rw [hrequest, Option.some.injEq] at hrequest'
  rw [hrun, watch_of_told rfl, hrequest']

/-- Right before the first watch the list is in the roster and in the file. -/
theorem standsAt_first_watch {s : Store} {script : Script} {l : Listing} {text : String}
    (hlist : c.firstList script = .listed l) (h : c.Seedable s l.objects text) :
    c.StandsAt s script (.asking 1) (c.carryOut s.roster (l.objects.map Change.added)) ∧
      (c.run s script (some (.asking 1))).store.disk.contents = some text := by
  have hstop : Uninterrupted (some (.asking 1)) := ⟨by simp, by simp, by simp⟩
  obtain ⟨request, -, hrun⟩ := run_of_listed hstop hlist h.answered s
  rw [StandsAt, hrun, watch_of_told rfl]
  refine ⟨⟨rfl, roster_seeded c _ l⟩, ?_⟩
  rw [seeded, write_seeding (h.asked .list request 0 false)]
  rfl

theorem run_of_stalls (hrules : c.rules = k.rules) {stop : Option Moment}
    (hstop : Uninterrupted stop) {s : Store} {script : Script} {l : Listing}
    (hlist : c.firstList script = .listed l) (h : c.AllNew s l.objects)
    (hstalls : ∃ o ∈ l.objects, c.stalls (.added o) = true) :
    (c.run s script stop).result = .stuck ∧ (c.run s script stop).store.disk = s.disk ∧
      ∃ p looked, (c.run s script stop).store.history
          = s.history ++ .polled p :: looked ++ [.released] ∧
        p.ask = .list ∧ ∀ x ∈ looked, x.isIncidental = true := by
  obtain ⟨request, reached, hreached, hrun⟩ := run_of_not_answered hstop hlist hstalls s
  have hkeys : (reached.map c.key).Nodup :=
    List.Sublist.nodup (hreached.sublist.map c.key) h.keys
  obtain ⟨⟨looked, hhistory, hincidental⟩, hdisk⟩ := quiet_seeding hrules hkeys
    (s := poll s .list request 0 false) fun _ _ ↦ h.unknown _ rfl
  rw [hrun]
  refine ⟨rfl, hdisk, ⟨.list, request, 0, false, s.disk.contents, s.roster.length⟩, looked, ?_, rfl,
    hincidental⟩
  rw [endEarly, Store.record, hhistory]
  simp [poll, Store.record]

/-- What comes of a first list that is put into the store and written. -/
structure WrittenOnce (c : Controller κ) (s : Store) (script : Script) (stop : Option Moment)
    (l : Listing) (text : String) : Prop where
  /-- Right before the first watch all objects have been dealt with, each as if it were the only
  one. -/
  stands : c.StandsAt s script (.asking 1) (c.carryOut s.roster (l.objects.map Change.added))
  each : ∀ o ∈ l.objects, (c.carryOut s.roster (l.objects.map Change.added)).get? (c.key o)
    = (s.roster.settle (c.ruling (.added o))).get? (c.key o)
  /-- Then the file holds the text of all of them. -/
  file : (c.run s script (some (.asking 1))).store.disk.contents = some text
  /-- The list is asked for, its objects are dealt with, and it is written; only then is the handle
  released, and only then comes the first watch. -/
  history : ∃ p looked later, (c.run s script stop).store.history
      = s.history ++ .polled p :: looked ++
        [.noticed (.rosterWritten (c.carryOut s.roster (l.objects.map Change.added)).length),
          .noticed (.synced l.objects.length), .released, .noticed (.watching l.version)] ++ later ∧
    p.ask = .list ∧ (∀ x ∈ looked, x.isIncidental = true) ∧
    OpensAt ⟨(c.run s script (some (.asking 1))).store, l.version⟩ later
  /-- Another order of the list leads to the same entries and to the same text. -/
  order : ∀ script' l', c.firstList script' = .listed l' → l'.objects.Perm l.objects →
    (∀ key, (c.run s script' (some (.asking 1))).store.roster.get? key
      = (c.run s script (some (.asking 1))).store.roster.get? key) ∧
    (c.run s script' (some (.asking 1))).store.disk.contents = some text

theorem Seedable.writtenOnce (hrules : c.rules = k.rules) {stop : Option Moment}
    (hstop : Uninterrupted stop) {s : Store} {script : Script} {l : Listing} {text : String}
    (hlist : c.firstList script = .listed l) (h : c.Seedable s l.objects text) :
    c.WrittenOnce s script stop l text := by
  obtain ⟨hstands, hfile⟩ := standsAt_first_watch hlist h
  refine ⟨hstands, fun o ho ↦ get?_carryOut_added hrules h.keys ho s.roster, hfile, ?_, ?_⟩
  · obtain ⟨request, hrequest, hrun⟩ := run_of_listed hstop hlist h.answered s
    obtain ⟨looked, hincidental, hhistory⟩ :=
      history_seeded hrules (h.asked .list request 0 false)
    obtain ⟨later, hlater, hopens⟩ := (rounds_watch c stop script.tail
      (c.seeded (poll s .list request 0 false) l) 1).opensAt
    refine ⟨⟨.list, request, 0, false, s.disk.contents, s.roster.length⟩, looked, later, ?_, rfl,
      hincidental, ?_⟩
    · rw [hrun, hlater, hhistory]
      simp [poll, Store.record]
    · rw [store_before_first_watch hlist h.answered hrequest]
      exact hopens
  · intro script' l' hlist' hperm
    obtain ⟨hstands', hfile'⟩ := standsAt_first_watch hlist' (h.perm hrules hperm)
    refine ⟨fun key ↦ ?_, hfile'⟩
    rw [hstands.2, hstands'.2, get?_carryOut_perm hrules h.keys hperm]

/-- **The first list is written once.** Suppose that a run is not told to stop before the first list
has been written. If the list can be had and put into the store, then its objects are all in the
roster and in the file right before the first watch is asked for. Nothing was written before the
last of them, and after that the file was written once; then the handle was released, and only then
comes the first watch. The order of the list does not matter. If a lookup for one of the objects is
never answered, nothing is written and no watch is asked for. If the list cannot be had, the run
ends with that as its result; it has asked for nothing else, and the roster and the file are as they
were. -/
theorem first_list_written_once (hrules : c.rules = k.rules) {stop : Option Moment}
    (hstop : Uninterrupted stop) (s : Store) (script : Script) :
    (∀ l text, c.firstList script = .listed l → c.Seedable s l.objects text →
      c.WrittenOnce s script stop l text) ∧
    (∀ l, c.firstList script = .listed l → c.AllNew s l.objects →
      (∃ o ∈ l.objects, c.stalls (.added o) = true) →
      (c.run s script stop).result = .stuck ∧ (c.run s script stop).store.disk = s.disk ∧
      ∃ p looked, (c.run s script stop).store.history
          = s.history ++ .polled p :: looked ++ [.released] ∧
        p.ask = .list ∧ ∀ x ∈ looked, x.isIncidental = true) ∧
    (c.firstList script = .failed → (c.run s script stop).result = .noList ∧
      (c.run s script stop).store.roster = s.roster ∧
      (c.run s script stop).store.disk = s.disk ∧
      ∃ polls, (c.run s script stop).store.history = s.history ++ polls ++ [.released] ∧
        (polls = [] ∨ ∃ p, polls = [.polled p] ∧ p.ask = .list)) ∧
    (c.firstList script = .failed ↔
      c.request? .list = none ∨ (script.head?.getD .pending).NoList) := by
  refine ⟨fun l text hlist h ↦ h.writtenOnce hrules hstop hlist,
    fun l hlist hnew hstalls ↦ run_of_stalls hrules hstop hlist hnew hstalls, fun hlist ↦ ?_,
    firstList_eq_failed_iff⟩
  obtain ⟨polls, hrun, hpolls⟩ := run_of_failed hstop.asking hstop.answering hlist s
  rw [hrun]
  exact ⟨rfl, rfl, rfl, polls, rfl, hpolls⟩

def twoServices : Response :=
  .reply 200 ("\x7b\"items\":[" ++ serviceText "beta" ++ "," ++ serviceText "alpha" ++ "]\x7d")
    .complete

/-- Two services of one list are new, and they are written together. -/
theorem two_services_written_once : Uninterrupted none ∧ ∃ l text,
    everyService.firstList [twoServices] = .listed l ∧
    l.objects.map everyService.key = [serviceKey "beta", serviceKey "alpha"] ∧
    everyService.Seedable {} l.objects text ∧
    everyService.WrittenOnce {} [twoServices] none l text := by
  have hstop : Uninterrupted none := ⟨by simp, by simp, by simp⟩
  obtain ⟨l, hlist, hchecked⟩ : ∃ l, everyService.firstList [twoServices] = .listed l ∧
      (l.objects.map everyService.key == [serviceKey "beta", serviceKey "alpha"] &&
        (l.objects.all (fun o ↦ !everyService.stalls (.added o)) &&
          (everyService.carryOut [] (l.objects.map Change.added)).all (·.2.isWritable))) = true :=
    ListResult.of_any_listing? (by decide +kernel)
  simp only [Bool.and_eq_true, beq_iff_eq, List.all_eq_true, Bool.not_eq_true'] at hchecked
  obtain ⟨hkeys, hanswered, hwritable⟩ := hchecked
  obtain ⟨text, htext⟩ := Option.isSome_iff_exists.mp (Roster.render?_isSome_iff.mpr hwritable)
  have hseedable : everyService.Seedable {} l.objects text :=
    ⟨⟨by rw [hkeys]; decide, fun _ _ ↦ rfl⟩, hanswered, Roster.distinct_nil, rfl, htext⟩
  exact ⟨hstop, l, text, hlist, hkeys, hseedable,
    (first_list_written_once (k := .service) rfl hstop {} _).1 l text hlist hseedable⟩

end Kinds

end Controller

end EndpointSync
