import EndpointSync.Initialization
import Mathlib.Data.List.Count

/-!
# Counting releases is enough

Whoever waits for handles keeps no list of them. Three numbers are kept: how many handles were
issued, how many times one was dropped, and how many drops the wait is for. Nothing in them tells
one handle from another, and a drop is counted whenever it comes, before later handles are issued
or before the wait begins.

What makes the numbers enough is the way in which handles can be used at all. A handle has one
owner, so it is dropped at most once and not before it was issued, and none is issued any more once
the wait has begun. These are the possible courses (`Initialization.Possible`). Along any of them
the numbers are those that the handles themselves give (`Initialization.Counted`), and a handle is
held exactly if it was issued and not dropped (`Initialization.Follows`). As many drops as handles
then means that no handle is held any more.

The one thing that can go wrong is the count itself, which is a word of 32 bits. It is right as long
as fewer handles are issued than there are such words. With so many of them it is back at zero, and
a wait is over while every handle is held (`Initialization.ready_with_none_dropped_iff`).
-/

namespace EndpointSync.Initialization

/-! ## The numbers -/

/-- The numbers are those that the handles give, and the wait is for all handles that were
issued. -/
structure Counted (i : Initialization) : Prop where
  issued_eq : i.issued = UInt32.ofNat (i.handles.countP (· ≠ .void))
  releases_eq : i.releases = i.handles.count .released
  awaited_eq : ∀ n, i.awaited = some n → n = i.issued

theorem add_of_idle {i : Initialization} (h : i.awaited = none) :
    i.add = { i with handles := i.handles ++ [.held], issued := i.issued + 1 } := by
  rw [add, h]
  rfl

theorem release_of_held {i : Initialization} {number : Nat}
    (h : i.handles[number]? = some .held) :
    i.release number
      = { i with handles := i.handles.set number .released, releases := i.releases + 1 } := by
  rw [release, if_pos h]

theorem status_eq_ready_iff {i : Initialization} :
    i.status = .ready ↔ ∃ n, i.awaited = some n ∧ n.toNat ≤ i.releases := by
  rw [status]
  cases i.awaited with
  | none => simp
  | some n => simp

private theorem countP_issued (handles : List Handle) :
    handles.countP (· ≠ .void) = handles.count .released + handles.count .held := by
  induction handles with
  | nil => rfl
  | cons handle rest ih =>
    rw [List.countP_cons, List.count_cons, List.count_cons, ih]
    cases handle <;> simp <;> omega

namespace Counted

variable {i : Initialization}

theorem start : Counted {} := ⟨rfl, rfl, by simp⟩

theorem add (h : i.Counted) : i.add.Counted := by
  cases hawaited : i.awaited with
  | none =>
    rw [add_of_idle hawaited]
    refine ⟨?_, ?_, by simp [hawaited]⟩
    · simp [h.issued_eq]
    · simp [h.releases_eq]
  | some n =>
    -- nothing is issued any more
    rw [Initialization.add, hawaited, Option.isSome_some, if_pos rfl]
    exact ⟨by simp [h.issued_eq], by simp [h.releases_eq], fun m hm ↦
      h.awaited_eq m (hawaited.trans hm)⟩

theorem release (h : i.Counted) (number : Nat) : (i.release number).Counted := by
  by_cases hheld : i.handles[number]? = some .held
  · obtain ⟨hlt, hhandle⟩ := List.getElem?_eq_some_iff.mp hheld
    rw [release_of_held hheld]
    refine ⟨?_, ?_, h.awaited_eq⟩
    · have hsome : 0 < i.handles.countP (· ≠ .void) :=
        List.countP_pos_iff.mpr ⟨.held, hhandle ▸ List.getElem_mem hlt, by simp⟩
      have hsame : (i.handles.set number .released).countP (· ≠ .void)
          = i.handles.countP (· ≠ .void) := by
        rw [List.countP_set hlt, hhandle]
        exact Nat.sub_add_cancel hsome
      rw [hsame]
      exact h.issued_eq
    · rw [List.count_set hlt, hhandle, h.releases_eq]
      rfl
  · rw [Initialization.release, if_neg hheld]
    exact h

theorem wait (h : i.Counted) : i.wait.Counted := by
  refine ⟨h.issued_eq, h.releases_eq, fun n hn ↦ ?_⟩
  rw [Initialization.wait] at hn
  cases hawaited : i.awaited with
  | none =>
    rw [hawaited, Option.none_or, Option.some.injEq] at hn
    exact hn.symm
  | some m =>
    rw [hawaited, Option.some_or, Option.some.injEq] at hn
    exact hn ▸ h.awaited_eq m hawaited

theorem ready_iff (h : i.Counted) : i.status = .ready ↔ i.awaited.isSome = true ∧
    i.handles.countP (· ≠ .void) % UInt32.size ≤ i.handles.count .released := by
  rw [status]
  cases hawaited : i.awaited with
  | none => simp
  | some n => simp [h.awaited_eq n hawaited, h.issued_eq, h.releases_eq]

theorem ready_iff_of_lt (h : i.Counted) (hlt : i.handles.countP (· ≠ .void) < UInt32.size) :
    i.status = .ready ↔ i.awaited.isSome = true ∧ .held ∉ i.handles := by
  rw [h.ready_iff, Nat.mod_eq_of_lt hlt, countP_issued, ← List.count_eq_zero]
  exact and_congr_right fun _ ↦ by omega

end Counted

/-! ## Courses of events -/

/-- What can happen to handles and to the wait. Handles are numbered as they are issued. -/
inductive Act where
  | add
  | drop (number : Nat)
  | wait
deriving DecidableEq, Repr

def Act.isDrop : Act → Bool
  | .drop _ => true
  | _ => false

/-- What an act makes of the handles. -/
def act (i : Initialization) : Act → Initialization
  | .add => i.add
  | .drop number => i.release number
  | .wait => i.wait

/-- What is left of a course of acts. -/
def perform (acts : List Act) : Initialization := acts.foldl act {}

/-- The courses that owners of handles can take. -/
inductive Possible : List Act → Prop where
  | nil : Possible []
  | add {acts : List Act} : Possible acts → .wait ∉ acts → Possible (acts ++ [.add])
  /-- A handle that was issued is dropped for the first time. -/
  | drop {acts : List Act} {number : Nat} : Possible acts → number < acts.count .add →
      .drop number ∉ acts → Possible (acts ++ [.drop number])
  | wait {acts : List Act} : Possible acts → .wait ∉ acts → Possible (acts ++ [.wait])

private theorem perform_append_singleton (acts : List Act) (a : Act) :
    perform (acts ++ [a]) = (perform acts).act a := by
  rw [perform, perform, List.foldl_append, List.foldl_cons, List.foldl_nil]

theorem Possible.lt_of_drop_mem {acts : List Act} (h : Possible acts) {number : Nat}
    (hdrop : .drop number ∈ acts) : number < acts.count .add := by
  induction h with
  | nil => exact absurd hdrop List.not_mem_nil
  | add _ _ ih =>
    have hearlier := ih (by simpa using hdrop)
    simp only [List.count_append]
    omega
  | @drop acts other _ hissued _ ih =>
    rw [List.count_append, List.count_singleton, if_neg (by simp), Nat.add_zero]
    rcases List.mem_append.mp hdrop with hold | hnew
    · exact ih hold
    · rw [Act.drop.inj (List.mem_singleton.mp hnew)]
      exact hissued
  | wait _ _ ih =>
    have hearlier := ih (by simpa using hdrop)
    simp only [List.count_append]
    omega

/-! ## One act -/

/-- What the handles are after a course of acts: those that were issued, in order, of which those
are held that were not dropped, with the numbers that were counted. -/
structure Follows (i : Initialization) (acts : List Act) : Prop where
  counted : i.Counted
  length_eq : i.handles.length = acts.count .add
  issued : .void ∉ i.handles
  held_iff : ∀ number, i.handles[number]? = some .held ↔
    number < acts.count .add ∧ .drop number ∉ acts
  releases_eq : i.releases = acts.countP Act.isDrop
  waits_iff : i.awaited.isSome = true ↔ .wait ∈ acts

namespace Follows

variable {i : Initialization} {acts : List Act}

theorem idle (h : i.Follows acts) (hidle : .wait ∉ acts) : i.awaited = none :=
  Option.not_isSome_iff_eq_none.mp fun hwaits ↦ hidle (h.waits_iff.mp hwaits)

theorem add (h : i.Follows acts) (hpossible : Possible acts) (hidle : .wait ∉ acts) :
    i.add.Follows (acts ++ [.add]) := by
  have hadd := add_of_idle (h.idle hidle)
  refine ⟨h.counted.add, ?_, ?_, fun number ↦ ?_, ?_, ?_⟩
  · simp [hadd, h.length_eq]
  · simp [hadd, h.issued]
  · -- the new handle has the next number, which has not been dropped yet
    have hfresh : Act.drop (acts.count .add) ∉ acts :=
      fun hdrop ↦ Nat.lt_irrefl _ (hpossible.lt_of_drop_mem hdrop)
    have hkept : Act.drop number ∉ acts ++ [.add] ↔ Act.drop number ∉ acts := by simp
    rw [hadd, hkept, List.count_append, List.count_singleton_self]
    dsimp only
    rw [List.getElem?_append, h.length_eq]
    split
    next hold => rw [h.held_iff, and_iff_right hold, and_iff_right (Nat.lt_succ_of_lt hold)]
    next hnew =>
      by_cases hlast : number = acts.count .add
      · simp [hlast, hfresh]
      · have hbeyond : ¬number < acts.count .add + 1 := by omega
        have hnothing : [Handle.held][number - acts.count .add]? = none :=
          List.getElem?_eq_none (by rw [List.length_singleton]; omega)
        simp [hnothing, hbeyond]
  · simp [hadd, h.releases_eq, Act.isDrop]
  · simp [hadd, h.waits_iff]

theorem drop (h : i.Follows acts) {number : Nat} (hissued : number < acts.count .add)
    (hheld : .drop number ∉ acts) : (i.release number).Follows (acts ++ [.drop number]) := by
  have hrelease := release_of_held ((h.held_iff number).mpr ⟨hissued, hheld⟩)
  refine ⟨h.counted.release number, ?_, ?_, fun other ↦ ?_, ?_, ?_⟩
  · simp [hrelease, h.length_eq]
  · rw [hrelease]
    intro hvoid
    rcases List.mem_or_eq_of_mem_set hvoid with hold | hnew
    · exact h.issued hold
    · exact absurd hnew (by simp)
  · rw [hrelease, List.getElem?_set, List.count_append]
    by_cases hsame : number = other
    · simp [hsame]
    · simp [hsame, h.held_iff, Ne.symm hsame]
  · simp [hrelease, h.releases_eq, Act.isDrop]
  · simp [hrelease, h.waits_iff]

theorem wait (h : i.Follows acts) : i.wait.Follows (acts ++ [.wait]) := by
  refine ⟨h.counted.wait, ?_, h.issued, fun number ↦ ?_, ?_, ?_⟩
  · simpa [Initialization.wait] using h.length_eq
  · simpa [Initialization.wait] using h.held_iff number
  · simpa [Initialization.wait, Act.isDrop] using h.releases_eq
  · simp [Initialization.wait]

theorem countP_issued_eq (h : i.Follows acts) :
    i.handles.countP (· ≠ .void) = acts.count .add := by
  rw [← h.length_eq, List.countP_eq_length]
  intro handle hhandle
  exact decide_eq_true fun hvoid ↦ h.issued (hvoid ▸ hhandle)

private theorem held_mem_iff (h : i.Follows acts) :
    .held ∈ i.handles ↔ ∃ number < acts.count .add, .drop number ∉ acts := by
  rw [List.mem_iff_getElem?]
  exact exists_congr h.held_iff

theorem ready_iff (h : i.Follows acts) : i.status = .ready ↔
    .wait ∈ acts ∧ acts.count .add % UInt32.size ≤ acts.countP Act.isDrop := by
  rw [h.counted.ready_iff, h.countP_issued_eq, ← h.counted.releases_eq, h.releases_eq, h.waits_iff]

end Follows

/-! ## A whole course -/

theorem Possible.follows {acts : List Act} (h : Possible acts) : (perform acts).Follows acts := by
  induction h with
  | nil => exact ⟨.start, rfl, by simp [perform], by simp [perform], rfl, by simp [perform]⟩
  | add hpossible hidle ih =>
    rw [perform_append_singleton]
    exact ih.add hpossible hidle
  | drop _ hissued hheld ih =>
    rw [perform_append_singleton]
    exact ih.drop hissued hheld
  | wait _ _ ih =>
    rw [perform_append_singleton]
    exact ih.wait

/-- **When the wait is over.** Suppose that handles are issued, that each of them is dropped at most
once, and that the wait begins at any point after which none is issued any more. Then, at every
point of the course, the wait is over if and only if it has begun and there were as many drops as
handles were issued, counted in a word of 32 bits. So it is over once every handle that was issued
has been dropped, in whatever order all of this came about. As long as the count is right, that is,
with fewer handles than there are such words, it is not over before. -/
theorem ready_iff_all_dropped {acts : List Act} (h : Possible acts) :
    ((perform acts).status = .idle ↔ .wait ∉ acts) ∧
      ((perform acts).status = .ready ↔
        .wait ∈ acts ∧ acts.count .add % UInt32.size ≤ acts.countP Act.isDrop) ∧
      (.wait ∈ acts → (∀ number < acts.count .add, .drop number ∈ acts) →
        (perform acts).status = .ready) ∧
      (acts.count .add < UInt32.size → ((perform acts).status = .ready ↔
        .wait ∈ acts ∧ ∀ number < acts.count .add, .drop number ∈ acts)) := by
  have hfollows := h.follows
  have hdropped : .held ∉ (perform acts).handles ↔
      ∀ number < acts.count .add, .drop number ∈ acts := by
    rw [hfollows.held_mem_iff]
    simp
  refine ⟨?_, hfollows.ready_iff, fun hwait hall ↦ ?_, fun hlt ↦ ?_⟩
  · rw [← hfollows.waits_iff, status]
    cases (perform acts).awaited with
    | none => simp
    | some n =>
      simp only [Option.isSome_some, not_true_eq_false, iff_false]
      split <;> simp
  · -- with no handle held there are as many drops as handles, and the count is never too high
    have hnone := List.count_eq_zero.mpr (hdropped.mpr hall)
    have hcount := countP_issued (perform acts).handles
    rw [hnone, hfollows.countP_issued_eq, Nat.add_zero, ← hfollows.counted.releases_eq,
      hfollows.releases_eq] at hcount
    exact hfollows.ready_iff.mpr ⟨hwait, hcount ▸ Nat.mod_le _ _⟩
  · rw [hfollows.counted.ready_iff_of_lt (by rw [hfollows.countP_issued_eq]; exact hlt),
      hfollows.waits_iff, hdropped]

/-- Of two handles one is dropped before the other is issued, and that one after the wait has begun.
The wait is over with the second drop. Where there is no handle at all, it is over at once. -/
theorem ready_with_last_drop :
    Possible [.add, .drop 0, .add, .wait] ∧
      Possible [.add, .drop 0, .add, .wait, .drop 1] ∧ Possible [.wait] ∧
      (perform [.add, .drop 0, .add, .wait]).status ≠ .ready ∧
      (perform [.add, .drop 0, .add, .wait, .drop 1]).status = .ready ∧
      (perform [.wait]).status = .ready := by
  have hfirst : Possible ([] ++ [.add]) := .add .nil (by decide)
  have hbefore : Possible [.add, .drop 0] := hfirst.drop (by decide) (by decide)
  have hsecond : Possible [.add, .drop 0, .add] := hbefore.add (by decide)
  have hwaiting : Possible [.add, .drop 0, .add, .wait] := hsecond.wait (by decide)
  have hlast : Possible [.add, .drop 0, .add, .wait, .drop 1] :=
    hwaiting.drop (by decide) (by decide)
  have hnone : Possible ([] ++ [.wait]) := .wait .nil (by decide)
  refine ⟨hwaiting, hlast, hnone, ?_, ?_, ?_⟩
  · intro hready
    have hall := (((ready_iff_all_dropped hwaiting).2.2.2 (by decide)).mp hready).2
    exact absurd (hall 1 (by decide)) (by decide)
  · exact (ready_iff_all_dropped hlast).2.2.1 (by decide) (by decide)
  · exact (ready_iff_all_dropped hnone).2.2.1 (by decide) (by decide)

private theorem possible_replicate (n : Nat) : Possible (List.replicate n .add) := by
  induction n with
  | zero => exact .nil
  | succ n ih =>
    rw [List.replicate_succ']
    exact ih.add (by simp)

/-- The bound is sharp: a wait for handles that are all held is over at once exactly if their number
is a multiple of it. -/
theorem ready_with_none_dropped_iff (n : Nat) :
    (perform (List.replicate n .add ++ [.wait])).status = .ready ↔ n % UInt32.size = 0 := by
  have hnone : (List.replicate n Act.add ++ [Act.wait]).countP Act.isDrop = 0 := by
    rw [List.countP_eq_zero]
    intro a ha
    rcases List.mem_append.mp ha with hadd | hwait
    · rw [List.eq_of_mem_replicate hadd]
      simp [Act.isDrop]
    · rw [List.mem_singleton.mp hwait]
      simp [Act.isDrop]
  rw [((possible_replicate n).wait (by simp)).follows.ready_iff, hnone]
  simp

end EndpointSync.Initialization
