import EndpointSync.Admin
import EndpointSync.Proofs.Releases
import EndpointSync.Proofs.Stages
import Mathlib.Logic.Relation

/-!
# When everything is ready

Any number of controllers share a store and take turns in any order. Each of them has a handle, and
somebody waits for all handles to be released and then says that everything is ready.

The wait itself is exact, as far as handles can be counted: it is over when every controller has
released its handle, and not before (`System.Sound.ready_iff`). But a handle does not say why it was
released. A controller that ends early releases it as well, be it that it could not have its first
list or that it was told to stop before it had written it, and so does a controller whose write
failed. Those are the only other ways (`Member.hasReleased_iff`).

What a controller has done is a list of deeds. To know what became of the file one goes back to the
step in which the write was done (`System.Reachable.moved`). And since every run goes in the
steps from which all this is derived, a controller on its own makes everything ready with any of its
runs (`System.ready_after_run`).
-/

namespace EndpointSync

open Cluster (Listing Server)
open Controller (Account Deed Early Position Script Stage Step betaList everyService poll replay
  seeding serviceKey syncing)

/-! ## Handles -/

namespace Initialization

/-- What a deed of the controller with the handle of some number does to the handles. -/
def hear (i : Initialization) (number : Nat) (d : Deed) : Initialization :=
  if d.isRelease then i.release number else i

/-- A handle that is held until it is released. -/
def token (hasReleased : Bool) : Handle := if hasReleased then .released else .held

private theorem handles_hear {i : Initialization} {number : Nat} {hasReleased : Bool}
    (h : i.handles[number]? = some (token hasReleased)) (d : Deed) :
    (i.hear number d).handles
      = i.handles.set number (token (hasReleased || d.isRelease)) := by
  have hsame : i.handles.set number (token hasReleased) = i.handles := by
    obtain ⟨hlt, hget⟩ := List.getElem?_eq_some_iff.mp h
    rw [← hget, List.set_getElem_self]
  rw [hear]
  cases hd : d.isRelease with
  | false =>
    rw [Bool.or_false, hsame]
    rfl
  | true =>
    rw [Bool.or_true, if_pos rfl, release]
    split
    · rfl
    next hnot =>
      -- a handle that is not held any more was released before
      cases hasReleased with
      | false => exact absurd h hnot
      | true => exact hsame.symm

theorem Counted.hear {i : Initialization} (h : i.Counted) (number : Nat) (d : Deed) :
    (i.hear number d).Counted := by
  rw [Initialization.hear]
  split
  · exact h.release number
  · exact h

private theorem status_wait_of_ready {i : Initialization} (h : i.status = .ready) :
    i.wait.status = .ready := by
  obtain ⟨n, hawaited, henough⟩ := status_eq_ready_iff.mp h
  exact status_eq_ready_iff.mpr ⟨n, by rw [wait, hawaited, Option.some_or], henough⟩

private theorem status_hear_of_ready {i : Initialization} (h : i.status = .ready) (number : Nat)
    (d : Deed) : (i.hear number d).status = .ready := by
  obtain ⟨n, hawaited, henough⟩ := status_eq_ready_iff.mp h
  rw [hear]
  split
  · rw [release]
    split
    · -- one more release does no harm
      exact status_eq_ready_iff.mpr ⟨n, hawaited, Nat.le_succ_of_le henough⟩
    · exact h
  · exact h

end Initialization

/-! ## Controllers side by side -/

/-- A controller that shares its store with others, and what it has done so far. -/
structure Member where
  kind : Kind
  config : Config
  stage : Stage := .starting
  deeds : List Deed := []

namespace Member

/-- The controller. Lookups can be answered in different ways from step to step. -/
def controller (m : Member) : Controller m.kind.Form := ⟨m.kind.rules, m.config, none⟩

/-- The controller after some more deeds. -/
def after (m : Member) (deeds : List Deed) (stage : Stage) : Member :=
  { m with stage, deeds := m.deeds ++ deeds }

def hasReleased (m : Member) : Bool := m.deeds.any Deed.isRelease

/-- It dealt with its whole first list and tried to write it, and then it released its handle. -/
def Wrote (m : Member) (succeeded : Bool) : Prop :=
  ∃ l later, m.deeds = syncing l succeeded ++ .released :: later

/-- It ended before it had dealt with its whole first list, and released its handle. -/
def EndedEarly (m : Member) : Prop := ∃ early, Early early ∧ m.deeds = early ++ [.released]

variable {m : Member}

private theorem any_isRelease_syncing (l : Listing) (succeeded : Bool) :
    (syncing l succeeded).any Deed.isRelease = false := by
  simp [syncing, Deed.isRelease]

theorem Wrote.hasReleased {succeeded : Bool} (h : m.Wrote succeeded) : m.hasReleased = true := by
  obtain ⟨l, later, hdeeds⟩ := h
  rw [Member.hasReleased, hdeeds, List.any_append, List.any_cons]
  simp [Deed.isRelease]

theorem EndedEarly.hasReleased (h : m.EndedEarly) : m.hasReleased = true := by
  obtain ⟨early, -, hdeeds⟩ := h
  rw [Member.hasReleased, hdeeds, List.any_append]
  simp [Deed.isRelease]

theorem Wrote.unique {succeeded succeeded' : Bool} (h : m.Wrote succeeded)
    (h' : m.Wrote succeeded') : succeeded = succeeded' := by
  obtain ⟨l, later, hdeeds⟩ := h
  obtain ⟨l', later', hdeeds'⟩ := h'
  rw [hdeeds] at hdeeds'
  -- the lists are the same, so what comes after their objects is compared
  simp only [syncing, List.cons_append, List.append_assoc, List.nil_append, List.cons.injEq,
    Deed.listed.injEq, true_and] at hdeeds'
  obtain ⟨rfl, hrest⟩ := hdeeds'
  have hwrote := List.append_cancel_left hrest
  simp only [List.cons.injEq, Deed.wrote.injEq] at hwrote
  exact hwrote.1

theorem EndedEarly.not_wrote (h : m.EndedEarly) (succeeded : Bool) : ¬m.Wrote succeeded := by
  rintro ⟨l, later, hdeeds⟩
  obtain ⟨early, hearly, hdeeds'⟩ := h
  have hmem : Deed.wrote succeeded ∈ early ++ [.released] := by
    rw [← hdeeds', hdeeds]
    simp [syncing]
  cases hearly with
  | starting => simp at hmem
  | listing => simp at hmem
  | seeding hobjects => simp at hmem

/-- There is no other way to have released a handle. -/
theorem hasReleased_iff (haccount : Account m.stage m.deeds) :
    m.hasReleased = true ↔ m.Wrote true ∨ m.Wrote false ∨ m.EndedEarly := by
  constructor
  · intro h
    have hwrote : ∀ {l : Listing} {succeeded : Bool} {later : List Deed},
        m.deeds = syncing l succeeded ++ .released :: later →
        m.Wrote true ∨ m.Wrote false ∨ m.EndedEarly := by
      intro l succeeded later hdeeds
      cases succeeded with
      | true => exact .inl ⟨l, later, hdeeds⟩
      | false => exact .inr (.inl ⟨l, later, hdeeds⟩)
    rw [Member.hasReleased] at h
    generalize hstage : m.stage = stage at haccount
    generalize hdeeds : m.deeds = deeds at haccount h
    cases haccount with
    | starting => exact absurd h (by simp)
    | listing => exact absurd h (by simp [Deed.isRelease])
    | seeding hobjects => exact absurd h (by simp [Deed.isRelease])
    | synced => rw [any_isRelease_syncing] at h; exact absurd h (by simp)
    | watching => exact hwrote hdeeds
    | ended hresult => exact hwrote hdeeds
    | early hearly => exact .inr (.inr ⟨_, hearly, hdeeds⟩)
  · rintro (h | h | h)
    · exact h.hasReleased
    · exact h.hasReleased
    · exact h.hasReleased

end Member

/-- Controllers that share a store, their handles, the wait for them, and what is said of it. The
handle of each controller has the number of its place. -/
structure System where
  store : Store
  init : Initialization := {}
  members : List Member := []
  readiness : Admin.Readiness := .waiting

namespace System

/-- What can happen next. A controller starts by asking for its handle, which cannot be done any
more once somebody waits. -/
inductive Next : System → System → Prop where
  | start {x : System} (kind : Kind) (config : Config) : x.init.awaited = none →
      Next x { x with init := x.init.add, members := x.members ++ [{ kind, config }] }
  | wait {x : System} : Next x { x with init := x.init.wait }
  | move {x : System} {i : Nat} {m : Member} {d : Deed} {y : Position} :
      x.members[i]? = some m → m.controller.Step ⟨x.store, m.stage⟩ d y →
      Next x { x with store := y.store, init := x.init.hear i d,
                      members := x.members.set i (m.after [d] y.stage) }
  /-- The wait is over, and that is said. -/
  | report {x : System} : x.init.status = .ready → x.readiness = .waiting →
      Next x { x with readiness := .ready }
  | withdraw {x : System} : x.readiness = .ready → Next x { x with readiness := .withdrawn }

/-- What can happen from some store on. -/
def Reachable (s : Store) : System → Prop := Relation.ReflTransGen Next { store := s }

/-- The answer to a probe. -/
def probe (x : System) (method path : String) : Admin.Answer :=
  Admin.answer x.readiness.isReady method path

/-- Earlier on, the controller of some number had dealt with its whole first list and tried to write
it, and that succeeded or not. -/
def Tried (s : Store) (number : Nat) (succeeded : Bool) (x : System) : Prop :=
  ∃ (l : Listing) (m : Member) (y z : System), Reachable s y ∧ y.members[number]? = some m ∧
    m.deeds = .asked :: .listed l :: l.objects.map .dealt ∧ Next y z ∧
    y.store.Saves z.store succeeded ∧ Relation.ReflTransGen Next z x

/-- What the handles say about the controllers. -/
structure Sound (x : System) : Prop where
  handles : x.init.handles = x.members.map fun m ↦ Initialization.token m.hasReleased
  counted : x.init.Counted
  accounts : ∀ m ∈ x.members, Account m.stage m.deeds
  reported : x.readiness ≠ .waiting → x.init.status = .ready

variable {x y : System}

theorem sound_start (s : Store) : Sound { store := s } := ⟨rfl, .start, by simp, by simp⟩

theorem Next.ready (hnext : Next x y) (h : x.init.status = .ready) : y.init.status = .ready := by
  cases hnext with
  | start kind config hidle =>
    rw [Initialization.status, hidle] at h
    exact absurd h (by simp)
  | wait => exact Initialization.status_wait_of_ready h
  | move hm hstep => exact Initialization.status_hear_of_ready h _ _
  | report hready hwaiting => exact h
  | withdraw hready => exact h

theorem Sound.next (h : x.Sound) (hnext : Next x y) : y.Sound := by
  have hready : x.readiness ≠ .waiting → y.init.status = .ready :=
    fun hsaid ↦ hnext.ready (h.reported hsaid)
  cases hnext with
  | start kind config hidle =>
    refine ⟨?_, h.counted.add, ?_, hready⟩
    · rw [Initialization.add_of_idle hidle]
      simp [h.handles, Initialization.token, Member.hasReleased]
    · intro m hm
      rcases List.mem_append.mp hm with hm | hm
      · exact h.accounts m hm
      · rw [List.mem_singleton.mp hm]
        exact .starting
  | wait => exact ⟨h.handles, h.counted.wait, h.accounts, hready⟩
  | @move i m d y hm hstep =>
    refine ⟨?_, h.counted.hear i d, ?_, hready⟩
    · -- only the handle of the controller that moves can change
      have htoken : x.init.handles[i]? = some (Initialization.token m.hasReleased) := by
        rw [h.handles, List.getElem?_map, hm, Option.map_some]
      have hafter : (m.after [d] y.stage).hasReleased = (m.hasReleased || d.isRelease) := by
        simp [Member.hasReleased, Member.after]
      rw [Initialization.handles_hear htoken, List.map_set, hafter, ← h.handles]
    · intro m' hm'
      rcases List.mem_or_eq_of_mem_set hm' with hm' | rfl
      · exact h.accounts m' hm'
      · exact (h.accounts m (List.mem_of_getElem? hm)).step hstep
  | report hover hwaiting => exact ⟨h.handles, h.counted, h.accounts, fun _ ↦ hover⟩
  | withdraw hsaid =>
    exact ⟨h.handles, h.counted, h.accounts, fun _ ↦ hready (by simp [hsaid])⟩

theorem Reachable.sound {s : Store} (h : Reachable s x) : x.Sound := by
  induction h with
  | refl => exact sound_start s
  | tail _ hnext ih => exact ih.next hnext

theorem Sound.countP_issued (h : x.Sound) :
    x.init.handles.countP (· ≠ .void) = x.members.length := by
  rw [h.handles, List.countP_map, List.countP_eq_length]
  intro m hm
  cases hreleased : m.hasReleased <;> simp [Initialization.token, hreleased]

theorem Sound.count_released (h : x.Sound) :
    x.init.handles.count .released = x.members.countP Member.hasReleased := by
  rw [h.handles, List.count, List.countP_map]
  congr 1
  funext m
  cases hreleased : m.hasReleased <;> simp [Initialization.token, hreleased]

theorem Sound.held_notMem (h : x.Sound) :
    .held ∉ x.init.handles ↔ ∀ m ∈ x.members, m.hasReleased = true := by
  rw [h.handles, List.mem_map]
  simp [Initialization.token]

theorem Sound.ready_iff (h : x.Sound) (hlt : x.members.length < UInt32.size) :
    x.init.status = .ready ↔
      x.init.awaited.isSome = true ∧ ∀ m ∈ x.members, m.hasReleased = true := by
  rw [h.counted.ready_iff_of_lt (by rw [h.countP_issued]; exact hlt), h.held_notMem]

/-- One controller takes some steps while the others do nothing. -/
theorem Reachable.moves {s : Store} {i : Nat} {m : Member} {past deeds : List Deed}
    {start z : Position} (hsteps : m.controller.Steps start deeds z) (h : Reachable s x)
    (hstore : x.store = start.store) (hm : x.members[i]? = some (m.after past start.stage)) :
    Reachable s { x with
      store := z.store, init := deeds.foldl (fun init d ↦ init.hear i d) x.init,
      members := x.members.set i (m.after (past ++ deeds) z.stage) } := by
  induction hsteps generalizing x past with
  | nil =>
    obtain ⟨hlt, hget⟩ := List.getElem?_eq_some_iff.mp hm
    rw [List.append_nil, ← hget, List.set_getElem_self, ← hstore]
    exact h
  | @cons start y z d deeds hstep hsteps ih =>
    obtain ⟨hlt, -⟩ := List.getElem?_eq_some_iff.mp hm
    have hstep' : (m.after past start.stage).controller.Step ⟨x.store, start.stage⟩ d y := by
      rw [hstore]
      exact hstep
    have hafter : (m.after past start.stage).after [d] y.stage
        = m.after (past ++ [d]) y.stage := by
      simp [Member.after]
    have hmoved := h.tail (.move hm hstep')
    rw [hafter] at hmoved
    have hall := ih hmoved rfl (List.getElem?_set_self hlt)
    rw [List.set_set, ← List.append_cons] at hall
    exact hall

/-- The controller of some number did a deed in one of the steps so far, after some others. -/
def Moved (s : Store) (number : Nat) (before : List Deed) (d : Deed) (x : System) : Prop :=
  ∃ (m : Member) (y z : System) (p : Position), Reachable s y ∧ y.members[number]? = some m ∧
    m.deeds = before ∧ m.controller.Step ⟨y.store, m.stage⟩ d p ∧ z.store = p.store ∧
    Next y z ∧ Relation.ReflTransGen Next z x

theorem Moved.next {s : Store} {number : Nat} {before : List Deed} {d : Deed}
    (h : Moved s number before d x) (hnext : Next x y) : Moved s number before d y := by
  obtain ⟨m, u, v, p, hu, hm, hbefore, hstep, hstore, huv, hlater⟩ := h
  exact ⟨m, u, v, p, hu, hm, hbefore, hstep, hstore, huv, hlater.tail hnext⟩

theorem Reachable.moved {s : Store} {i : Nat} {m : Member} {before after : List Deed}
    {d : Deed} (h : Reachable s x) (hm : x.members[i]? = some m)
    (hdeeds : m.deeds = before ++ d :: after) : Moved s i before d x := by
  induction h generalizing m after with
  | refl => exact absurd hm (by simp)
  | @tail x w hreach hnext ih =>
    cases hnext with
    | start kind config hidle =>
      rw [List.getElem?_append] at hm
      split at hm
      · exact (ih hm hdeeds).next (.start kind config hidle)
      · -- a controller that has just started has done nothing
        have hnew : m = { kind, config } := List.mem_singleton.mp (List.mem_of_getElem? hm)
        rw [hnew] at hdeeds
        exact absurd hdeeds (by simp)
    | wait => exact (ih hm hdeeds).next .wait
    | @move j m₀ e p hm₀ hstep =>
      have hmove : Next x _ := .move hm₀ hstep
      rw [List.getElem?_set] at hm
      split at hm
      next hsame =>
        subst hsame
        split at hm
        · rw [Option.some.injEq] at hm
          subst hm
          rcases List.eq_nil_or_concat after with rfl | ⟨after', last, rfl⟩
          · -- the deed is that of the last step
            obtain ⟨hbefore, hd⟩ := List.append_inj' hdeeds rfl
            rw [List.singleton_inj] at hd
            subst hd
            exact ⟨m₀, x, _, p, hreach, hm₀, hbefore, hstep, rfl, hmove, .refl⟩
          · rw [List.concat_eq_append, ← List.cons_append, ← List.append_assoc] at hdeeds
            exact (ih hm₀ (List.append_inj' hdeeds rfl).1).next hmove
        · exact absurd hm (by simp)
      next hother => exact (ih hm hdeeds).next hmove
    | report hover hwaiting => exact (ih hm hdeeds).next (.report hover hwaiting)
    | withdraw hsaid => exact (ih hm hdeeds).next (.withdraw hsaid)

theorem Reachable.tried {s : Store} {i : Nat} {m : Member} {succeeded : Bool}
    (h : Reachable s x) (hm : x.members[i]? = some m) (hwrote : m.Wrote succeeded) :
    Tried s i succeeded x := by
  obtain ⟨l, later, hdeeds⟩ := hwrote
  rw [syncing, List.append_assoc, List.singleton_append] at hdeeds
  obtain ⟨m', y, z, p, hy, hm', hbefore, hstep, hstore, hyz, hlater⟩ := h.moved hm hdeeds
  exact ⟨l, m', y, z, hy, hm', hbefore, hyz, hstore ▸ hstep.saves_of_wrote, hlater⟩

/-- Where a controller is the only one, the wait is over after any run of it that has come to its
end, also if it could not have its first list. -/
theorem ready_after_run (kind : Kind) (config : Config) (server : Option Server) (s : Store)
    (script : Script) (stop : Option Controller.Moment) :
    ∃ x m, Reachable s x ∧ x.members = [m] ∧ x.init.status = .ready ∧
      x.store = (Controller.run ⟨kind.rules, config, server⟩ s script stop).store ∧
      m.stage = .ended (Controller.run ⟨kind.rules, config, server⟩ s script stop).result ∧
      ((Controller.run ⟨kind.rules, config, server⟩ s script stop).result = .noList →
        m.EndedEarly) := by
  let m : Member := { kind, config }
  have hrun := Controller.steps_run (c := ⟨kind.rules, config, server⟩) s script stop
  generalize Controller.run ⟨kind.rules, config, server⟩ s script stop = report at hrun ⊢
  obtain ⟨deeds, hsteps⟩ := hrun
  have hmember : m.controller.Steps ⟨s, .starting⟩ deeds ⟨report.store, .ended report.result⟩ :=
    hsteps.of_answeredBy (c := m.controller)
  have hstarted : Reachable s { store := s, init := ({} : Initialization).add, members := [m] } :=
    .single (.start kind config rfl)
  have hm : [m][0]? = some (m.after [] .starting) := rfl
  have hended : Reachable s _ := (hstarted.moves hmember rfl hm).tail .wait
  have haccount : Account (.ended report.result) deeds :=
    Account.starting.steps (x := ⟨s, .starting⟩) hsteps
  have hreleased : (m.after deeds (.ended report.result)).hasReleased = true ∧
      (report.result = .noList → (m.after deeds (.ended report.result)).EndedEarly) := by
    generalize report.result = r at haccount ⊢
    cases haccount with
    | ended hr =>
      exact ⟨by simp [Member.hasReleased, Member.after, Deed.isRelease], fun h ↦ absurd h hr⟩
    | early hearly =>
      have hended : (m.after _ (.ended r)).EndedEarly := ⟨_, hearly, rfl⟩
      exact ⟨hended.hasReleased, fun _ ↦ hended⟩
  refine ⟨_, _, hended, rfl, ?_, rfl, rfl, hreleased.2⟩
  refine (hended.sound.ready_iff (by simp [UInt32.size])).mpr ⟨?_, ?_⟩
  · simp [Initialization.wait]
  · intro m' hm'
    rw [List.mem_singleton.mp hm']
    exact hreleased.1

/-- **When everything is ready.** However the controllers take turns, whatever they are answered and
whenever they are told to stop, the wait is over exactly when it has begun and there are as many
released handles as controllers, counted in a word of 32 bits. As long as that count is right, it is
over exactly when it has begun and every controller has released its handle.

A controller that has released it has dealt with its whole first list and written it, or it failed
to write it, or it ended before it had come so far; there is no fourth way. So if the wait is over,
then all first lists have been dealt with and written exactly if no controller ended early and no
first write failed. A probe is told that everything is ready only when the wait is over. And
wherever a controller is on its own, each of its runs makes everything ready, also one without a
list. -/
theorem ready_iff_all_released {s : Store} (h : Reachable s x) :
    (x.init.status = .ready ↔ x.init.awaited.isSome = true ∧
      x.members.length % UInt32.size ≤ x.members.countP Member.hasReleased) ∧
    (x.members.length < UInt32.size → (x.init.status = .ready ↔
      x.init.awaited.isSome = true ∧ ∀ m ∈ x.members, m.hasReleased = true)) ∧
    (∀ m ∈ x.members,
      m.hasReleased = true ↔ m.Wrote true ∨ m.Wrote false ∨ m.EndedEarly) ∧
    (∀ i m succeeded, x.members[i]? = some m → m.Wrote succeeded → Tried s i succeeded x) ∧
    (x.members.length < UInt32.size → x.init.status = .ready →
      ((∀ m ∈ x.members, m.Wrote true) ↔
        ∀ m ∈ x.members, ¬m.Wrote false ∧ ¬m.EndedEarly)) ∧
    (∀ method, (x.probe method "/ready").status = 200 → x.init.status = .ready) ∧
    ∀ (kind : Kind) (config : Config) (server : Option Server) (script : Script)
      (stop : Option Controller.Moment), ∃ y m, Reachable s y ∧ y.members = [m] ∧
        y.init.status = .ready ∧
        y.store = (Controller.run ⟨kind.rules, config, server⟩ s script stop).store ∧
        m.stage = .ended (Controller.run ⟨kind.rules, config, server⟩ s script stop).result ∧
        ((Controller.run ⟨kind.rules, config, server⟩ s script stop).result = .noList →
          m.EndedEarly) := by
  have hsound := h.sound
  have hways : ∀ m ∈ x.members,
      m.hasReleased = true ↔ m.Wrote true ∨ m.Wrote false ∨ m.EndedEarly :=
    fun m hm ↦ Member.hasReleased_iff (hsound.accounts m hm)
  refine ⟨?_, hsound.ready_iff, hways, fun i m succeeded hm hwrote ↦ h.tried hm hwrote,
    fun hlt hready ↦ ⟨fun hall m hm ↦ ⟨fun hfailed ↦ ?_, fun hearly ↦ ?_⟩, fun hnone m hm ↦ ?_⟩,
    fun method hprobe ↦ ?_, fun kind config server script stop ↦
      ready_after_run kind config server s script stop⟩
  · rw [hsound.counted.ready_iff, hsound.countP_issued, hsound.count_released]
  · exact absurd ((hall m hm).unique hfailed) (by simp)
  · exact hearly.not_wrote true (hall m hm)
  · have hreleased := ((hsound.ready_iff hlt).mp hready).2 m hm
    rcases (hways m hm).mp hreleased with hwrote | hfailed | hearly
    · exact hwrote
    · exact absurd hfailed (hnone m hm).1
    · exact absurd hearly (hnone m hm).2
  · have hsaid := ((Admin.status_answer_ready _ _).mp hprobe).1
    rw [Admin.Readiness.isReady, decide_eq_true_eq] at hsaid
    exact hsound.reported (by simp [hsaid])

/-- A controller that follows all services. -/
def serviceMember : Member := { kind := .service, config := { autoService := true } }

private theorem steps_refused (s : Store) : ∃ t,
    serviceMember.controller.Steps ⟨s, .starting⟩ [.asked, .released] ⟨t, .ended .noList⟩ ∧
      t.roster = s.roster ∧ t.disk = s.disk := by
  obtain ⟨request, hrequest⟩ : ∃ request, everyService.request? .list = some request :=
    Option.isSome_iff_exists.mp (by decide +kernel)
  have hlist : Cluster.Response.refused.list = .failed := rfl
  exact ⟨_, .cons (.ask hrequest) (Step.noList hlist).steps, rfl, rfl⟩

private theorem listed_betaList : ∃ l, everyService.firstList [betaList] = .listed l ∧
    l.objects.map everyService.key = [serviceKey "beta"] ∧
    ∀ o ∈ l.objects, everyService.stalls (.added o) = false := by
  obtain ⟨l, hlist, hchecked⟩ : ∃ l, everyService.firstList [betaList] = .listed l ∧
      (l.objects.map everyService.key == [serviceKey "beta"] &&
        l.objects.all fun o ↦ !everyService.stalls (.added o)) = true :=
    Cluster.ListResult.of_any_listing? (by decide +kernel)
  simp only [Bool.and_eq_true, beq_iff_eq, List.all_eq_true, Bool.not_eq_true'] at hchecked
  exact ⟨l, hlist, hchecked⟩

/-- Where there is no place for the file, it goes on with that list unwritten. -/
theorem steps_unwritten {s : Store} (hroster : s.roster = []) (hplace : s.disk.place ≠ .free) :
    ∃ l t, serviceMember.controller.Steps ⟨s, .starting⟩ (syncing l false ++ [.released])
      ⟨t, .watching l.version⟩ ∧ t.disk = s.disk := by
  obtain ⟨request, hrequest⟩ : ∃ request, everyService.request? .list = some request :=
    Option.isSome_iff_exists.mp (by decide +kernel)
  obtain ⟨l, hlist, hkeys, hanswered⟩ := listed_betaList
  have hfailed : (everyService.replay (poll s .list request 0 false)
      (seeding l.objects)).written.isOk = false := by
    rw [Bool.eq_false_iff, ne_eq, Store.isOk_written_iff, Controller.place_replay]
    exact fun h ↦ hplace h.1
  have hsteps := Controller.steps_of_listed hlist hanswered hrequest s
  rw [hfailed] at hsteps
  have habsent : ∀ o ∈ l.objects,
      (poll s .list request 0 false).roster.get? (everyService.key o) = none := by
    intro o ho
    have hnothing : (poll s .list request 0 false).roster = [] := hroster
    rw [hnothing]
    rfl
  refine ⟨l, _, hsteps, (Store.disk_write_of_not_isOk hfailed).trans ?_⟩
  exact (Controller.quiet_seeding (k := .service) rfl (by rw [hkeys]; decide) habsent).2

/-- Of two controllers one is refused its list, and the other has no directory for the file. Then
everything is ready, and nothing was ever written. -/
theorem ready_without_lists :
    ∃ x, Reachable { disk := { place := .noDirectory } } x ∧ x.init.status = .ready ∧
      x.store.disk.contents = none ∧ (∃ m ∈ x.members, m.EndedEarly) ∧
      (∃ m ∈ x.members, m.Wrote false) ∧ ¬∀ m ∈ x.members, m.Wrote true := by
  obtain ⟨t, hrefused, hroster, hdisk⟩ := steps_refused { disk := { place := .noDirectory } }
  obtain ⟨l, u, hunwritten, hdisk'⟩ := steps_unwritten hroster (by rw [hdisk]; decide)
  have hstarted : Reachable { disk := { place := .noDirectory } }
      { store := { disk := { place := .noDirectory } }, init := ({} : Initialization).add.add,
        members := [serviceMember, serviceMember] } :=
    (Relation.ReflTransGen.single (.start .service _ rfl)).tail (.start .service _ rfl)
  have hone : [serviceMember, serviceMember][0]? = some (serviceMember.after [] .starting) := rfl
  have hfirst : Reachable _ _ := hstarted.moves hrefused rfl hone
  have hother : ([serviceMember, serviceMember].set 0
      (serviceMember.after ([] ++ [.asked, .released]) (.ended .noList)))[1]?
        = some (serviceMember.after [] .starting) := rfl
  have hsecond : Reachable _ _ := hfirst.moves hunwritten rfl hother
  have hready : Reachable _ _ := hsecond.tail .wait
  have hearly : (serviceMember.after [.asked, .released] (.ended .noList)).EndedEarly :=
    ⟨[.asked], .listing, rfl⟩
  have hwrote : (serviceMember.after (syncing l false ++ [.released])
      (.watching l.version)).Wrote false := ⟨l, [], rfl⟩
  obtain ⟨-, hstatus, -, -, hall, -⟩ := ready_iff_all_released hready
  have hfew : [serviceMember, serviceMember].length < UInt32.size := by simp [UInt32.size]
  have hover := (hstatus hfew).mpr ⟨by simp [Initialization.wait], fun m hm ↦ by
    rcases List.mem_pair.mp hm with rfl | rfl
    · exact hearly.hasReleased
    · exact hwrote.hasReleased⟩
  refine ⟨_, hready, hover, by rw [hdisk', hdisk], ⟨_, List.mem_cons_self, hearly⟩,
    ⟨_, List.mem_cons_of_mem _ List.mem_cons_self, hwrote⟩, fun hwritten ↦ ?_⟩
  exact ((hall hfew hover).mp hwritten _ List.mem_cons_self).2 hearly

end System

end EndpointSync
