import EndpointSync.Proofs.OverlayLaws

/-!
# Mappings on top of one another

A template can set one setting more than once, since a key with a tag names the same setting as the
key without it. The mappings that it gives are then overlaid on the setting one after the other.
This module is about such a stack, and its main result is that a stack which is put down twice
counts once (`stack_stack`).

## Why this is not a matter of single overlays

Each of the overlays is idempotent, but that says nothing of several of them in a row, and they
cannot be made into one overlay first, since overlaying is not associative. What a stack does under
one key is looked at instead (`piled`). Either one of the layers says something there that is no
mapping: then nothing that stood there before shows any more, neither the first time nor the second.
Or they say mappings alone: then these are a stack of their own, and the same question comes up one
level further in.

Nothing is lost between the levels. A value that is no mapping is replaced by a mapping, and so is
nothing at all, and this is as good as overlaying that mapping on an empty one.
-/

namespace EndpointSync.Yaml.Mapping

/-- Mappings overlaid on one another, the last of them on top. -/
def stack (base : Mapping) (layers : List Mapping) : Mapping := layers.foldl overlay base

@[simp] theorem stack_nil (base : Mapping) : stack base [] = base := rfl

@[simp] theorem stack_cons (base layer : Mapping) (rest : List Mapping) :
    stack base (layer :: rest) = stack (overlay base layer) rest := rfl

variable {base : Mapping} {layers : List Mapping}

theorem WellFormed.stack (hbase : base.WellFormed) (hlayers : ∀ m ∈ layers, m.WellFormed) :
    (Mapping.stack base layers).WellFormed := by
  induction layers generalizing base with
  | nil => exact hbase
  | cons layer rest ih =>
    obtain ⟨hlayer, hrest⟩ := List.forall_mem_cons.mp hlayers
    exact ih (hbase.overlay hlayer) hrest

/-! ## Under one key -/

/-- Values put over one another, where each of them may be missing. -/
def piled (lowest : Option Tree) (upper : List (Option Tree)) : Option Tree :=
  upper.foldl layered lowest

@[simp] theorem piled_nil (lowest : Option Tree) : piled lowest [] = lowest := rfl

@[simp] theorem piled_cons (lowest value : Option Tree) (rest : List (Option Tree)) :
    piled lowest (value :: rest) = piled (layered lowest value) rest := rfl

/-- **What a stack says under a key** is what its layers say there, one over the other. -/
theorem get?_stack (hbase : base.WellFormed) (hlayers : ∀ m ∈ layers, m.WellFormed) (k : Tree) :
    (stack base layers).get? k = piled (base.get? k) (layers.map fun m ↦ m.get? k) := by
  induction layers generalizing base with
  | nil => rfl
  | cons layer rest ih =>
    obtain ⟨hlayer, hrest⟩ := List.forall_mem_cons.mp hlayers
    rw [stack_cons, ih (hbase.overlay hlayer) hrest, get?_overlay hbase hlayer, List.map_cons,
      piled_cons]

def nested (values : List (Option Tree)) : List Mapping :=
  values.filterMap fun value ↦ value.bind Tree.map?

private theorem mem_nested {values : List (Option Tree)} {m : Mapping} :
    m ∈ nested values ↔ some (.map m) ∈ values := by
  simp only [nested, List.mem_filterMap, Option.bind_eq_some_iff, Tree.map?_eq_some_iff]
  constructor
  · rintro ⟨value, hvalue, v, rfl, rfl⟩
    exact hvalue
  · intro h
    exact ⟨_, h, _, rfl, rfl⟩

theorem mem_nested_get? {k : Tree} {n : Mapping} (h : n ∈ nested (layers.map fun m ↦ m.get? k)) :
    ∃ m ∈ layers, m.get? k = some (.map n) := by
  obtain ⟨m, hm, hvalue⟩ := List.mem_map.mp (mem_nested.mp h)
  exact ⟨m, hm, hvalue⟩

/-- Where one of the values is no mapping, nothing below it shows. -/
theorem piled_eq_piled {values : List (Option Tree)} {v : Tree} (hv : some v ∈ values)
    (hscalar : v.map? = none) (x y : Option Tree) : piled x values = piled y values := by
  induction values generalizing x y with
  | nil => exact absurd hv List.not_mem_nil
  | cons value rest ih =>
    rw [piled_cons, piled_cons]
    rcases List.mem_cons.mp hv with rfl | hrest
    · rw [layered_of_map?_eq_none hscalar, layered_of_map?_eq_none hscalar]
    · exact ih hrest _ _

/-- The entries of a value, of which there are none if it is missing or no mapping. -/
def entriesOf (x : Option Tree) : Mapping := (x.bind Tree.map?).getD []

private theorem WellFormed.entriesOf_get? {m : Mapping} (hm : m.WellFormed) (k : Tree) :
    (entriesOf (m.get? k)).WellFormed := by
  rcases cases_map? (m.get? k) with hnone | ⟨v, hv, hend⟩ | ⟨n, hn⟩
  · rw [hnone]
    exact wellFormed_nil
  · rw [hv, entriesOf, Option.bind_some, hend]
    exact wellFormed_nil
  · rw [hn]
    exact hm.get? hn

theorem layered_map {m : Mapping} (hm : m.WellFormed) (x : Option Tree) :
    layered x (some (.map m)) = some (.map (overlay (entriesOf x) m)) := by
  rcases cases_map? x with rfl | ⟨v, rfl, hv⟩ | ⟨b, rfl⟩
  · rw [layered_none, entriesOf, Option.bind_none, Option.getD_none, nil_overlay hm]
  · have hentries : entriesOf (some v) = [] := by rw [entriesOf, Option.bind_some, hv]; rfl
    rw [layered_map_of_forall_ne (ne_map_of_map?_eq_none hv), hentries, nil_overlay hm]
  · exact layered_map_map b m

theorem piled_eq_stack {values : List (Option Tree)}
    (hmaps : ∀ v, some v ∈ values → v.map? ≠ none)
    (hwell : ∀ m ∈ nested values, m.WellFormed) (x : Option Tree) :
    piled x values = if nested values = [] then x
      else some (.map (stack (entriesOf x) (nested values))) := by
  induction values generalizing x with
  | nil => rfl
  | cons value rest ih =>
    have hrest : ∀ v, some v ∈ rest → v.map? ≠ none :=
      fun v hv ↦ hmaps v (List.mem_cons_of_mem _ hv)
    rw [piled_cons]
    rcases cases_map? value with rfl | ⟨v, rfl, hv⟩ | ⟨m, rfl⟩
    · exact ih hrest hwell x
    · exact absurd hv (hmaps v List.mem_cons_self)
    · have hnested : nested (some (.map m) :: rest) = m :: nested rest := rfl
      rw [hnested] at hwell ⊢
      obtain ⟨hm, hothers⟩ := List.forall_mem_cons.mp hwell
      rw [ih hrest hothers, layered_map hm, if_neg (List.cons_ne_nil _ _), stack_cons]
      split
      next hnone => rw [hnone, stack_nil]
      · rfl

/-- Values that are put down once more change nothing, if it is so with the mappings among them. -/
theorem piled_piled {values : List (Option Tree)} (hwell : ∀ m ∈ nested values, m.WellFormed)
    {x : Option Tree} (h : stack (stack (entriesOf x) (nested values)) (nested values)
      = stack (entriesOf x) (nested values)) : piled (piled x values) values = piled x values := by
  by_cases hscalar : ∃ v, some v ∈ values ∧ v.map? = none
  · obtain ⟨v, hv, hend⟩ := hscalar
    exact piled_eq_piled hv hend _ _
  · have hmaps : ∀ v, some v ∈ values → v.map? ≠ none :=
      fun v hv hend ↦ hscalar ⟨v, hv, hend⟩
    rw [piled_eq_stack hmaps hwell (piled x values), piled_eq_stack hmaps hwell x]
    split
    · rfl
    · exact congrArg (fun m ↦ some (Tree.map m)) h

/-! ## All keys -/

/-- No layer of a stack has a key that is not in use in it, and nor has what it is put on. -/
theorem contains_stack (hbase : base.WellFormed) (hlayers : ∀ m ∈ layers, m.WellFormed) (k : Tree) :
    (stack base layers).contains k = (base.contains k || layers.any fun m ↦ m.contains k) := by
  induction layers generalizing base with
  | nil => rw [stack_nil, List.any_nil, Bool.or_false]
  | cons layer rest ih =>
    obtain ⟨hlayer, hrest⟩ := List.forall_mem_cons.mp hlayers
    rw [stack_cons, ih (hbase.overlay hlayer) hrest, contains_overlay hbase hlayer, List.any_cons,
      Bool.or_assoc]

theorem keys_stack (hbase : base.WellFormed) (hlayers : ∀ m ∈ layers, m.WellFormed)
    (hin : ∀ m ∈ layers, ∀ k, m.contains k = true → base.contains k = true) :
    (stack base layers).keys = base.keys := by
  induction layers generalizing base with
  | nil => rfl
  | cons layer rest ih =>
    obtain ⟨hlayer, hrest⟩ := List.forall_mem_cons.mp hlayers
    obtain ⟨hfirst, hothers⟩ := List.forall_mem_cons.mp hin
    have hlater : ∀ m ∈ rest, ∀ k, m.contains k = true →
        contains (overlay base layer) k = true := by
      intro m hm k hk
      rw [contains_overlay hbase hlayer, hothers m hm k hk, Bool.true_or]
    rw [stack_cons, ih (hbase.overlay hlayer) hrest hlater,
      keys_overlay (wellFormed_iff.mp hlayer).1, filter_keys_eq_nil hfirst, List.append_nil]

/-- A stack of layers that are not too deep, put down twice. What is under a key is a stack of less
deep layers. -/
theorem stack_stack_of_lt (depth : Nat) (hbase : base.WellFormed)
    (hlayers : ∀ m ∈ layers, m.WellFormed) (hdepth : ∀ m ∈ layers, sizeOf m < depth) :
    stack (stack base layers) layers = stack base layers := by
  induction depth generalizing base layers with
  | zero =>
    have hnone : layers = [] :=
      List.eq_nil_iff_forall_not_mem.mpr fun m hm ↦ Nat.not_lt_zero _ (hdepth m hm)
    rw [hnone, stack_nil, stack_nil]
  | succ depth ih =>
    have hstack := hbase.stack hlayers
    refine eq_of_keys (wellFormed_iff.mp (hstack.stack hlayers)).1 ?_ fun k _ ↦ ?_
    · refine keys_stack hstack hlayers fun m hm k hk ↦ ?_
      rw [contains_stack hbase hlayers, Bool.or_eq_true]
      exact .inr (List.any_eq_true.mpr ⟨m, hm, hk⟩)
    · have hwell : ∀ n ∈ nested (layers.map fun m ↦ m.get? k), n.WellFormed := by
        intro n hn
        obtain ⟨m, hm, hvalue⟩ := mem_nested_get? hn
        exact (hlayers m hm).get? hvalue
      have hless : ∀ n ∈ nested (layers.map fun m ↦ m.get? k), sizeOf n < depth := by
        intro n hn
        obtain ⟨m, hm, hvalue⟩ := mem_nested_get? hn
        have hsmaller := sizeOf_lt_of_get? hvalue
        have hbound := hdepth m hm
        omega
      rw [get?_stack hstack hlayers, get?_stack hbase hlayers]
      exact piled_piled hwell (ih (hbase.entriesOf_get? k) hwell hless)

/-- **A stack that is put down twice counts once.** -/
theorem stack_stack (hbase : base.WellFormed) (hlayers : ∀ m ∈ layers, m.WellFormed) :
    stack (stack base layers) layers = stack base layers :=
  stack_stack_of_lt (sizeOf layers) hbase hlayers fun _ hm ↦ List.sizeOf_lt_of_mem hm

end EndpointSync.Yaml.Mapping
