import EndpointSync.Proofs.WellFormed

/-!
# Mappings under keys of every kind

Under a string a mapping behaves as it would with plain equality of keys. This module says the same
of all keys, numbers and nested mappings included, for which colliding is coarser than being equal.
What makes it true is that colliding is an equivalence on keys that are well formed, so the
hypothesis here is `Mapping.WellFormed` and not just distinct keys. It takes nothing away: a mapping
that holds a key twice at some depth does not read (`Mapping.wellFormed_of_parse`), and overlays of
well-formed mappings are well formed. The key that is looked up need not be.

## Keys and values

A mapping is known by two things: the list of its keys, in order and as they are spelled, and what
stands under each (`Mapping.eq_of_keys`). An overlay is described by an equation for each of the
two, `keys_overlay` and `get?_overlay`. Together they determine it, so nothing that follows from
them unfolds it again.
-/

namespace EndpointSync.Yaml

namespace Mapping

/-- The keys of a mapping, in written order. -/
def keys (m : Mapping) : List Tree := m.map Prod.fst

@[simp] theorem keys_nil : keys [] = [] := rfl

@[simp] theorem keys_cons (e : Tree × Tree) (rest : Mapping) :
    keys (e :: rest) = e.1 :: keys rest := rfl

theorem contains_cons (e : Tree × Tree) (rest : Mapping) (key : Tree) :
    contains (e :: rest) key = (e.1.same key || rest.contains key) := List.any_cons

theorem contains_iff {m : Mapping} {key : Tree} :
    m.contains key = true ↔ ∃ k ∈ m.keys, k.same key = true := by
  simp [contains, keys]

theorem contains_of_mem_keys {m : Mapping} {key : Tree} (h : key ∈ m.keys) :
    m.contains key = true := contains_iff.mpr ⟨key, h, Tree.same_refl key⟩

theorem wellFormed_cons {e : Tree × Tree} {rest : Mapping} : WellFormed (e :: rest) ↔
    (∀ f ∈ rest, e.1.same f.1 = false) ∧ (e.1.WellFormed ∧ e.2.WellFormed) ∧ rest.WellFormed := by
  rw [wellFormed_iff, wellFormed_iff, Distinct, List.pairwise_cons, List.forall_mem_cons]
  exact ⟨fun ⟨⟨h, hrest⟩, he, hall⟩ ↦ ⟨h, he, hrest, hall⟩,
    fun ⟨h, he, hrest, hall⟩ ↦ ⟨⟨h, hrest⟩, he, hall⟩⟩

theorem WellFormed.get? {m : Mapping} (hm : m.WellFormed) {key v : Tree}
    (h : m.get? key = some v) : v.WellFormed :=
  Tree.forall_get? (wellFormed_iff.mp hm).2 key v h

theorem WellFormed.insert {m : Mapping} (hm : m.WellFormed) {key value : Tree}
    (hkey : key.WellFormed) (hvalue : value.WellFormed) : (m.insert key value).WellFormed := by
  obtain ⟨hdistinct, hall⟩ := wellFormed_iff.mp hm
  exact wellFormed_iff.mpr ⟨hdistinct.insert key value, Tree.forall_insert hall hkey hvalue⟩

theorem WellFormed.overlay {base upper : Mapping} (hbase : base.WellFormed)
    (hupper : upper.WellFormed) : WellFormed (Mapping.overlay base upper) :=
  Tree.overlaid_wellFormed.map_overlay hbase hupper

/-! ## Colliding keys -/

private theorem same_eq_of_same {k k' : Tree} (hk : k.WellFormed) (h : k.same k' = true)
    (t : Tree) : k.same t = k'.same t := by
  rw [Bool.eq_iff_iff]
  constructor
  · exact Tree.same_trans k' (Tree.same_symm k hk h)
  · exact Tree.same_trans k h

theorem not_same_of_apart {k k' : Tree} (hk' : k'.WellFormed) (h : k.same k' = false) {t : Tree}
    (hsame : k.same t = true) : k'.same t = false := by
  refine Bool.eq_false_iff.mpr fun hsame' ↦ ?_
  have hback := Tree.same_symm k' hk' hsame'
  rw [Tree.same_trans k hsame hback] at h
  exact absurd h (by simp)

theorem get?_eq_of_same {m : Mapping} (hm : ∀ e ∈ m, e.1.WellFormed) {k k' : Tree}
    (hk : k.WellFormed) (h : k.same k' = true) : m.get? k = m.get? k' := by
  induction m with
  | nil => rfl
  | cons e rest ih =>
    obtain ⟨he, hrest⟩ := List.forall_mem_cons.mp hm
    have hsame : e.1.same k = e.1.same k' := by
      rw [Bool.eq_iff_iff]
      constructor
      · intro hek
        exact Tree.same_trans e.1 hek h
      · intro hek'
        exact Tree.same_trans e.1 hek' (Tree.same_symm k hk h)
    rw [get?_cons, get?_cons, hsame, ih hrest]

/-! ## Setting a value -/

/-- Setting a value changes what stands under the keys that collide with its own, and nothing
else. -/
theorem get?_insert {m : Mapping} (hm : ∀ e ∈ m, e.1.WellFormed) {key : Tree}
    (hkey : key.WellFormed) (value k : Tree) :
    (m.insert key value).get? k = if key.same k then some value else m.get? k := by
  induction m with
  | nil => rw [insert, get?_cons]
  | cons e rest ih =>
    obtain ⟨he, hrest⟩ := List.forall_mem_cons.mp hm
    rw [insert]
    by_cases hsame : e.1.same key = true
    · rw [if_pos hsame, get?_cons, get?_cons, same_eq_of_same he hsame k]
      split <;> rfl
    · rw [if_neg hsame, get?_cons, get?_cons, ih hrest]
      by_cases hek : e.1.same k = true
      · rw [if_pos hek, if_pos hek, not_same_of_apart hkey (Bool.eq_false_iff.mpr hsame) hek]
        rfl
      · rw [if_neg hek, if_neg hek]

/-- A key in use keeps its place and its spelling, and a new one goes to the end. -/
theorem keys_insert (m : Mapping) (key value : Tree) :
    (m.insert key value).keys = if m.contains key then m.keys else m.keys ++ [key] := by
  induction m with
  | nil => rfl
  | cons e rest ih =>
    rw [insert, contains_cons]
    by_cases hsame : e.1.same key = true
    · rw [if_pos hsame, hsame]
      rfl
    · rw [if_neg hsame, Bool.eq_false_iff.mpr hsame, Bool.false_or, keys_cons, keys_cons, ih]
      split <;> rfl

/-! ## Overlaying -/

variable {base upper : Mapping}

private theorem get?_eq_none_of_front {e : Tree × Tree} {rest : Mapping}
    (h : WellFormed (e :: rest)) {k : Tree} (hk : e.1.same k = true) : rest.get? k = none := by
  obtain ⟨hfront, -, hrest⟩ := wellFormed_cons.mp h
  rw [get?, Option.map_eq_none_iff, List.find?_eq_none]
  intro f hf hsame
  have happart := not_same_of_apart ((wellFormed_iff.mp hrest).2 f hf).1 (hfront f hf) hk
  rw [hsame] at happart
  exact absurd happart (by simp)

/-- **What an overlay says under a key** is what the upper mapping says there, over what the lower
one does. -/
theorem get?_overlay (hbase : base.WellFormed) (hupper : upper.WellFormed) (k : Tree) :
    get? (Mapping.overlay base upper) k = layered (base.get? k) (upper.get? k) := by
  induction upper generalizing base with
  | nil =>
    rw [Mapping.overlay]
    rfl
  | cons e rest ih =>
    obtain ⟨key, value⟩ := e
    obtain ⟨-, ⟨hkey, hvalue⟩, hrest⟩ := wellFormed_cons.mp hupper
    have hkeys : ∀ e ∈ base, e.1.WellFormed := fun e he ↦ ((wellFormed_iff.mp hbase).2 e he).1
    have hset : (Tree.over (base.get? key) value).WellFormed :=
      Tree.overlaid_wellFormed.over value (fun v hv ↦ hbase.get? hv) hvalue
    rw [Mapping.overlay, ih (hbase.insert hkey hset) hrest, get?_insert hkeys hkey, get?_cons]
    by_cases hk : key.same k = true
    · -- the upper mapping does not have this key once more, so nothing is set over it later
      rw [if_pos hk, if_pos hk, get?_eq_none_of_front hupper hk, get?_eq_of_same hkeys hkey hk]
      rfl
    · rw [if_neg hk, if_neg hk]

/-- **The keys of an overlay**: those of the lower mapping as they were, then the new ones of the
upper mapping in its order. -/
theorem keys_overlay (hupper : upper.Distinct) : keys (Mapping.overlay base upper)
    = base.keys ++ upper.keys.filter fun k ↦ !base.contains k := by
  induction upper generalizing base with
  | nil =>
    rw [Mapping.overlay, keys_nil, List.filter_nil, List.append_nil]
  | cons e rest ih =>
    obtain ⟨key, value⟩ := e
    obtain ⟨hfront, hrest⟩ := List.pairwise_cons.mp hupper
    -- setting the first entry makes no other key of the upper mapping one that is in use
    have hothers : ∀ set, (keys rest).filter (fun k ↦ !(base.insert key set).contains k)
        = (keys rest).filter fun k ↦ !base.contains k := by
      intro set
      refine List.filter_congr fun k hk ↦ ?_
      obtain ⟨f, hf, rfl⟩ := List.mem_map.mp hk
      rw [Bool.not_inj_iff, Bool.eq_iff_iff, contains_iff, contains_iff, keys_insert]
      split
      · rfl
      · simp [hfront f hf]
    rw [Mapping.overlay, ih hrest, hothers, keys_insert, keys_cons, List.filter_cons]
    by_cases hkey : base.contains key = true
    · rw [if_pos hkey, if_neg (by rw [hkey]; simp)]
    · rw [if_neg hkey, if_pos (by rw [Bool.eq_false_iff.mpr hkey]; rfl), List.append_assoc]
      rfl

theorem contains_overlay (hbase : base.WellFormed) (hupper : upper.WellFormed) (k : Tree) :
    contains (Mapping.overlay base upper) k = (base.contains k || upper.contains k) := by
  simp only [contains_eq_isSome, get?_overlay hbase hupper]
  cases upper.get? k with
  | none => rw [layered, Option.isSome_none, Bool.or_false]
  | some value => rw [layered, Option.isSome_some, Option.isSome_some, Bool.or_true]

/-- **A mapping is known by its keys and what stands under them.** -/
theorem eq_of_keys {m n : Mapping} (hm : m.Distinct) (hkeys : m.keys = n.keys)
    (hget : ∀ k ∈ m.keys, m.get? k = n.get? k) : m = n := by
  induction m generalizing n with
  | nil => exact (List.map_eq_nil_iff.mp hkeys.symm).symm
  | cons e rest ih =>
    obtain ⟨hfront, hrest⟩ := List.pairwise_cons.mp hm
    cases n with
    | nil => exact absurd hkeys (by simp)
    | cons f others =>
      rw [keys_cons, keys_cons, List.cons.injEq] at hkeys
      obtain ⟨hkey, hothers⟩ := hkeys
      rw [keys_cons, List.forall_mem_cons] at hget
      have hvalue : some e.2 = some f.2 := by
        have hfirst := hget.1
        rwa [get?_cons, get?_cons, ← hkey, if_pos (Tree.same_refl e.1),
          if_pos (Tree.same_refl e.1)] at hfirst
      have hhead : e = f := Prod.ext hkey (Option.some.inj hvalue)
      refine List.cons_eq_cons.mpr ⟨hhead, ih hrest hothers fun k hk ↦ ?_⟩
      obtain ⟨g, hg, rfl⟩ := List.mem_map.mp hk
      have hbehind := hget.2 g.1 hk
      have hpast : ¬e.1.same g.1 = true := by rw [hfront g hg]; simp
      rwa [get?_cons, get?_cons, ← hhead, if_neg hpast, if_neg hpast] at hbehind

/-! ## Nested mappings -/

theorem sizeOf_lt_of_get? {m n : Mapping} {key : Tree} (h : m.get? key = some (.map n)) :
    sizeOf n < sizeOf m := by
  obtain ⟨e, hfound, hvalue⟩ := Option.map_eq_some_iff.mp h
  have hmem := List.sizeOf_lt_of_mem (List.mem_of_find?_eq_some hfound)
  obtain ⟨k, v⟩ := e
  rw [show v = .map n from hvalue] at hmem
  simp only [Prod.mk.sizeOf_spec, Tree.map.sizeOf_spec] at hmem
  omega

/-- What holds of a mapping once it holds of those that stand under its keys holds of all. -/
theorem nested_induction {P : Mapping → Prop}
    (h : ∀ m : Mapping, (∀ key n, m.get? key = some (.map n) → P n) → P m) (m : Mapping) : P m :=
  h m fun _ n hn ↦ have := sizeOf_lt_of_get? hn
    nested_induction h n
termination_by sizeOf m

end Mapping

end EndpointSync.Yaml
