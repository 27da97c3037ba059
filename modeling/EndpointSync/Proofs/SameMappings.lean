import EndpointSync.Proofs.OverlayLaws
import Mathlib.Data.Option.Basic

/-!
# Sameness of mappings, key by key

Two mappings are compared by looking each entry of the one up in the other and counting the entries.
It comes to the same to look up every key there is in both of them (`same_iff_get?`). This is the
form in which sameness goes well with overlaying, which is described by what stands under each key:
overlays of mappings that are the same are the same (`overlay_same`), however their keys are ordered
and spelled.

The number of entries is the only point at which this takes an argument. A mapping whose keys are
all in use in another one has no more entries than that, since no key there is used up twice.
-/

namespace EndpointSync.Yaml

namespace Tree

/-- Neither value is there, or both are and they are the same. -/
abbrev SameValue : Option Tree → Option Tree → Prop := Option.Rel fun a b ↦ a.same b = true

theorem SameValue.exists_of_some {v : Tree} {y : Option Tree} (h : SameValue (some v) y) :
    ∃ w, y = some w ∧ v.same w = true := by
  rcases y with _ | w
  · exact absurd h (by rintro ⟨⟩)
  · obtain hsame | - := h
    exact ⟨w, rfl, hsame⟩

theorem SameValue.eq_none {y : Option Tree} (h : SameValue none y) : y = none := by
  rcases y with _ | w
  · rfl
  · exact absurd h (by rintro ⟨⟩)

theorem SameValue.isSome_eq {x y : Option Tree} (h : SameValue x y) : x.isSome = y.isSome := by
  rcases x with _ | v
  · rw [h.eq_none]
  · obtain ⟨w, rfl, -⟩ := h.exists_of_some
    rfl

theorem SameValue.getD {x y : Option Tree} (h : SameValue x y) :
    (x.getD .null).same (y.getD .null) = true := by
  rcases x with _ | v
  · rw [h.eq_none]
    exact same_refl _
  · obtain ⟨w, rfl, hsame⟩ := h.exists_of_some
    exact hsame

theorem SameValue.symm {x y : Option Tree} (hx : ∀ v ∈ x, v.WellFormed) (h : SameValue x y) :
    SameValue y x := by
  rcases x with _ | v
  · rw [h.eq_none]
    exact .none
  · obtain ⟨w, rfl, hsame⟩ := h.exists_of_some
    exact .some (Tree.same_symm v (hx v rfl) hsame)

private theorem exists_map_of_same {a : Tree} {fs : Mapping} (h : a.same (.map fs) = true) :
    ∃ es, a = .map es ∧ Mapping.same es fs = true := by
  cases a with
  | map es => exact ⟨es, rfl, h⟩
  | _ => exact absurd h (by simp [same])

theorem map?_of_same {a b : Tree} (h : a.same b = true) :
    (a.map? = none ∧ b.map? = none) ∨
      ∃ m n, a = .map m ∧ b = .map n ∧ Mapping.same m n = true := by
  rcases hb : b.map? with _ | n
  · refine .inl ⟨?_, rfl⟩
    rcases ha : a.map? with _ | m
    · rfl
    · obtain ⟨fs, rfl, -⟩ := map_same_iff.mp (map?_eq_some_iff.mp ha ▸ h)
      exact absurd hb (by simp [map?])
  · rw [map?_eq_some_iff.mp hb] at h ⊢
    obtain ⟨m, rfl, hsame⟩ := exists_map_of_same h
    exact .inr ⟨m, n, rfl, rfl, hsame⟩

end Tree

namespace Mapping

open EndpointSync.Yaml.Tree (SameValue sameEntries sameEntries_iff)

variable {m n : Mapping}

/-! ## Counting entries -/

theorem WellFormed.sublist (hn : n.WellFormed) (h : m.Sublist n) : m.WellFormed := by
  obtain ⟨hdistinct, hall⟩ := wellFormed_iff.mp hn
  exact wellFormed_iff.mpr ⟨hdistinct.sublist h, fun e he ↦ hall e (h.subset he)⟩

private theorem exists_mem_of_contains {key : Tree} (h : m.contains key = true) :
    ∃ e ∈ m, e.1.same key = true := List.any_eq_true.mp h

/-- A mapping whose keys are all in use in another one has no more entries than that. -/
theorem length_le_of_contains (hm : m.Distinct) (hn : n.WellFormed)
    (h : ∀ e ∈ m, n.contains e.1 = true) : m.length ≤ n.length := by
  have hpartners : ∀ e ∈ m, ∃ f ∈ n, f.1.WellFormed ∧ f.1.same e.1 = true := by
    intro e he
    obtain ⟨f, hf, hfe⟩ := exists_mem_of_contains (h e he)
    exact ⟨f, hf, ((wellFormed_iff.mp hn).2 f hf).1, hfe⟩
  have hapart : m.Pairwise fun e e' ↦ ∀ f : Tree × Tree, f.1.WellFormed ∧ f.1.same e.1 = true →
      ¬(f.1.WellFormed ∧ f.1.same e'.1 = true) := by
    refine hm.imp fun {e e'} happart f ⟨hf, hfe⟩ ⟨_, hfe'⟩ ↦ ?_
    rw [Tree.same_trans e.1 (Tree.same_symm f.1 hf hfe) hfe'] at happart
    exact absurd happart (by simp)
  obtain ⟨partners, hsub, hcount, -⟩ := Tree.exists_partners hapart hpartners
  rw [← hcount]
  exact hsub.length_le

theorem contains_of_sameEntries (hm : m.WellFormed) (h : sameEntries m n = true) :
    ∀ e ∈ m, n.contains e.1 = true := by
  intro e he
  obtain ⟨f, hf, hkey, -⟩ := sameEntries_iff.mp h e he
  have hback := Tree.same_symm e.1 ((wellFormed_iff.mp hm).2 e he).1 hkey
  exact List.any_eq_true.mpr ⟨f, hf, hback⟩

theorem same_of_sameEntries (hm : m.WellFormed) (hn : n.WellFormed) (h : sameEntries m n = true)
    (h' : sameEntries n m = true) : m.same n = true := by
  refine Tree.map_same_iff.mpr ⟨n, rfl, le_antisymm ?_ ?_, h⟩
  · exact length_le_of_contains (wellFormed_iff.mp hm).1 hn (contains_of_sameEntries hm h)
  · exact length_le_of_contains (wellFormed_iff.mp hn).1 hm (contains_of_sameEntries hn h')

theorem sameEntries_of_same (h : m.same n = true) : sameEntries m n = true := by
  obtain ⟨fs, hfs, -, hentries⟩ := Tree.map_same_iff.mp h
  exact Tree.map.inj hfs ▸ hentries

/-! ## Key by key -/

theorem get?_of_mem (hm : m.WellFormed) {e : Tree × Tree} (he : e ∈ m) {k : Tree}
    (hk : e.1.same k = true) : m.get? k = some e.2 := by
  induction m with
  | nil => exact absurd he List.not_mem_nil
  | cons f rest ih =>
    obtain ⟨hfront, -, hrest⟩ := wellFormed_cons.mp hm
    rw [get?_cons]
    rcases List.mem_cons.mp he with rfl | hlater
    · rw [if_pos hk]
    · have hpast : ¬f.1.same k = true := by
        intro hfk
        have hkey := ((wellFormed_iff.mp hrest).2 e hlater).1
        rw [not_same_of_apart hkey (hfront e hlater) hfk] at hk
        exact absurd hk (by simp)
      rw [if_neg hpast, ih hrest hlater]

theorem exists_mem_of_get? {k v : Tree} (h : m.get? k = some v) :
    ∃ e ∈ m, e.1.same k = true ∧ e.2 = v := by
  obtain ⟨e, hfound, hvalue⟩ := Option.map_eq_some_iff.mp h
  have hkey : e.1.same k = true := by simpa using List.find?_some hfound
  exact ⟨e, List.mem_of_find?_eq_some hfound, hkey, hvalue⟩

theorem sameEntries_of_get? (hm : m.WellFormed) (hn : n.WellFormed)
    (h : ∀ k, SameValue (m.get? k) (n.get? k)) : sameEntries m n = true := by
  refine sameEntries_iff.mpr fun e he ↦ ?_
  have hvalue := h e.1
  rw [get?_of_mem hm he e.1.same_refl] at hvalue
  obtain ⟨w, hw, hsame⟩ := hvalue.exists_of_some
  obtain ⟨f, hf, hkey, rfl⟩ := exists_mem_of_get? hw
  exact ⟨f, hf, Tree.same_symm f.1 ((wellFormed_iff.mp hn).2 f hf).1 hkey, hsame⟩

theorem get?_of_sameEntries (hm : m.WellFormed) (hn : n.WellFormed)
    (h : sameEntries m n = true) {k v : Tree} (hv : m.get? k = some v) :
    ∃ w, n.get? k = some w ∧ v.same w = true := by
  obtain ⟨e, he, hek, rfl⟩ := exists_mem_of_get? hv
  obtain ⟨f, hf, hkey, hvalue⟩ := sameEntries_iff.mp h e he
  have hback := Tree.same_symm e.1 ((wellFormed_iff.mp hm).2 e he).1 hkey
  exact ⟨f.2, get?_of_mem hn hf (Tree.same_trans f.1 hback hek), hvalue⟩

/-- **Two mappings are the same exactly if the same stands in them under every key.** -/
theorem same_iff_get? (hm : m.WellFormed) (hn : n.WellFormed) :
    m.same n = true ↔ ∀ k, SameValue (m.get? k) (n.get? k) := by
  constructor
  · intro h k
    rcases hmk : m.get? k with _ | v
    · rcases hnk : n.get? k with _ | w
      · exact .none
      · have hback := sameEntries_of_same (same_symm hm h)
        obtain ⟨v, hv, -⟩ := get?_of_sameEntries hn hm hback hnk
        exact absurd (hmk.symm.trans hv) (by simp)
    · obtain ⟨w, hw, hsame⟩ := get?_of_sameEntries hm hn (sameEntries_of_same h) hmk
      rw [hw]
      exact .some hsame
  · intro h
    have h' : ∀ k, SameValue (n.get? k) (m.get? k) := fun k ↦ (h k).symm fun v hv ↦ hm.get? hv
    exact same_of_sameEntries hm hn (sameEntries_of_get? hm hn h) (sameEntries_of_get? hn hm h')

/-! ## Overlaying -/

/-- What is set over values that are the same is the same, if it is so with nested mappings. -/
theorem layered_same {x x' y y' : Option Tree} (hx : SameValue x x') (hy : SameValue y y')
    (h : ∀ m m' n n', x = some (.map m) → x' = some (.map m') → y = some (.map n) →
      y' = some (.map n') → Mapping.same m m' = true → Mapping.same n n' = true →
      Mapping.same (overlay m n) (overlay m' n') = true) :
    SameValue (layered x y) (layered x' y') := by
  rcases y with _ | v
  · rw [hy.eq_none]
    exact hx
  obtain ⟨w, rfl, hvw⟩ := hy.exists_of_some
  rcases Tree.map?_of_same hvw with ⟨hv, hw⟩ | ⟨n, n', rfl, rfl, hnested⟩
  · rw [layered_of_map?_eq_none hv, layered_of_map?_eq_none hw]
    exact hy
  -- a mapping is overlaid on a mapping, and replaces everything else
  rcases x with _ | v
  · rw [hx.eq_none]
    exact hy
  obtain ⟨w, rfl, hlower⟩ := hx.exists_of_some
  rcases Tree.map?_of_same hlower with ⟨hv, hw⟩ | ⟨m, m', rfl, rfl, hbelow⟩
  · rw [layered_map_of_forall_ne (ne_map_of_map?_eq_none hv),
      layered_map_of_forall_ne (ne_map_of_map?_eq_none hw)]
    exact hy
  · rw [layered_map_map, layered_map_map]
    exact .some (h m m' n n' rfl rfl rfl rfl hbelow hnested)

/-- **Overlays of mappings that are the same are the same.** -/
theorem overlay_same {base base' upper upper' : Mapping} (hbase : base.WellFormed)
    (hbase' : base'.WellFormed) (hupper : upper.WellFormed) (hupper' : upper'.WellFormed)
    (hlower : base.same base' = true) (h : upper.same upper' = true) :
    Mapping.same (overlay base upper) (overlay base' upper') = true := by
  induction upper using nested_induction generalizing base base' upper' with
  | h upper ih =>
    refine (same_iff_get? (hbase.overlay hupper) (hbase'.overlay hupper')).mpr fun k ↦ ?_
    rw [get?_overlay hbase hupper, get?_overlay hbase' hupper']
    refine layered_same ((same_iff_get? hbase hbase').mp hlower k)
      ((same_iff_get? hupper hupper').mp h k) ?_
    intro m m' n n' hm hm' hn hn' hbelow hnested
    exact ih k n hn (hbase.get? hm) (hbase'.get? hm') (hupper.get? hn) (hupper'.get? hn') hbelow
      hnested

/-- Zeros of both signs are one key, and the overlay keeps the spelling of the lower mapping. -/
example :
    let base : Mapping := [(.float (.finite false 0 0), .str "a"), (.str "b", .int 1)]
    let upper : Mapping := [(.str "b", .int 2), (.float (.finite true 0 0), .str "c")]
    same (overlay base upper) (overlay base.reverse upper.reverse) = true ∧
      keys (overlay base upper) = keys base := ⟨rfl, rfl⟩

end Mapping

end EndpointSync.Yaml
