import EndpointSync.Proofs.Paths

/-!
# Laws of merging

An object merges its own template into the one that it inherits. The laws here say when the number
and the order of such steps make no difference. A template that is merged in twice counts once, and
one that says nothing does not count. All of it holds exactly, with the order and the spelling of
the keys on every level.

## One level at a time

Two overlays are equal if they have the same keys in the same order and the same values under them
(`eq_of_keys`). The keys of an overlay are one list after the other, with what is in use already
left out, and a law about them is a law about filtered lists. The values are a matter of the two or
three values under one key (`layered`), and there a law is only in question where they are mappings,
which is the same law one level further in.

## Where a scalar comes between

Merging is not associative as it stands. If the middle one of three templates says a scalar where
the outer two say mappings, the scalar wins over the first one and then gives way to the third, so
nothing of the first one is left. With the second and the third merged first, there has never been a
scalar. This is the only thing that can happen: where no path leads to such a scalar, the order of
merging is of no importance.
-/

namespace EndpointSync.Yaml

namespace Mapping

/-! ## Under one key -/

@[simp] theorem layered_absent (lower : Option Tree) : layered lower none = lower := rfl

theorem layered_of_map?_eq_none {v : Tree} (h : v.map? = none) (lower : Option Tree) :
    layered lower (some v) = some v := by rw [layered, Tree.over_of_map?_eq_none h]

theorem layered_map_map (m n : Mapping) :
    layered (some (.map m)) (some (.map n)) = some (.map (overlay m n)) := by
  rw [layered, Tree.over]

theorem layered_map_of_forall_ne {lower : Option Tree} (h : ∀ m, lower ≠ some (.map m))
    (n : Mapping) : layered lower (some (.map n)) = some (.map n) := by
  rw [layered, Tree.over_map_of_forall_ne h]

theorem cases_map? (x : Option Tree) :
    x = none ∨ (∃ v, x = some v ∧ v.map? = none) ∨ ∃ m, x = some (.map m) := by
  cases x with
  | none => exact .inl rfl
  | some v =>
    cases hv : v.map? with
    | none => exact .inr (.inl ⟨v, rfl, hv⟩)
    | some m => exact .inr (.inr ⟨m, congrArg some (Tree.map?_eq_some_iff.mp hv)⟩)

theorem ne_map_of_map?_eq_none {v : Tree} (h : v.map? = none) (m : Mapping) :
    some v ≠ some (.map m) := by
  intro heq
  rw [Option.some.inj heq] at h
  exact absurd h (by simp [Tree.map?])

theorem layered_self {x : Option Tree} (h : ∀ m, x = some (.map m) → overlay m m = m) :
    layered x x = x := by
  rcases cases_map? x with rfl | ⟨v, rfl, hv⟩ | ⟨m, rfl⟩
  · rfl
  · exact layered_of_map?_eq_none hv _
  · rw [layered_map_map, h m rfl]

/-- A value that is set once more changes nothing, if it is so with nested mappings. -/
theorem layered_layered_self {x y : Option Tree}
    (hself : ∀ n, y = some (.map n) → overlay n n = n)
    (h : ∀ m n, x = some (.map m) → y = some (.map n) → overlay (overlay m n) n = overlay m n) :
    layered (layered x y) y = layered x y := by
  rcases cases_map? y with rfl | ⟨v, rfl, hv⟩ | ⟨n, rfl⟩
  · rfl
  · rw [layered_of_map?_eq_none hv, layered_of_map?_eq_none hv]
  · by_cases hx : ∃ m, x = some (.map m)
    · obtain ⟨m, rfl⟩ := hx
      rw [layered_map_map, layered_map_map, h m n rfl rfl]
    · rw [layered_map_of_forall_ne (not_exists.mp hx), layered_map_map, hself n rfl]

private theorem layered_self_layered {x y : Option Tree}
    (hself : ∀ m, x = some (.map m) → overlay m m = m)
    (h : ∀ m n, x = some (.map m) → y = some (.map n) → overlay m (overlay m n) = overlay m n) :
    layered x (layered x y) = layered x y := by
  rcases cases_map? y with rfl | ⟨v, rfl, hv⟩ | ⟨n, rfl⟩
  · rw [layered_absent, layered_self hself]
  · rw [layered_of_map?_eq_none hv, layered_of_map?_eq_none hv]
  · by_cases hx : ∃ m, x = some (.map m)
    · obtain ⟨m, rfl⟩ := hx
      rw [layered_map_map, layered_map_map, h m n rfl rfl]
    · rw [layered_map_of_forall_ne (not_exists.mp hx), layered_map_of_forall_ne (not_exists.mp hx)]

/-- Three values can be put together in either order, if nested mappings can and no value that is no
mapping stands between two mappings. -/
theorem layered_assoc {x y z : Option Tree}
    (hbetween : ∀ m v n, x = some (.map m) → y = some v → v.map? = none → z ≠ some (.map n))
    (h : ∀ l m n, x = some (.map l) → y = some (.map m) → z = some (.map n) →
      overlay (overlay l m) n = overlay l (overlay m n)) :
    layered (layered x y) z = layered x (layered y z) := by
  rcases cases_map? z with rfl | ⟨w, rfl, hw⟩ | ⟨n, rfl⟩
  · rfl
  · rw [layered_of_map?_eq_none hw, layered_of_map?_eq_none hw, layered_of_map?_eq_none hw]
  rcases cases_map? y with rfl | ⟨v, rfl, hv⟩ | ⟨m, rfl⟩
  · rw [layered_absent, layered_none]
  · have hx : ∀ l, x ≠ some (.map l) := fun l hl ↦ hbetween l v n hl rfl hv rfl
    have hscalar := layered_map_of_forall_ne (ne_map_of_map?_eq_none hv) n
    rw [layered_of_map?_eq_none hv, hscalar, layered_map_of_forall_ne hx]
  · by_cases hx : ∃ l, x = some (.map l)
    · obtain ⟨l, rfl⟩ := hx
      rw [layered_map_map, layered_map_map, layered_map_map, layered_map_map, h l m n rfl rfl rfl]
    · have hnot := not_exists.mp hx
      rw [layered_map_of_forall_ne hnot, layered_map_map, layered_map_of_forall_ne hnot]

/-! ## All keys -/

variable {a b c : Mapping}

theorem filter_keys_eq_nil {m n : Mapping} (h : ∀ k, n.contains k = true → m.contains k = true) :
    (n.keys.filter fun k ↦ !m.contains k) = [] := by
  refine List.filter_eq_nil_iff.mpr fun k hk ↦ ?_
  rw [h k (contains_of_mem_keys hk)]
  simp

/-- An overlay is equal to a mapping with the same keys and the same values. -/
theorem overlay_eq (ha : a.WellFormed) (hb : b.WellFormed)
    (hkeys : a.keys ++ (b.keys.filter fun k ↦ !a.contains k) = c.keys)
    (hget : ∀ k, layered (a.get? k) (b.get? k) = c.get? k) : overlay a b = c := by
  have hoverlay := wellFormed_iff.mp (ha.overlay hb)
  refine eq_of_keys hoverlay.1 ((keys_overlay (wellFormed_iff.mp hb).1).trans hkeys) fun k _ ↦ ?_
  rw [get?_overlay ha hb, hget k]

theorem overlay_nil (m : Mapping) : overlay m [] = m := by rw [overlay]

theorem nil_overlay (ha : a.WellFormed) : overlay [] a = a := by
  refine overlay_eq wellFormed_nil ha ?_ fun k ↦ layered_none _
  simp [contains]

theorem overlay_self (ha : a.WellFormed) : overlay a a = a := by
  induction a using nested_induction with
  | h a ih =>
    refine overlay_eq ha ha ?_ fun k ↦ ?_
    · rw [filter_keys_eq_nil fun _ h ↦ h, List.append_nil]
    · exact layered_self fun m hm ↦ ih k m hm (ha.get? hm)

theorem overlay_overlay_self (ha : a.WellFormed) (hb : b.WellFormed) :
    overlay (overlay a b) b = overlay a b := by
  induction b using nested_induction generalizing a with
  | h b ih =>
    refine overlay_eq (ha.overlay hb) hb ?_ fun k ↦ ?_
    · have hin : ∀ k, b.contains k = true → contains (overlay a b) k = true := by
        intro k hk
        rw [contains_overlay ha hb, hk, Bool.or_true]
      rw [filter_keys_eq_nil hin, List.append_nil]
    · rw [get?_overlay ha hb]
      refine layered_layered_self (fun n hn ↦ overlay_self (hb.get? hn)) fun m n hm hn ↦ ?_
      exact ih k n hn (ha.get? hm) (hb.get? hn)

theorem overlay_self_overlay (ha : a.WellFormed) (hb : b.WellFormed) :
    overlay a (overlay a b) = overlay a b := by
  induction a using nested_induction generalizing b with
  | h a ih =>
    refine overlay_eq ha (ha.overlay hb) ?_ fun k ↦ ?_
    · rw [keys_overlay (wellFormed_iff.mp hb).1, List.filter_append, List.filter_filter,
        filter_keys_eq_nil fun _ h ↦ h, List.nil_append]
      simp only [Bool.and_self]
    · rw [get?_overlay ha hb]
      refine layered_self_layered (fun m hm ↦ overlay_self (ha.get? hm)) fun m n hm hn ↦ ?_
      exact ih k m hm (ha.get? hm) (hb.get? hn)

/-- Where the path ends, the middle one of three mappings says something that is no mapping, and the
outer two say mappings. -/
def InterruptedAt (a b c : Mapping) (path : List Tree) : Prop :=
  (∃ m, a.at? path = some (.map m)) ∧ (∃ v, b.at? path = some v ∧ v.map? = none) ∧
    ∃ n, c.at? path = some (.map n)

theorem InterruptedAt.cons {l m n : Mapping} {key : Tree} {path : List Tree}
    (h : InterruptedAt l m n path) (ha : a.get? key = some (.map l))
    (hb : b.get? key = some (.map m)) (hc : c.get? key = some (.map n)) :
    InterruptedAt a b c (key :: path) := by
  rw [InterruptedAt, at?_cons, at?_cons, at?_cons, ha, hb, hc]
  exact h

/-- **Three mappings can be overlaid in either order**, unless the middle one comes between the
other two somewhere. -/
theorem overlay_assoc (ha : a.WellFormed) (hb : b.WellFormed) (hc : c.WellFormed)
    (h : ∀ path, ¬InterruptedAt a b c path) :
    overlay (overlay a b) c = overlay a (overlay b c) := by
  induction b using nested_induction generalizing a c with
  | h b ih =>
    refine overlay_eq (ha.overlay hb) hc ?_ fun k ↦ ?_
    · rw [keys_overlay (wellFormed_iff.mp hb).1,
        keys_overlay (wellFormed_iff.mp (hb.overlay hc)).1,
        keys_overlay (wellFormed_iff.mp hc).1, List.filter_append, List.filter_filter,
        List.append_assoc]
      simp only [contains_overlay ha hb, Bool.not_or]
    · rw [get?_overlay ha hb, get?_overlay ha (hb.overlay hc), get?_overlay hb hc]
      refine layered_assoc ?_ fun l m n hl hm hn ↦ ?_
      · intro l v n hl hv hend hn
        refine h [k] ⟨⟨l, ?_⟩, ⟨v, ?_, hend⟩, n, ?_⟩
        · rw [at?_cons, hl]; rfl
        · rw [at?_cons, hv]; rfl
        · rw [at?_cons, hn]; rfl
      · exact ih k m hm (ha.get? hl) (hb.get? hm) (hc.get? hn) fun path hpath ↦
          h (k :: path) (hpath.cons hl hm hn)

/-- With a scalar in the middle, the first mapping is forgotten or not. -/
example :
    let first : Mapping := [(.str "ui", .map [(.str "color", .str "red")])]
    let second : Mapping := [(.str "ui", .null)]
    let third : Mapping := [(.str "ui", .map [(.str "size", .int 1)])]
    overlay (overlay first second) third = third ∧
      overlay first (overlay second third)
        = [(.str "ui", .map [(.str "color", .str "red"), (.str "size", .int 1)])] :=
  ⟨rfl, rfl⟩

end Mapping

end EndpointSync.Yaml

namespace EndpointSync.Template

open Yaml (Mapping Tree)

/-! ## Templates that may be absent -/

variable {a b c : Option Template}

theorem merge_absent (a : Option Template) : merge a none = a := by cases a <;> rfl

theorem merge_self (ha : ∀ t ∈ a, Mapping.WellFormed t) : merge a a = a := by
  cases a with
  | none => rfl
  | some t => exact congrArg some (Mapping.overlay_self (ha t rfl))

theorem merge_merge_self (ha : ∀ t ∈ a, Mapping.WellFormed t) (hb : ∀ t ∈ b, Mapping.WellFormed t) :
    merge (merge a b) b = merge a b := by
  cases b with
  | none => exact merge_absent _
  | some m =>
    cases a with
    | none => exact merge_self hb
    | some l => exact congrArg some (Mapping.overlay_overlay_self (ha l rfl) (hb m rfl))

theorem merge_self_merge (ha : ∀ t ∈ a, Mapping.WellFormed t) (hb : ∀ t ∈ b, Mapping.WellFormed t) :
    merge a (merge a b) = merge a b := by
  cases a with
  | none => rfl
  | some l =>
    cases b with
    | none => exact merge_self ha
    | some m => exact congrArg some (Mapping.overlay_self_overlay (ha l rfl) (hb m rfl))

/-- Somewhere the middle one of three templates says a value that is no mapping where the outer two
say mappings. -/
def Interrupted (a b c : Option Template) : Prop :=
  ∃ l ∈ a, ∃ m ∈ b, ∃ n ∈ c, ∃ path, Mapping.InterruptedAt l m n path

theorem merge_assoc (ha : ∀ t ∈ a, Mapping.WellFormed t) (hb : ∀ t ∈ b, Mapping.WellFormed t)
    (hc : ∀ t ∈ c, Mapping.WellFormed t) (h : ¬Interrupted a b c) :
    merge (merge a b) c = merge a (merge b c) := by
  cases a with
  | none => rfl
  | some l =>
    cases b with
    | none => rfl
    | some m =>
      cases c with
      | none => rfl
      | some n =>
        refine congrArg some (Mapping.overlay_assoc (ha l rfl) (hb m rfl) (hc n rfl) ?_)
        intro path hpath
        exact h ⟨l, rfl, m, rfl, n, rfl, path, hpath⟩

/-- **The laws of merging.** Nothing and the empty template change nothing, what is merged in twice
counts once, and the order of merging is of no importance where no template comes between two
others. -/
theorem merge_laws (ha : ∀ t ∈ a, Mapping.WellFormed t) (hb : ∀ t ∈ b, Mapping.WellFormed t)
    (hc : ∀ t ∈ c, Mapping.WellFormed t) :
    (merge none a = a ∧ merge a none = a) ∧
    (∀ t, a = some t → merge (some []) a = a ∧ merge a (some []) = a) ∧
    merge a a = a ∧
    (merge (merge a b) b = merge a b ∧ merge a (merge a b) = merge a b) ∧
    (¬Interrupted a b c → merge (merge a b) c = merge a (merge b c)) := by
  refine ⟨⟨rfl, merge_absent a⟩, ?_, merge_self ha, ⟨?_, ?_⟩, merge_assoc ha hb hc⟩
  · rintro t rfl
    constructor
    · exact congrArg some (Mapping.nil_overlay (ha t rfl))
    · exact congrArg some (Mapping.overlay_nil t)
  · exact merge_merge_self ha hb
  · exact merge_self_merge ha hb

/-- Settings of a third template, which has nothing to say of the client. -/
def titleOverrides : Mapping := [(.str "ui", .map [(.str "title", .str "Shop")])]

/-- The third template says mappings at the top and for the page, and so does the second. -/
theorem not_interrupted_badge : ¬Interrupted (some Mapping.badgeSettings)
    (some Mapping.badgeOverrides) (some titleOverrides) := by
  rintro ⟨l, ⟨⟩, m, ⟨⟩, n, ⟨⟩, path, -, ⟨v, hv, hend⟩, o, ho⟩
  rcases path with _ | ⟨key, path⟩
  · rw [Mapping.at?_nil, Option.some.injEq] at hv
    exact absurd (hv ▸ hend) (by simp [Tree.map?])
  obtain ⟨p, hp⟩ := Mapping.exists_map_of_at? ho
  have hkey : (Tree.str "ui").same key = true := by
    by_contra hother
    rw [titleOverrides, Mapping.get?_cons, if_neg hother] at hp
    exact absurd hp (by simp)
  obtain rfl := Tree.str_same_iff.mp hkey
  rcases path with _ | ⟨next, path⟩
  · obtain rfl := Option.some.inj hv
    exact absurd hend (by simp [Tree.map?])
  · have hpage : Mapping.at? [(.str "title", .str "Shop")] (next :: path) = some (.map o) := ho
    obtain ⟨q, hq⟩ := Mapping.exists_map_of_at? hpage
    rw [Mapping.get?_cons] at hq
    split at hq
    · exact absurd (Option.some.inj hq) (by simp)
    · exact absurd hq (by simp)

theorem merge_laws_badge :
    (∀ t ∈ some Mapping.badgeSettings, Mapping.WellFormed t) ∧
    (∀ t ∈ some Mapping.badgeOverrides, Mapping.WellFormed t) ∧
    (∀ t ∈ some titleOverrides, Mapping.WellFormed t) ∧
    ¬Interrupted (some Mapping.badgeSettings) (some Mapping.badgeOverrides) (some titleOverrides) ∧
    merge (merge (some Mapping.badgeSettings) (some Mapping.badgeOverrides)) (some titleOverrides)
      = merge (some Mapping.badgeSettings)
        (merge (some Mapping.badgeOverrides) (some titleOverrides)) := by
  have hsettings : ∀ t ∈ some Mapping.badgeSettings, Mapping.WellFormed t := by
    rintro t ⟨⟩
    exact Mapping.badgeSettings_wellFormed
  have hoverrides : ∀ t ∈ some Mapping.badgeOverrides, Mapping.WellFormed t := by
    rintro t ⟨⟩
    exact Mapping.badgeOverrides_wellFormed
  have htitle : ∀ t ∈ some titleOverrides, Mapping.WellFormed t := by
    rintro t ⟨⟩
    simp [titleOverrides, Mapping.wellFormed_iff, Tree.WellFormed, Tree.EntriesWellFormed,
      Mapping.Distinct]
  exact ⟨hsettings, hoverrides, htitle, not_interrupted_badge,
    (merge_laws hsettings hoverrides htitle).2.2.2.2 not_interrupted_badge⟩

end EndpointSync.Template
