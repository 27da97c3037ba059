import EndpointSync.Proofs.Overlay

/-!
# Overlaid mappings along a path

A path is a list of keys to look up one after the other. This module says what a path leads to in an
overlaid mapping by what it leads to in each of the two, however deep it goes. There is nothing to
find below a value that is no mapping, and sequences and tagged values are no mappings here,
whatever is inside them.

## Three ways down

On each level an overlay looks at the two values under the key and does one of three things
(`at?_overlay_cons`). Where the upper mapping says nothing, the rest of the path is one of the lower
mapping. Where both say mappings, these are overlaid in turn, and the rest of the path is about an
overlay again. Otherwise the upper value stands, and the rest of the path is one of the upper
mapping. So a path goes through overlays for a while and then stays with one side, which is what the
induction is on.

A value below the top can be lost without anything in its place: where the upper mapping says that a
setting is a scalar, whatever the lower mapping had below that setting is gone (`CutShort`).
-/

namespace EndpointSync.Yaml

namespace Tree

/-- What a path of keys leads to from a value down. -/
def at? : Tree → List Tree → Option Tree
  | t, [] => some t
  | t, key :: rest => (t.map?.bind fun m ↦ Mapping.get? m key).bind fun v ↦ at? v rest

@[simp] theorem at?_nil (t : Tree) : t.at? [] = some t := rfl

theorem at?_cons (t : Tree) (key : Tree) (rest : List Tree) :
    t.at? (key :: rest) = (t.map?.bind fun m ↦ Mapping.get? m key).bind fun v ↦ v.at? rest := rfl

private theorem at?_cons_of_map?_eq_none {t : Tree} (h : t.map? = none) (key : Tree)
    (rest : List Tree) : t.at? (key :: rest) = none := by
  rw [at?_cons, h]
  rfl

theorem map?_eq_some_iff {t : Tree} {m : Mapping} : t.map? = some m ↔ t = .map m := by
  cases t <;> simp [map?]

/-- A value that is no mapping replaces what was there. -/
theorem over_of_map?_eq_none {before : Option Tree} {value : Tree} (h : value.map? = none) :
    Tree.over before value = value := by
  cases value with
  | map m => exact absurd h (by simp [map?])
  | _ => rfl

/-- A mapping replaces what was there too, unless that was a mapping. -/
theorem over_map_of_forall_ne {before : Option Tree} (h : ∀ b, before ≠ some (.map b))
    (m : Mapping) : Tree.over before (.map m) = .map m := by
  rw [Tree.over]
  exact h

end Tree

namespace Mapping

/-- What a path of keys leads to in a mapping. -/
def at? (m : Mapping) (path : List Tree) : Option Tree := (Tree.map m).at? path

@[simp] theorem at?_nil (m : Mapping) : m.at? [] = some (.map m) := rfl

theorem at?_cons (m : Mapping) (key : Tree) (rest : List Tree) :
    m.at? (key :: rest) = (m.get? key).bind fun v ↦ v.at? rest := rfl

/-- The path goes on below a value that is no mapping. -/
def CutShort (m : Mapping) (path : List Tree) : Prop :=
  ∃ front v, front <+: path ∧ front ≠ path ∧ m.at? front = some v ∧ v.map? = none

/-- What a path leads to in an overlay, by what it leads to in the two mappings that are in it. -/
structure OverlaidAt (base upper : Mapping) (path : List Tree) : Prop where
  /-- What is no mapping in the upper one stands there as it is. -/
  replaced : ∀ v, upper.at? path = some v → v.map? = none →
    at? (overlay base upper) path = some v
  /-- What is a mapping in the upper one alone stands there as it is. -/
  taken : ∀ m, upper.at? path = some (.map m) → (∀ b, base.at? path ≠ some (.map b)) →
    at? (overlay base upper) path = some (.map m)
  /-- Two mappings are joined: no key is lost and none is added. The keys of the lower one keep
  their places and their order, and the new ones follow in the order of the upper one. -/
  joined : ∀ b m : Mapping, base.at? path = some (.map b) → upper.at? path = some (.map m) →
    ∃ r : Mapping, at? (overlay base upper) path = some (.map r) ∧
      (∀ k, r.contains k = (b.contains k || m.contains k)) ∧
      r.keys = b.keys ++ m.keys.filter fun k ↦ !b.contains k
  /-- Below a value of the upper one that is no mapping there is nothing. -/
  lost : upper.at? path = none → upper.CutShort path → at? (overlay base upper) path = none
  /-- Where the upper one says nothing at all, everything is as it was. -/
  kept : upper.at? path = none → ¬upper.CutShort path →
    at? (overlay base upper) path = base.at? path

variable {base upper : Mapping}

/-! ## One level -/

/-- The three ways from an overlay to what is under one of its keys. -/
theorem at?_overlay_cons (hbase : base.WellFormed) (hupper : upper.WellFormed) (key : Tree)
    (rest : List Tree) :
    (upper.get? key = none ∧ at? (overlay base upper) (key :: rest) = base.at? (key :: rest)) ∨
    (∃ b m, base.get? key = some (.map b) ∧ upper.get? key = some (.map m) ∧
      at? (overlay base upper) (key :: rest) = at? (overlay b m) rest) ∨
    ∃ v, upper.get? key = some v ∧ (v.map? = none ∨ ∀ b, base.get? key ≠ some (.map b)) ∧
      at? (overlay base upper) (key :: rest) = upper.at? (key :: rest) := by
  rw [at?_cons, get?_overlay hbase hupper, at?_cons, at?_cons]
  cases hvalue : upper.get? key with
  | none => exact .inl ⟨rfl, rfl⟩
  | some v =>
    refine .inr ?_
    rw [layered]
    cases hmap : v.map? with
    | none => exact .inr ⟨v, rfl, .inl hmap, by rw [Tree.over_of_map?_eq_none hmap]⟩
    | some m =>
      rw [Tree.map?_eq_some_iff.mp hmap]
      by_cases hlower : ∃ b, base.get? key = some (.map b)
      · obtain ⟨b, hb⟩ := hlower
        refine .inl ⟨b, m, hb, rfl, ?_⟩
        rw [hb, Tree.over]
        rfl
      · have hnot := not_exists.mp hlower
        exact .inr ⟨.map m, rfl, .inr hnot, by rw [Tree.over_map_of_forall_ne hnot]⟩

/-! ## Paths that are cut short -/

private theorem not_cutShort_nil (m : Mapping) : ¬m.CutShort [] := by
  rintro ⟨front, v, hfront, hne, -⟩
  exact hne (List.prefix_nil.mp hfront)

theorem cutShort_cons_iff {m : Mapping} {key : Tree} {rest : List Tree} :
    m.CutShort (key :: rest) ↔ ∃ v, m.get? key = some v ∧
      ((v.map? = none ∧ rest ≠ []) ∨ ∃ n, v = .map n ∧ CutShort n rest) := by
  constructor
  · rintro ⟨front, w, hfront, hne, hw, hend⟩
    rcases List.prefix_cons_iff.mp hfront with rfl | ⟨below, rfl, hbelow⟩
    · rw [at?_nil, Option.some.injEq] at hw
      rw [← hw] at hend
      exact absurd hend (by simp [Tree.map?])
    · obtain ⟨v, hv, hlead⟩ := Option.bind_eq_some_iff.mp hw
      refine ⟨v, hv, ?_⟩
      cases hmap : v.map? with
      | none =>
        refine .inl ⟨rfl, ?_⟩
        rintro rfl
        exact hne (congrArg (key :: ·) (List.prefix_nil.mp hbelow))
      | some n =>
        obtain rfl := Tree.map?_eq_some_iff.mp hmap
        exact .inr ⟨n, rfl, below, w, hbelow, fun h ↦ hne (congrArg (key :: ·) h), hlead, hend⟩
  · rintro ⟨v, hv, ⟨hend, hrest⟩ | ⟨n, rfl, front, w, hfront, hne, hlead, hend⟩⟩
    · refine ⟨[key], v, List.prefix_cons_inj key |>.mpr List.nil_prefix, ?_, ?_, hend⟩
      · intro h
        exact hrest (List.cons.inj h).2.symm
      · rw [at?_cons, hv]
        rfl
    · refine ⟨key :: front, w, List.prefix_cons_inj key |>.mpr hfront, ?_, ?_, hend⟩
      · intro h
        exact hne (List.cons.inj h).2
      · rw [at?_cons, hv]
        exact hlead

/-! ## From one level to the next -/

theorem OverlaidAt.nil (hbase : base.WellFormed) (hupper : upper.WellFormed) :
    OverlaidAt base upper [] where
  replaced v hv hend := by
    rw [at?_nil, Option.some.injEq] at hv
    rw [← hv] at hend
    exact absurd hend (by simp [Tree.map?])
  taken _ _ hno := absurd rfl (hno base)
  joined b m hb hm := by
    obtain rfl : base = b := Tree.map.inj (Option.some.inj hb)
    obtain rfl : upper = m := Tree.map.inj (Option.some.inj hm)
    exact ⟨overlay base upper, rfl, contains_overlay hbase hupper,
      keys_overlay (wellFormed_iff.mp hupper).1⟩
  lost h := absurd h (by simp)
  kept h := absurd h (by simp)

private theorem OverlaidAt.of_absent {key : Tree} {rest : List Tree}
    (habsent : upper.get? key = none)
    (hat : at? (overlay base upper) (key :: rest) = base.at? (key :: rest)) :
    OverlaidAt base upper (key :: rest) := by
  have hnothing : upper.at? (key :: rest) = none := by rw [at?_cons, habsent, Option.bind_none]
  constructor
  · intro v hv
    exact absurd (hnothing.symm.trans hv) (by simp)
  · intro m hm
    exact absurd (hnothing.symm.trans hm) (by simp)
  · intro b m _ hm
    exact absurd (hnothing.symm.trans hm) (by simp)
  · intro _ hcut
    obtain ⟨v, hv, -⟩ := cutShort_cons_iff.mp hcut
    exact absurd (habsent.symm.trans hv) (by simp)
  · exact fun _ _ ↦ hat

private theorem OverlaidAt.of_nested {key : Tree} {rest : List Tree} {b m : Mapping}
    (hb : base.get? key = some (.map b)) (hm : upper.get? key = some (.map m))
    (hat : at? (overlay base upper) (key :: rest) = at? (overlay b m) rest)
    (h : OverlaidAt b m rest) : OverlaidAt base upper (key :: rest) := by
  have hlower : base.at? (key :: rest) = b.at? rest := by rw [at?_cons, hb]; rfl
  have hupper : upper.at? (key :: rest) = m.at? rest := by rw [at?_cons, hm]; rfl
  have hcut : upper.CutShort (key :: rest) ↔ m.CutShort rest := by
    simp [cutShort_cons_iff, hm, Tree.map?]
  constructor
  · rw [hupper, hat]
    exact h.replaced
  · rw [hlower, hupper, hat]
    exact h.taken
  · rw [hlower, hupper, hat]
    exact h.joined
  · rw [hupper, hat, hcut]
    exact h.lost
  · rw [hlower, hupper, hat, hcut]
    exact h.kept

theorem at?_cons_eq_none {m : Mapping} {key : Tree} (h : ∀ n, m.get? key ≠ some (.map n))
    {rest : List Tree} (hrest : rest ≠ []) : m.at? (key :: rest) = none := by
  obtain ⟨next, below, rfl⟩ := List.exists_cons_of_ne_nil hrest
  rw [at?_cons, Option.bind_eq_none_iff]
  intro v hv
  cases hmap : v.map? with
  | none => exact Tree.at?_cons_of_map?_eq_none hmap next below
  | some n => exact absurd (Tree.map?_eq_some_iff.mp hmap ▸ hv) (h n)

theorem exists_map_of_at? {m n : Mapping} {key : Tree} {rest : List Tree}
    (h : m.at? (key :: rest) = some (.map n)) : ∃ n', m.get? key = some (.map n') := by
  by_contra hnone
  have hne := not_exists.mp hnone
  by_cases hrest : rest = []
  · obtain ⟨v, hv, hlead⟩ := Option.bind_eq_some_iff.mp h
    rw [hrest, Tree.at?_nil, Option.some.injEq] at hlead
    exact hne n (hlead ▸ hv)
  · rw [at?_cons_eq_none hne hrest] at h
    exact absurd h (by simp)

private theorem OverlaidAt.of_replaced {key v : Tree} {rest : List Tree}
    (hv : upper.get? key = some v) (hwins : v.map? = none ∨ ∀ b, base.get? key ≠ some (.map b))
    (hat : at? (overlay base upper) (key :: rest) = upper.at? (key :: rest)) :
    OverlaidAt base upper (key :: rest) := by
  constructor
  · intro w hw _
    exact hat.trans hw
  · intro m hm _
    exact hat.trans hm
  · intro b m hb hm
    obtain ⟨b', hb'⟩ := exists_map_of_at? hb
    obtain ⟨m', hm'⟩ := exists_map_of_at? hm
    rcases hwins with hend | hno
    · rw [Option.some.inj (hv.symm.trans hm')] at hend
      exact absurd hend (by simp [Tree.map?])
    · exact absurd hb' (hno b')
  · intro hnothing _
    exact hat.trans hnothing
  · intro hnothing hcut
    have hrest : rest ≠ [] := by
      rintro rfl
      rw [at?_cons, hv] at hnothing
      exact absurd hnothing (by simp)
    have hno : ∀ b, base.get? key ≠ some (.map b) := by
      refine hwins.resolve_left fun hend ↦ hcut ?_
      exact cutShort_cons_iff.mpr ⟨v, hv, .inl ⟨hend, hrest⟩⟩
    rw [hat, hnothing, at?_cons_eq_none hno hrest]

/-! ## All levels -/

/-- **What an overlay says at the end of a path**, whatever the path and however deep it goes. -/
theorem overlay_by_path (hbase : base.WellFormed) (hupper : upper.WellFormed) (path : List Tree) :
    OverlaidAt base upper path := by
  induction path generalizing base upper with
  | nil => exact OverlaidAt.nil hbase hupper
  | cons key rest ih =>
    rcases at?_overlay_cons hbase hupper key rest with
      ⟨habsent, hat⟩ | ⟨b, m, hb, hm, hat⟩ | ⟨v, hv, hwins, hat⟩
    · exact .of_absent habsent hat
    · exact .of_nested hb hm hat (ih (hbase.get? hb) (hupper.get? hm))
    · exact .of_replaced hv hwins hat

/-- Settings of a parent: a badge and how the client connects. -/
def badgeSettings : Mapping :=
  [(.str "ui", .map [(.str "badge", .map [(.str "color", .str "red"), (.str "size", .int 1)])]),
    (.str "client", .map [(.str "timeout", .str "1s")])]

/-- Settings over those of the parent: another colour, and no mapping for the client. -/
def badgeOverrides : Mapping :=
  [(.str "client", .tagged "off" (.map [(.str "timeout", .str "2s")])),
    (.str "ui",
      .map [(.str "badge", .map [(.str "shape", .str "round"), (.str "color", .str "blue")])])]

theorem badgeSettings_wellFormed : badgeSettings.WellFormed := by
  simp [badgeSettings, wellFormed_iff, Tree.WellFormed, Tree.EntriesWellFormed, Distinct, Tree.same]

theorem badgeOverrides_wellFormed : badgeOverrides.WellFormed := by
  simp [badgeOverrides, wellFormed_iff, Tree.WellFormed, Tree.EntriesWellFormed, Distinct,
    Tree.same]

def badgeResult : Mapping := overlay badgeSettings badgeOverrides

/-- The overrides say something of a badge and of a client, and nothing of the size of the badge. -/
theorem overlay_by_path_badge : badgeSettings.WellFormed ∧ badgeOverrides.WellFormed ∧
    (∃ r : Mapping, badgeResult.at? [.str "ui", .str "badge"] = some (.map r) ∧
      r.keys = [.str "color", .str "size", .str "shape"]) ∧
    badgeResult.at? [.str "ui", .str "badge", .str "color"] = some (.str "blue") ∧
    badgeResult.at? [.str "ui", .str "badge", .str "size"] = some (.int 1) ∧
    badgeResult.at? [.str "client"]
      = some (.tagged "off" (.map [(.str "timeout", .str "2s")])) ∧
    badgeResult.at? [.str "client", .str "timeout"] = none := by
  have hbase := badgeSettings_wellFormed
  have hupper := badgeOverrides_wellFormed
  refine ⟨hbase, hupper, ?_, ?_, ?_, ?_, ?_⟩
  · obtain ⟨r, hr, -, hkeys⟩ :=
      (overlay_by_path hbase hupper [.str "ui", .str "badge"]).joined _ _ rfl rfl
    exact ⟨r, hr, hkeys.trans (by rfl)⟩
  · exact (overlay_by_path hbase hupper _).replaced _ rfl rfl
  · refine (overlay_by_path hbase hupper _).kept rfl ?_
    simp [cutShort_cons_iff, not_cutShort_nil, badgeOverrides, get?_cons, Tree.same, Tree.map?]
  · exact (overlay_by_path hbase hupper _).replaced _ rfl rfl
  · refine (overlay_by_path hbase hupper _).lost rfl (cutShort_cons_iff.mpr ?_)
    exact ⟨_, rfl, .inl ⟨rfl, by simp⟩⟩

end Mapping

end EndpointSync.Yaml
