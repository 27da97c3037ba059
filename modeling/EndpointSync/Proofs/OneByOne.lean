import EndpointSync.Proofs.Layers
import EndpointSync.Proofs.Namesakes
import EndpointSync.Proofs.OverlayLaws

/-!
# Templates merged first or applied one by one

The template of an object is merged into that of its parent, and what comes of it is applied once.
One would expect the same endpoint if the two were applied one after the other. This is so under two
conditions, and what is carried along without being known is left out of it.

The first condition is on the object's template: what it says about a setting must be of the right
type. A value of another type is ignored when it is applied, but in a merge it takes the place of
what the parent says, so that nothing is left of either.

The second condition is on the endpoint: its own mappings hold no mappings. Three mappings can be
overlaid in either order unless the middle one has a scalar where the outer two have mappings
(`overlay_assoc`), and then the lowest one has a mapping inside.
-/

namespace EndpointSync

open Yaml (Mapping Tree)

/-! ## Flat mappings -/

namespace Yaml.Mapping

/-- No value of the mapping is a mapping. -/
def Flat (m : Mapping) : Prop := ∀ e ∈ m, e.2.map? = none

instance (m : Mapping) : Decidable m.Flat :=
  inferInstanceAs (Decidable (∀ e ∈ m, e.2.map? = none))

private theorem Flat.get?_ne {m : Mapping} (h : m.Flat) (key : Tree) (n : Mapping) :
    m.get? key ≠ some (.map n) := by
  intro hn
  obtain ⟨e, hfound, hvalue⟩ := Option.map_eq_some_iff.mp hn
  have hend := h e (List.mem_of_find?_eq_some hfound)
  rw [hvalue] at hend
  exact absurd hend (by simp [Tree.map?])

/-- Unless two mappings are put over one another, the upper one of two values is all that shows. -/
theorem layered_eq_or {x y : Option Tree}
    (h : ∀ m n, ¬(x = some (.map m) ∧ y = some (.map n))) : layered x y = y.or x := by
  rcases cases_map? y with rfl | ⟨v, rfl, hv⟩ | ⟨n, rfl⟩
  · rfl
  · exact layered_of_map?_eq_none hv x
  · exact layered_map_of_forall_ne (fun m hm ↦ h m n ⟨hm, rfl⟩) n

private theorem Flat.not_interruptedAt {a b c : Mapping} (ha : a.Flat) (path : List Tree) :
    ¬InterruptedAt a b c path := by
  rintro ⟨⟨m, hm⟩, ⟨v, hv, hend⟩, -⟩
  rcases path with _ | ⟨key, rest⟩
  · rw [at?_nil, Option.some.injEq] at hv
    exact absurd (hv ▸ hend) (by simp [Tree.map?])
  · obtain ⟨n, hn⟩ := exists_map_of_at? hm
    exact ha.get?_ne key n hn

end Yaml.Mapping

/-! ## Templates that fit -/

namespace Template

/-- What the template says about the settings that are known here is of the right type. -/
structure Fits (t : Template) : Prop where
  /-- A name is not empty. -/
  name : ∀ v ∈ Mapping.get? t (.str "name"), (v.str?.filter (· ≠ "")).isSome = true
  group : ∀ v ∈ Mapping.get? t (.str "group"), v.str?.isSome = true
  url : ∀ v ∈ Mapping.get? t (.str "url"), v.str?.isSome = true
  interval : ∀ v ∈ Mapping.get? t (.str "interval"), v.str?.isSome = true
  conditions : ∀ v ∈ Mapping.get? t (.str "conditions"),
    (Endpoint.conditionsOf? v).isSome = true
  dns : ∀ v ∈ Mapping.get? t (.str "dns"), v.map?.isSome = true
  client : ∀ v ∈ Mapping.get? t (.str "client"), v.map?.isSome = true
  ui : ∀ v ∈ Mapping.get? t (.str "ui"), v.map?.isSome = true
  guarded : ∀ v ∈ Mapping.get? t (.str "guarded"), v.bool?.isSome = true

private theorem getD_merge (parent : Option Template) {own : Option Template}
    (hown : ∀ t ∈ own, Mapping.WellFormed t) :
    (merge parent own).getD [] = Mapping.overlay (parent.getD []) (own.getD []) := by
  rcases own with _ | above
  · rw [merge_absent, Option.getD_none, Mapping.overlay_nil]
  · rcases parent with _ | below
    · exact (Mapping.nil_overlay (hown above rfl)).symm
    · rfl

end Template

namespace Endpoint

variable {e : Endpoint} {parent own : Template}

/-! ## One part -/

/-- Settings of the right type that are no mappings replace what the parent says, in either way. -/
theorem Part.read_merged_of_replaced {α : Type} {part : Part α} {f : Tree → Option α}
    (hupdate : ∀ old value, part.update old value = (f value).getD old)
    (hscalar : ∀ v, (f v).isSome = true → v.map? = none)
    (hparent : Mapping.Distinct parent ∧ Mapping.Untagged parent)
    (hown : Mapping.Distinct own ∧ Mapping.Untagged own)
    (hfits : ∀ v ∈ Mapping.get? own (.str part.setting), (f v).isSome = true) :
    part.read (e.applyTemplate (Mapping.overlay parent own))
      = part.read ((e.applyTemplate parent).applyTemplate own) := by
  rw [part.read_applyTemplate (hparent.1.overlay own) (hparent.2.overlay hown.2),
    part.read_applyTemplate hown.1 hown.2, part.read_applyTemplate hparent.1 hparent.2,
    Mapping.get?_overlay_str parent hown.1]
  rcases hvalue : Mapping.get? own (.str part.setting) with _ | v
  · rfl
  · have hv := hfits v hvalue
    obtain ⟨a, ha⟩ := Option.isSome_iff_exists.mp hv
    rw [Mapping.layered_of_map?_eq_none (hscalar v hv), Option.elim_some, Option.elim_some, hupdate,
      hupdate, ha, Option.getD_some, Option.getD_some]

theorem Part.read_merged_of_overlaid {part : Part Mapping} (hupdate : part.update = overlaid)
    (hwell : (part.read e).WellFormed) (hflat : (part.read e).Flat)
    (hparent : Mapping.WellFormed parent ∧ Mapping.Untagged parent)
    (hown : Mapping.WellFormed own ∧ Mapping.Untagged own)
    (hfits : ∀ v ∈ Mapping.get? own (.str part.setting), v.map?.isSome = true) :
    part.read (e.applyTemplate (Mapping.overlay parent own))
      = part.read ((e.applyTemplate parent).applyTemplate own) := by
  have hparentOnce := (Mapping.wellFormed_iff.mp hparent.1).1
  have hownOnce := (Mapping.wellFormed_iff.mp hown.1).1
  rw [part.read_applyTemplate (hparentOnce.overlay own) (hparent.2.overlay hown.2),
    part.read_applyTemplate hownOnce hown.2, part.read_applyTemplate hparentOnce hparent.2,
    Mapping.get?_overlay_str parent hownOnce, hupdate]
  rcases Mapping.cases_map? (Mapping.get? own (.str part.setting)) with
    hown' | ⟨v, hown', hv⟩ | ⟨n, hown'⟩
  · rw [hown']
    rfl
  · rw [hown'] at hfits
    exact absurd (hfits v rfl) (by rw [hv]; simp)
  rw [hown']
  rcases Mapping.cases_map? (Mapping.get? parent (.str part.setting)) with
    hparent' | ⟨v, hparent', hv⟩ | ⟨m, hparent'⟩
  · rw [hparent', Mapping.layered_none]
    rfl
  · have hignored : overlaid (part.read e) v = part.read e := by rw [overlaid, hv]
    rw [hparent', Mapping.layered_map_of_forall_ne (Mapping.ne_map_of_map?_eq_none hv),
      Option.elim_some, Option.elim_some, Option.elim_some, hignored]
  · rw [hparent', Mapping.layered_map_map]
    exact (Mapping.overlay_assoc hwell (hparent.1.get? hparent') (hown.1.get? hown')
      hflat.not_interruptedAt).symm

/-! ## All parts -/

theorem map?_of_str? {v : Tree} (h : v.str?.isSome = true) : v.map? = none := by
  cases v with
  | map m => exact absurd h (by simp [Tree.str?])
  | _ => rfl

private theorem map?_of_conditionsOf? {v : Tree} (h : (conditionsOf? v).isSome = true) :
    v.map? = none := by
  cases v with
  | map m => exact absurd h (by simp [conditionsOf?])
  | _ => rfl

private theorem map?_of_bool? {v : Tree} (h : v.bool?.isSome = true) : v.map? = none := by
  cases v with
  | map m => exact absurd h (by simp [Tree.bool?])
  | _ => rfl

/-- The mappings of the endpoint are flat. -/
structure Flat (e : Endpoint) : Prop where
  dns : e.dns.Flat
  client : e.client.Flat
  ui : e.ui.Flat

private theorem agree_merged (hwell : e.WellFormed) (hflat : e.Flat)
    (hparent : Mapping.WellFormed parent ∧ Mapping.Untagged parent)
    (hown : Mapping.WellFormed own ∧ Mapping.Untagged own) (hfits : own.Fits) :
    (e.applyTemplate (Mapping.overlay parent own)).Agree
      ((e.applyTemplate parent).applyTemplate own) := by
  have hparentOnce := hparent.imp_left fun h ↦ (Mapping.wellFormed_iff.mp h).1
  have hownOnce := hown.imp_left fun h ↦ (Mapping.wellFormed_iff.mp h).1
  have htext : ∀ v : Tree, v.str?.isSome = true → v.map? = none := fun _ ↦ map?_of_str?
  have hname : ∀ v : Tree, (v.str?.filter (· ≠ "")).isSome = true → v.map? = none := by
    intro v hv
    exact map?_of_str? (Option.isSome_of_isSome_filter _ _ hv)
  exact {
    name := Part.name.read_merged_of_replaced (f := fun v ↦ v.str?.filter (· ≠ ""))
      (fun _ _ ↦ rfl) hname hparentOnce hownOnce hfits.name
    group := Part.group.read_merged_of_replaced (fun _ _ ↦ rfl) htext hparentOnce hownOnce
      hfits.group
    url := Part.url.read_merged_of_replaced (fun _ _ ↦ rfl) htext hparentOnce hownOnce hfits.url
    interval := Part.interval.read_merged_of_replaced (fun _ _ ↦ rfl) htext hparentOnce hownOnce
      hfits.interval
    conditions := Part.conditions.read_merged_of_replaced (fun _ _ ↦ rfl)
      (fun _ ↦ map?_of_conditionsOf?) hparentOnce hownOnce hfits.conditions
    dns := Part.dns.read_merged_of_overlaid rfl hwell.dns hflat.dns hparent hown hfits.dns
    client := Part.client.read_merged_of_overlaid rfl hwell.client hflat.client hparent hown
      hfits.client
    ui := Part.ui.read_merged_of_overlaid rfl hwell.ui hflat.ui hparent hown hfits.ui
    guarded := Part.guarded.read_merged_of_replaced (fun _ _ ↦ rfl) (fun _ ↦ map?_of_bool?)
      hparentOnce hownOnce hfits.guarded }

/-- What is carried along under a name is what the object's template says, else what the parent's
says, else what was there. Merging overlays mappings in addition. -/
theorem lookup_extra_merged (hparent : Mapping.Distinct parent ∧ Mapping.Untagged parent)
    (hown : Mapping.Distinct own ∧ Mapping.Untagged own) {name : String} (hname : name ∉ settings) :
    (e.applyTemplate (Mapping.overlay parent own)).extra.lookup name
        = (Mapping.layered (Mapping.get? parent (.str name)) (Mapping.get? own (.str name))).or
          (e.extra.lookup name) ∧
      ((e.applyTemplate parent).applyTemplate own).extra.lookup name
        = ((Mapping.get? own (.str name)).or (Mapping.get? parent (.str name))).or
          (e.extra.lookup name) := by
  have hread : ∀ (e : Endpoint) {t : Template}, Mapping.Distinct t → Mapping.Untagged t →
      (e.applyTemplate t).extra.lookup name
        = (Mapping.get? t (.str name)).or (e.extra.lookup name) := by
    intro e t hdistinct huntagged
    refine ((Part.other name hname).read_applyTemplate hdistinct huntagged e).trans ?_
    change (Mapping.get? t (.str name)).elim (e.extra.lookup name) some = _
    rcases Mapping.get? t (.str name) with _ | v <;> rfl
  constructor
  · rw [hread e (hparent.1.overlay own) (hparent.2.overlay hown.2),
      Mapping.get?_overlay_str parent hown.1]
  · rw [hread _ hown.1 hown.2, hread e hparent.1 hparent.2, Option.or_assoc]

/-- How an endpoint with two templates merged into one differs from the endpoint with one after the
other. -/
structure DiffersByMerge (merged applied : Endpoint) (parent own : String → Option Tree) :
    Prop where
  /-- All settings that are known here are the same. -/
  agree : merged.Agree applied
  /-- Mappings that both templates have for another setting are overlaid, or the upper one
  replaces the lower one. -/
  joined : ∀ {name m n}, name ∉ settings → parent name = some (.map m) → own name = some (.map n) →
    merged.extra.lookup name = some (.map (Mapping.overlay m n)) ∧
      applied.extra.lookup name = some (.map n)
  /-- Everything else is the same. -/
  same : ∀ {name}, (name ∉ settings → ∀ m n, ¬(parent name = some (.map m) ∧
    own name = some (.map n))) → merged.extra.lookup name = applied.extra.lookup name
  sorted : Sorted merged.extra ∧ Sorted applied.extra

private theorem differsByMerge (hwell : e.WellFormed) (hflat : e.Flat) (hsorted : Sorted e.extra)
    (hparent : Mapping.WellFormed parent ∧ Mapping.Untagged parent)
    (hown : Mapping.WellFormed own ∧ Mapping.Untagged own) (hfits : own.Fits) :
    DiffersByMerge (e.applyTemplate (Mapping.overlay parent own))
      ((e.applyTemplate parent).applyTemplate own)
      (fun name ↦ Mapping.get? parent (.str name)) (fun name ↦ Mapping.get? own (.str name)) := by
  have hparentOnce := hparent.imp_left fun h ↦ (Mapping.wellFormed_iff.mp h).1
  have hownOnce := hown.imp_left fun h ↦ (Mapping.wellFormed_iff.mp h).1
  refine ⟨agree_merged hwell hflat hparent hown hfits, ?_, ?_, ?_⟩
  · intro name m n hname hm hn
    obtain ⟨hmerged, happlied⟩ := lookup_extra_merged (e := e) hparentOnce hownOnce hname
    rw [hmerged, happlied, hm, hn, Mapping.layered_map_map]
    exact ⟨rfl, rfl⟩
  · intro name hother
    by_cases hname : name ∈ settings
    · rw [lookup_extra_of_mem hname, lookup_extra_of_mem hname, lookup_extra_of_mem hname]
    · obtain ⟨hmerged, happlied⟩ := lookup_extra_merged (e := e) hparentOnce hownOnce hname
      rw [hmerged, happlied, Mapping.layered_eq_or (hother hname)]
  · exact ⟨sorted_applyTemplate hsorted _,
      sorted_applyTemplate (sorted_applyTemplate hsorted _) _⟩

/-- **Merging two templates first is as good as applying them one by one**, if the mappings of the
endpoint are flat, no key of the templates has a tag, and what the object's template says about the
settings that are known here is of the right type. Among the other settings, mappings that both
templates have are overlaid in a merge and replaced otherwise, and there is no other difference. An
absent template changes nothing in either way. -/
theorem merged_agrees_with_one_by_one {parent own : Option Template} (hwell : e.WellFormed)
    (hflat : e.Flat) (hsorted : Sorted e.extra)
    (hparent : ∀ t ∈ parent, Mapping.WellFormed t ∧ Mapping.Untagged t)
    (hown : ∀ t ∈ own, Mapping.WellFormed t ∧ Mapping.Untagged t) (hfits : ∀ t ∈ own, t.Fits) :
    DiffersByMerge (e.applyTemplate ((Template.merge parent own).getD []))
      ((e.applyTemplate (parent.getD [])).applyTemplate (own.getD []))
      (fun name ↦ parent.bind (Mapping.get? · (.str name)))
      (fun name ↦ own.bind (Mapping.get? · (.str name))) := by
  have hget : ∀ (t : Option Template) (name : String),
      t.bind (Mapping.get? · (.str name)) = Mapping.get? (t.getD []) (.str name) := by
    intro t name
    rcases t with _ | t <;> rfl
  have hnone : Mapping.WellFormed [] ∧ Mapping.Untagged [] :=
    ⟨Mapping.wellFormed_nil, fun _ h ↦ absurd h List.not_mem_nil⟩
  have hempty : Template.Fits [] := by constructor <;> simp
  simp only [hget, Template.getD_merge parent fun t ht ↦ (hown t ht).1]
  refine differsByMerge hwell hflat hsorted ?_ ?_ ?_
  · rcases parent with _ | below
    · exact hnone
    · exact hparent below rfl
  · rcases own with _ | above
    · exact hnone
    · exact hown above rfl
  · rcases own with _ | above
    · exact hempty
    · exact hfits above rfl

/-! ### Two templates for a name that is resolved -/

/-- A check that a name resolves, as it is before its templates. -/
def nameCheck : Endpoint := Endpoint.probeName { name := "web", url := "", interval := "1m" } "web"

/-- What the parent says. Its URL is of the wrong type. -/
def resolverSettings : Template :=
  [(.str "dns", .map [(.str "query-type", .str "AAAA"),
      (.str "options", .map [(.str "retries", .int 2)])]),
    (.str "url", .int 7), (.str "headers", .map [(.str "A", .str "1")])]

/-- What the object says. -/
def resolverOverrides : Template :=
  [(.str "headers", .map [(.str "B", .str "2")]), (.str "url", .str "9.9.9.9"),
    (.str "dns", .map [(.str "options", .map [(.str "timeout", .str "1s")])])]

private theorem resolverOverrides_fits : Template.Fits resolverOverrides := by
  constructor <;> simp [resolverOverrides, Mapping.get?_cons, Tree.same, Tree.str?, Tree.map?]

/-- All settings are the same in both ways but the headers, which are overlaid or replaced. -/
theorem resolver_merged_or_one_by_one : nameCheck.WellFormed ∧ nameCheck.Flat ∧
    Sorted nameCheck.extra ∧
    (∀ t ∈ some resolverSettings, Mapping.WellFormed t ∧ Mapping.Untagged t) ∧
    (∀ t ∈ some resolverOverrides, Mapping.WellFormed t ∧ Mapping.Untagged t) ∧
    (∀ t ∈ some resolverOverrides, t.Fits) ∧
    (nameCheck.applyTemplate (Mapping.overlay resolverSettings resolverOverrides)).Agree
      ((nameCheck.applyTemplate resolverSettings).applyTemplate resolverOverrides) ∧
    (nameCheck.applyTemplate (Mapping.overlay resolverSettings resolverOverrides)).extra.lookup
        "headers" = some (.map [(.str "A", .str "1"), (.str "B", .str "2")]) ∧
    ((nameCheck.applyTemplate resolverSettings).applyTemplate resolverOverrides).extra.lookup
        "headers" = some (.map [(.str "B", .str "2")]) := by
  have hwell : nameCheck.WellFormed := by
    constructor <;> simp [nameCheck, probeName, Mapping.insert, Tree.same, Tree.WellFormed,
      Tree.EntriesWellFormed, Mapping.Distinct]
  have hflat : nameCheck.Flat := ⟨by decide, by decide, by decide⟩
  have hsorted : Sorted nameCheck.extra := List.Pairwise.nil
  have hparent : ∀ t ∈ some resolverSettings, Mapping.WellFormed t ∧ Mapping.Untagged t := by
    rintro t ⟨⟩
    refine ⟨?_, by decide⟩
    simp [resolverSettings, Mapping.wellFormed_iff, Tree.WellFormed, Tree.EntriesWellFormed,
      Mapping.Distinct, Tree.same]
  have hown : ∀ t ∈ some resolverOverrides, Mapping.WellFormed t ∧ Mapping.Untagged t := by
    rintro t ⟨⟩
    refine ⟨?_, by decide⟩
    simp [resolverOverrides, Mapping.wellFormed_iff, Tree.WellFormed, Tree.EntriesWellFormed,
      Mapping.Distinct, Tree.same]
  have hfits : ∀ t ∈ some resolverOverrides, t.Fits := by
    rintro t ⟨⟩
    exact resolverOverrides_fits
  have hways := merged_agrees_with_one_by_one hwell hflat hsorted hparent hown hfits
  have hheaders : "headers" ∉ settings := by decide
  obtain ⟨hmerged, happlied⟩ := hways.joined hheaders rfl rfl
  exact ⟨hwell, hflat, hsorted, hparent, hown, hfits, hways.agree, hmerged.trans rfl, happlied⟩

end Endpoint

end EndpointSync
