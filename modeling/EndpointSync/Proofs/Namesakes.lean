import EndpointSync.Proofs.Equivalence
import EndpointSync.Proofs.Settings
import Mathlib.Data.List.Forall2
import Mathlib.Data.List.Induction

/-!
# Keys that name the same setting

A key with a tag is another key than the one without it, but both name the same setting. So a
template can have several values for one setting, and each of them is applied, in the order in which
they are written. What becomes of a part of an endpoint is decided by these values and by nothing
else in the template (`Part.read_applyTemplate_eq_foldl`). Where no key has a tag there is one value
at most, and this is `Part.read_applyTemplate`.

For most parts the last value of the right type wins. The mappings are different: there every
mapping counts, and each is overlaid on what the ones before it have left.
-/

namespace EndpointSync

open Yaml (Mapping Tree)

namespace Template

/-- The entries of a template that are about a setting, in written order. -/
def naming (t : Template) (setting : String) : List (Tree × Tree) :=
  t.filter fun entry ↦ entry.1.str? = some setting

/-- What a template says about a setting, in written order. -/
def valuesOf (t : Template) (setting : String) : List Tree := (t.naming setting).map Prod.snd

variable {t : Template} {setting : String}

theorem mem_naming {entry : Tree × Tree} :
    entry ∈ t.naming setting ↔ entry ∈ t ∧ entry.1.str? = some setting := by
  rw [naming, List.mem_filter, decide_eq_true_iff]

theorem valuesOf_cons_self {key : Tree} (h : key.str? = some setting) (value : Tree)
    (rest : Template) :
    valuesOf ((key, value) :: rest) setting = value :: valuesOf rest setting := by
  rw [valuesOf, naming, List.filter_cons_of_pos (by simpa using h)]
  rfl

theorem valuesOf_cons_of_ne {key : Tree} (h : key.str? ≠ some setting) (value : Tree)
    (rest : Template) : valuesOf ((key, value) :: rest) setting = valuesOf rest setting := by
  rw [valuesOf, naming, List.filter_cons_of_neg (by simpa using h)]
  rfl

theorem wellFormed_of_mem_valuesOf (ht : Mapping.WellFormed t) {v : Tree}
    (hv : v ∈ t.valuesOf setting) : v.WellFormed := by
  obtain ⟨entry, hentry, rfl⟩ := List.mem_map.mp hv
  exact ((Mapping.wellFormed_iff.mp ht).2 entry (mem_naming.mp hentry).1).2

end Template

namespace Endpoint

open Template (valuesOf valuesOf_cons_self valuesOf_cons_of_ne)

/-- **What a template makes of a part** is what all values do to it that the template has for its
setting, in written order. -/
theorem Part.read_applyTemplate_eq_foldl {α : Type} (part : Part α) (e : Endpoint)
    (t : Template) : part.read (e.applyTemplate t)
      = (t.valuesOf part.setting).foldl part.update (part.read e) := by
  induction t generalizing e with
  | nil => rfl
  | cons entry rest ih =>
    obtain ⟨key, value⟩ := entry
    have happly : e.applyTemplate ((key, value) :: rest)
        = (e.setEntry (key, value)).applyTemplate rest := rfl
    rw [happly, ih]
    by_cases hkey : key.str? = some part.setting
    · have hset : part.read (e.setEntry (key, value)) = part.update (part.read e) value := by
        rw [setEntry, hkey]
        exact part.read_set e value
      rw [valuesOf_cons_self hkey, List.foldl_cons, hset]
    · have hkept : part.read (e.setEntry (key, value)) = part.read e := by
        rw [setEntry]
        split
        next other hother => exact part.read_set_of_ne e value fun h ↦ hkey (h ▸ hother)
        · rfl
      rw [valuesOf_cons_of_ne hkey, hkept]

theorem foldl_getD {α : Type} (f : Tree → Option α) (values : List Tree) (old : α) :
    values.foldl (fun old value ↦ (f value).getD old) old
      = (values.filterMap f).getLast?.getD old := by
  induction values using List.reverseRecOn with
  | nil => rfl
  | append_singleton values value ih =>
    rw [List.foldl_append, List.foldl_cons, List.foldl_nil, ih, List.filterMap_append]
    cases hvalue : f value with
    | none => simp [hvalue]
    | some a => simp [hvalue]

/-! ## Settings in the order of their names -/

theorem Sorted.lookup_eq_none {x : String × Tree} {rest : List (String × Tree)}
    (h : Sorted (x :: rest)) {name : String} (hname : name ≤ x.1) : rest.lookup name = none := by
  rw [List.lookup_eq_none_iff]
  intro y hy
  have hlater : x.1 < y.1 := (List.pairwise_cons.mp h).1 y hy
  exact bne_iff_ne.mpr (lt_of_le_of_lt hname hlater).ne

/-- Where the name that comes first on the one side stands on the other side too, that side does not
begin with a later one. -/
theorem Sorted.not_lt_of_lookup {x : String × Tree} {ys : List (String × Tree)} {name : String}
    (hys : Sorted (x :: ys)) (h : List.lookup name (x :: ys) ≠ none) : ¬name < x.1 := by
  intro hlt
  refine h ?_
  rw [lookup_cons_eq, if_neg hlt.ne, hys.lookup_eq_none hlt.le]

/-- **Settings that are related name by name are related one by one**, since their order leaves
nothing open. -/
theorem Sorted.forall₂_of_lookup {R : Tree → Tree → Prop} {xs ys : List (String × Tree)}
    (hxs : Sorted xs) (hys : Sorted ys)
    (h : ∀ name, Option.Rel R (xs.lookup name) (ys.lookup name)) :
    List.Forall₂ (fun x y ↦ x.1 = y.1 ∧ R x.2 y.2) xs ys := by
  induction xs generalizing ys with
  | nil =>
    rcases ys with _ | ⟨⟨m, w⟩, ys⟩
    · exact .nil
    · have hfirst := h m
      rw [lookup_cons_eq, if_pos rfl, List.lookup_nil] at hfirst
      exact absurd hfirst (by rintro ⟨⟩)
  | cons x xs ih =>
    obtain ⟨n, v⟩ := x
    have hfirst := h n
    rw [lookup_cons_eq, if_pos rfl] at hfirst
    rcases ys with _ | ⟨⟨m, w⟩, ys⟩
    · exact absurd hfirst (by rintro ⟨⟩)
    · have hother := h m
      rw [lookup_cons_eq m m, if_pos rfl] at hother
      have hnm : n = m := by
        refine le_antisymm (not_lt.mp ?_) (not_lt.mp ?_)
        · refine hxs.not_lt_of_lookup fun hnone ↦ ?_
          rw [hnone] at hother
          exact absurd hother (by rintro ⟨⟩)
        · refine hys.not_lt_of_lookup fun hnone ↦ ?_
          rw [hnone] at hfirst
          exact absurd hfirst (by rintro ⟨⟩)
      subst hnm
      have hvalue : R v w := by
        rw [lookup_cons_eq, if_pos rfl] at hfirst
        obtain hvalue | - := hfirst
        exact hvalue
      refine .cons ⟨rfl, hvalue⟩ (ih hxs.of_cons hys.of_cons fun name ↦ ?_)
      by_cases hname : name = n
      · rw [hxs.lookup_eq_none hname.le, hys.lookup_eq_none hname.le]
        exact .none
      · have hrest := h name
        rwa [lookup_cons_eq, lookup_cons_eq, if_neg hname, if_neg hname] at hrest

/-- Settings with the same values under the same names are equal. -/
theorem Sorted.eq_of_lookup {xs ys : List (String × Tree)} (hxs : Sorted xs) (hys : Sorted ys)
    (h : ∀ name, xs.lookup name = ys.lookup name) : xs = ys := by
  have hrelated := hxs.forall₂_of_lookup (R := Eq) hys fun name ↦ by
    rw [h name]
    rcases ys.lookup name with _ | v
    · exact .none
    · exact .some rfl
  have hequal : List.Forall₂ Eq xs ys := hrelated.imp fun x y hxy ↦ Prod.ext hxy.1 hxy.2
  rwa [List.forall₂_eq_eq_eq] at hequal

/-! ## Endpoints that agree -/

/-- Two endpoints agree in all settings that are known here. -/
structure Agree (a b : Endpoint) : Prop where
  name : a.name = b.name
  group : a.group = b.group
  url : a.url = b.url
  interval : a.interval = b.interval
  conditions : a.conditions = b.conditions
  dns : a.dns = b.dns
  client : a.client = b.client
  ui : a.ui = b.ui
  guarded : a.guarded = b.guarded

theorem Agree.eq {a b : Endpoint} (h : a.Agree b) (hextra : a.extra = b.extra) : a = b := by
  obtain ⟨⟩ := a
  obtain ⟨⟩ := b
  exact (mk.injEq ..).mpr ⟨h.name, h.group, h.url, h.interval, h.conditions, h.dns, h.client, h.ui,
    h.guarded, hextra⟩

end Endpoint

end EndpointSync
