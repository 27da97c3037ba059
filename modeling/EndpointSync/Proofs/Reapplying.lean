import EndpointSync.Proofs.Namesakes
import EndpointSync.Proofs.Stacks

/-!
# Templates that are applied twice

A template that is applied once more changes nothing. Most parts of an endpoint are replaced by what
the template says, and it says the same the second time. The mappings are overlaid, as often as the
template has a mapping for the setting, so for them it is a matter of stacks
(`Mapping.stack_stack`).

The template need not be a sensible one. Its keys need not be strings, its values may be of the
wrong type, and several of its keys may name one setting.
-/

namespace EndpointSync.Endpoint

open Yaml (Mapping Tree)

variable {e : Endpoint} {t : Template}

theorem Part.read_twice_of_replaced {α : Type} {part : Part α} {f : Tree → Option α}
    (hupdate : ∀ old value, part.update old value = (f value).getD old) (e : Endpoint)
    (t : Template) :
    part.read ((e.applyTemplate t).applyTemplate t) = part.read (e.applyTemplate t) := by
  have hreplaced : part.update = fun old value ↦ (f value).getD old :=
    funext₂ hupdate
  rw [part.read_applyTemplate_eq_foldl, part.read_applyTemplate_eq_foldl, hreplaced, foldl_getD,
    foldl_getD]
  rcases ((t.valuesOf part.setting).filterMap f).getLast? with _ | last <;> rfl

theorem foldl_overlaid (values : List Tree) (field : Mapping) :
    values.foldl overlaid field = Mapping.stack field (values.filterMap Tree.map?) := by
  induction values generalizing field with
  | nil => rfl
  | cons value rest ih =>
    rw [List.foldl_cons, ih, overlaid]
    cases hvalue : value.map? with
    | none => rw [List.filterMap_cons_none hvalue]
    | some m => rw [List.filterMap_cons_some hvalue, Mapping.stack_cons]

theorem Part.read_twice_of_overlaid {part : Part Mapping} (hupdate : part.update = overlaid)
    (hwell : (part.read e).WellFormed) (ht : Mapping.WellFormed t) :
    part.read ((e.applyTemplate t).applyTemplate t) = part.read (e.applyTemplate t) := by
  rw [part.read_applyTemplate_eq_foldl, part.read_applyTemplate_eq_foldl, hupdate, foldl_overlaid,
    foldl_overlaid]
  refine Mapping.stack_stack hwell fun m hm ↦ ?_
  obtain ⟨value, hvalue, hmap⟩ := List.mem_filterMap.mp hm
  rw [Tree.map?_eq_some_iff.mp hmap] at hvalue
  exact Template.wellFormed_of_mem_valuesOf ht hvalue

theorem extra_twice (hsorted : Sorted e.extra) (t : Template) :
    ((e.applyTemplate t).applyTemplate t).extra = (e.applyTemplate t).extra := by
  have honce := sorted_applyTemplate hsorted t
  refine (sorted_applyTemplate honce t).eq_of_lookup honce fun name ↦ ?_
  by_cases hname : name ∈ settings
  · exact lookup_extra_of_mem hname _ t
  · exact (Part.other name hname).read_twice_of_replaced (f := fun value ↦ some (some value))
      (fun _ _ ↦ rfl) e t

theorem agree_twice (hwell : e.WellFormed) (ht : Mapping.WellFormed t) :
    ((e.applyTemplate t).applyTemplate t).Agree (e.applyTemplate t) where
  name := Part.name.read_twice_of_replaced (f := fun value ↦ value.str?.filter (· ≠ ""))
    (fun _ _ ↦ rfl) e t
  group := Part.group.read_twice_of_replaced (fun _ _ ↦ rfl) e t
  url := Part.url.read_twice_of_replaced (fun _ _ ↦ rfl) e t
  interval := Part.interval.read_twice_of_replaced (fun _ _ ↦ rfl) e t
  conditions := Part.conditions.read_twice_of_replaced (fun _ _ ↦ rfl) e t
  dns := Part.dns.read_twice_of_overlaid rfl hwell.dns ht
  client := Part.client.read_twice_of_overlaid rfl hwell.client ht
  ui := Part.ui.read_twice_of_overlaid rfl hwell.ui ht
  guarded := Part.guarded.read_twice_of_replaced (fun _ _ ↦ rfl) e t

/-- **A template that is applied twice counts once**, in all parts of the endpoint and with the
order of all keys. It is assumed that no mapping holds a key twice and that the other settings stand
in the order of their names, which is so of whatever was read or set. -/
theorem applyTemplate_applyTemplate (hwell : e.WellFormed) (hsorted : Sorted e.extra)
    (ht : Mapping.WellFormed t) : (e.applyTemplate t).applyTemplate t = e.applyTemplate t :=
  (agree_twice hwell ht).eq (extra_twice hsorted t)

/-! ### A template that contradicts itself -/

/-- An endpoint with a resolver of its own. -/
def resolvedEndpoint : Endpoint where
  name := "web"
  url := "1.1.1.1"
  interval := "1m"
  dns := [(.str "options", .map [(.str "retries", .int 2)]), (.str "query-name", .str "web")]
  extra := [("alerts", .seq [])]

/-- A template that says three things about name resolution. The second of them puts a scalar where
the other two have mappings. -/
def tangledSettings : Template :=
  [(.str "dns", .map [(.str "options", .map [(.str "timeout", .str "1s")])]),
    (.int 42, .str "no setting"),
    (.tagged "later" (.str "dns"), .map [(.str "options", .null), (.str "query-type", .str "A")]),
    (.str "interval", .int 30),
    (.tagged "last" (.str "dns"), .map [(.str "options", .map [(.str "port", .int 53)])]),
    (.str "alerts", .null),
    (.tagged "later" (.str "alerts"), .map [])]

/-- The mapping that is left is the one after the scalar, and its keys stay in their order. -/
theorem tangledSettings_twice : resolvedEndpoint.WellFormed ∧ Sorted resolvedEndpoint.extra ∧
    Mapping.WellFormed tangledSettings ∧
    (resolvedEndpoint.applyTemplate tangledSettings).dns
      = [(.str "options", .map [(.str "port", .int 53)]), (.str "query-name", .str "web"),
        (.str "query-type", .str "A")] ∧
    (resolvedEndpoint.applyTemplate tangledSettings).applyTemplate tangledSettings
      = resolvedEndpoint.applyTemplate tangledSettings := by
  have hwell : resolvedEndpoint.WellFormed := by
    constructor <;> simp [resolvedEndpoint, Tree.WellFormed, Tree.EntriesWellFormed,
      Tree.AllWellFormed, Mapping.Distinct, Tree.same]
  have hsorted : Sorted resolvedEndpoint.extra := List.pairwise_singleton _ _
  have ht : Mapping.WellFormed tangledSettings := by
    simp [tangledSettings, Mapping.wellFormed_iff, Tree.WellFormed, Tree.EntriesWellFormed,
      Mapping.Distinct, Tree.same]
  exact ⟨hwell, hsorted, ht, rfl, applyTemplate_applyTemplate hwell hsorted ht⟩

end EndpointSync.Endpoint
