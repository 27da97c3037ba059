import EndpointSync.Proofs.Blocking
import EndpointSync.Proofs.ReadBack

/-!
# What every stored endpoint has

A template sets what it likes, and no endpoint is looked at once more before it is kept. So whatever
is to be true of all of them has to be true of what the kind of an object prescribes, and each
setting has to keep it. Two things are: an endpoint has a name, if its object has one, since no
setting takes it away; and no setting that is known here is carried along among the others, since it
is taken for what it is, with a tag or without.
-/

namespace EndpointSync

open Yaml (Mapping Tree)

namespace Endpoint

/-! ## What each setting keeps -/

private theorem name_set_ne_empty {e : Endpoint} (h : e.name ≠ "") (setting : String)
    (value : Tree) : (e.set setting value).name ≠ "" := by
  unfold set
  split
  case h_1 =>
    cases hname : value.str?.filter (· ≠ "") with
    | none => exact h
    | some name => exact of_decide_eq_true (Option.filter_eq_some_iff.mp hname).2
  all_goals exact h

private theorem name_applyTemplate_ne_empty {e : Endpoint} (h : e.name ≠ "") (t : Template) :
    (e.applyTemplate t).name ≠ "" :=
  applyTemplate_induction (P := fun e ↦ e.name ≠ "") h t fun x _ _ setting he ↦
    name_set_ne_empty he setting x.2

theorem tidy_iff {e : Endpoint} :
    e.Tidy ↔ Sorted e.extra ∧ ∀ setting ∈ settings, e.extra.lookup setting = none := by
  refine ⟨fun h ↦ ⟨h.sorted, fun setting hs ↦ h.lookup_eq_none hs⟩, fun h ↦ ⟨h.1, ?_⟩⟩
  intro x hx hknown
  exact bne_iff_ne.mp (List.lookup_eq_none_iff.mp (h.2 x.1 hknown) x hx) rfl

/-- Known settings do not end up among the others, whatever is set. -/
theorem Tidy.applyTemplate {e : Endpoint} (h : e.Tidy) (t : Template) :
    (e.applyTemplate t).Tidy := by
  obtain ⟨hsorted, hnone⟩ := tidy_iff.mp h
  refine tidy_iff.mpr ⟨sorted_applyTemplate hsorted t, fun setting hs ↦ ?_⟩
  rw [lookup_extra_of_mem hs, hnone setting hs]

end Endpoint

/-! ## What is settled -/

namespace Rules

variable {κ : Type} (r : Rules κ) (c : Config) (obj : κ) (url : String)

private theorem tidy_base (guarded : Bool) : (r.base c obj url guarded).Tidy := by
  have hextra := (r.base_keeps c obj url guarded).2.2
  exact ⟨hextra ▸ List.Pairwise.nil, hextra ▸ List.forall_mem_nil _⟩

private theorem tidy_endpointOf (t : Option Template) : (r.endpointOf c obj url t).Tidy :=
  (r.tidy_base c obj url _).applyTemplate _

private theorem name_endpointOf_ne_empty (h : (r.metadata obj).anyName ≠ "") (t : Option Template) :
    (r.endpointOf c obj url t).name ≠ "" := by
  refine Endpoint.name_applyTemplate_ne_empty ?_ _
  rwa [(r.base_keeps c obj url _).1]

end Rules

namespace Event

variable {e : Event} {ep : Endpoint}

theorem Settles.tidy (h : e.Settles (some ep)) : ep.Tidy := by
  cases h with
  | derived => exact e.kind.rules.tidy_endpointOf _ _ _ _

theorem Settles.name_ne_empty (h : e.Settles (some ep))
    (hnamed : ∀ o, e.change.present? = some o → o.metadata.anyName ≠ "") : ep.name ≠ "" := by
  cases h with
  | @derived obj url t hweighs =>
    obtain ⟨o, hpresent, hread⟩ := hweighs.shows
    refine e.kind.rules.name_endpointOf_ne_empty _ _ _ ?_ _
    rw [Kind.metadata_of_decode hread]
    exact hnamed o hpresent

/-! ## What is stored -/

/-- **What every stored endpoint has.** Whatever events of whatever controllers reach a store
without entries, if the objects that they are about have names, then so does every endpoint that is
stored in the end, whatever the templates say. None of them carries a known setting along among the
others, so no key occurs twice in what is written of it. -/
theorem stored_named_without_known_extras (disk : Disk) (history : List Happening)
    (events : List Event)
    (h : ∀ e ∈ events, ∀ o, e.change.present? = some o → o.metadata.anyName ≠ "") :
    ∀ x ∈ (replay { disk, history } events).roster, x.2.name ≠ "" ∧
      (∀ setting ∈ x.2.extra.map Prod.fst, setting ∉ Endpoint.settings) ∧
      Mapping.Distinct x.2.toMapping := by
  have hall : ∀ x ∈ (replay { disk, history } events).roster, x.2.name ≠ "" ∧ x.2.Tidy := by
    refine forall_stored (P := fun ep ↦ ep.name ≠ "" ∧ ep.Tidy) (by simp) fun e he ep hsettles ↦ ?_
    exact ⟨hsettles.name_ne_empty (h e he), hsettles.tidy⟩
  intro x hx
  obtain ⟨hname, htidy⟩ := hall x hx
  exact ⟨hname, List.forall_mem_map.mpr htidy.unknown, htidy.distinct_toMapping⟩

/-- A service whose template has tags on two settings, and a third one that is not known here. -/
def taggedAdded : Event :=
  serviceAdded "web" [("gatus.home-operations.com/endpoint",
    "!a group: edge\n!b name: ''\nalerts: none")]

/-- The tags are seen through, and the empty name does not count. -/
theorem taggedAdded_is_stored :
    ∃ x ∈ (replay {} [taggedAdded]).roster, x.2.name ≠ "" ∧
      (∀ setting ∈ x.2.extra.map Prod.fst, setting ∉ Endpoint.settings) ∧
      Mapping.Distinct x.2.toMapping ∧ x.2.name = "web" ∧ x.2.group = "edge" ∧
      x.2.extra.map Prod.fst = ["alerts"] := by
  have hstored : (Roster.settle [] taggedAdded.ruling).any (fun x ↦ x.2.name == "web" &&
      x.2.group == "edge" && x.2.extra.map Prod.fst == ["alerts"]) = true := by decide +kernel
  rw [← roster_replay_singleton {} taggedAdded] at hstored
  obtain ⟨x, hx, hsettings⟩ := List.any_eq_true.mp hstored
  simp only [Bool.and_eq_true, beq_iff_eq] at hsettings
  have hnamed : ∀ e ∈ [taggedAdded], ∀ o, e.change.present? = some o →
      o.metadata.anyName ≠ "" := by
    intro e he o hpresent
    rw [List.mem_singleton.mp he] at hpresent
    rw [← Option.some.inj hpresent]
    exact nofun
  obtain ⟨hname, hextra, hdistinct⟩ :=
    stored_named_without_known_extras {} [] [taggedAdded] hnamed x hx
  exact ⟨x, hx, hname, hextra, hdistinct, hsettings.1.1, hsettings.1.2, hsettings.2⟩

end Event

end EndpointSync
