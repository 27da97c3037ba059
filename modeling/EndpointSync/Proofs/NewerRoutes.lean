import EndpointSync.Rules.HttpRoute
import EndpointSync.Sync
import Mathlib.Data.List.Forall2

/-!
# Routes of newer versions

A newer version of the cluster may send routes with fields that nothing here knows, and leave out
or change some of those that nothing here reads. They can be anywhere: next to the specification, in
the specification and in each of the references. Two objects that differ in no other way are read as
the same route, and if one of them cannot be read, then neither can the other. So a controller does
the same with both.

What may differ is said by what may not (`Json.AgreeOn`): the fields of some names, as looking them
up finds them. Where a value is no object there are no fields to add, and it has to be the same. For
the references this goes on inside a list (`HttpRoute.Alike`, and the relations before it).
-/

namespace EndpointSync

namespace Json

/-- Two objects agree on the fields of some names, whatever their other fields are. -/
structure AgreeOn (names : List String) (j j' : Json) : Prop where
  isObj : j.isObj = true
  isObj' : j'.isObj = true
  field? : ∀ name ∈ names, j'.field? name = j.field? name

variable {names : List String} {name : String} {fields fields' : List (String × Json)}

theorem fieldOf?_filter (h : name ∈ names) (fields : List (String × Json)) :
    fieldOf? (fields.filter (·.1 ∈ names)) name = fieldOf? fields name := by
  rw [fieldOf?, fieldOf?, ← List.filter_reverse, List.find?_filter]
  refine congrArg (Option.map Prod.snd) (congrArg (List.find? · fields.reverse) (funext fun f ↦ ?_))
  by_cases hname : f.1 = name
  · simp [hname, h]
  · simp [hname]

/-- Objects agree on the fields of some names if nothing else is left of them without the rest. -/
theorem agreeOn_of_filter_eq
    (h : fields'.filter (·.1 ∈ names) = fields.filter (·.1 ∈ names)) :
    AgreeOn names (.obj fields) (.obj fields') where
  isObj := rfl
  isObj' := rfl
  field? name hname := by
    have hfields : fieldOf? fields' name = fieldOf? fields name := by
      rw [← fieldOf?_filter hname, h, fieldOf?_filter hname]
    exact hfields

theorem AgreeOn.exists_fields {j j' : Json} (h : AgreeOn names j j') : ∃ fields fields',
    j = .obj fields ∧ j' = .obj fields' ∧
      ∀ name ∈ names, fieldOf? fields' name = fieldOf? fields name := by
  obtain ⟨fields, rfl⟩ := isObj_iff.mp h.isObj
  obtain ⟨fields', rfl⟩ := isObj_iff.mp h.isObj'
  exact ⟨fields, fields', rfl, rfl, h.field?⟩

end Json

namespace Cluster

open Json (AgreeOn)

/-! ## Alike but for fields that are not read -/

/-- The fields of a reference that are read. -/
def ParentReference.names : List String :=
  ["group", "kind", "namespace", "name", "sectionName", "port"]

/-- Two references are alike: equal, or objects with the same in the fields that are read. -/
def ParentReference.Alike (j j' : Json) : Prop := j = j' ∨ AgreeOn names j j'

namespace HttpRoute

/-- Two fields for references are alike: equal, or lists with references that are alike one by
one. -/
inductive ReferencesAlike : Option Json → Option Json → Prop where
  | refl (j : Option Json) : ReferencesAlike j j
  | items {items items' : List Json} : List.Forall₂ ParentReference.Alike items items' →
      ReferencesAlike (some (.arr items)) (some (.arr items'))

/-- Two specifications are alike: equal, or objects with the same hostnames and references that are
alike. -/
def SpecAlike (j j' : Json) : Prop :=
  j = j' ∨ AgreeOn ["hostnames"] j j' ∧
    ReferencesAlike (j.field? "parentRefs") (j'.field? "parentRefs")

/-- Two objects are alike as routes: they have the same metadata and specifications that are alike,
or both have none. -/
structure Alike (j j' : Json) : Prop where
  metadata : AgreeOn ["metadata"] j j'
  spec : Option.Rel SpecAlike (j.field? "spec") (j'.field? "spec")

end HttpRoute

/-! ## What is read of them -/

theorem ParentReference.Alike.ofJson?_eq {j j' : Json} (h : Alike j j') :
    ofJson? j' = ofJson? j := by
  rcases h with rfl | hagree
  · rfl
  · obtain ⟨fields, fields', rfl, rfl, hfields⟩ := hagree.exists_fields
    rw [ofJson?, ofJson?, hfields "group" (by decide), hfields "kind" (by decide),
      hfields "namespace" (by decide), hfields "name" (by decide),
      hfields "sectionName" (by decide), hfields "port" (by decide)]

private theorem mapM_congr_of_forall₂ {α β : Type} {read : α → Option β} {xs ys : List α}
    (h : List.Forall₂ (fun x y ↦ read y = read x) xs ys) : ys.mapM read = xs.mapM read := by
  induction h with
  | nil => rfl
  | cons hhead _ ih => rw [List.mapM_cons, List.mapM_cons, hhead, ih]

namespace HttpRoute

private theorem ReferencesAlike.optionalList?_eq {j j' : Option Json} (h : ReferencesAlike j j') :
    optionalList? ParentReference.ofJson? j' = optionalList? ParentReference.ofJson? j := by
  cases h with
  | refl => rfl
  | items hitems =>
    have hread := mapM_congr_of_forall₂ (hitems.imp fun _ _ h ↦ h.ofJson?_eq)
    rw [optionalList?, optionalList?, hread]

theorem SpecAlike.ofSpec?_eq {j j' : Json} (h : SpecAlike j j') (metadata : Metadata) :
    ofSpec? metadata j' = ofSpec? metadata j := by
  rcases h with rfl | ⟨hagree, hreferences⟩
  · rfl
  · rw [ofSpec?, ofSpec?, hagree.isObj, hagree.isObj', hreferences.optionalList?_eq,
      hagree.field? "hostnames" List.mem_cons_self]

private theorem Alike.bind_ofSpec?_eq {j j' : Json} (h : Alike j j') (metadata : Metadata) :
    (j'.field? "spec").bind (ofSpec? metadata) = (j.field? "spec").bind (ofSpec? metadata) := by
  have hspec := h.spec
  generalize j.field? "spec" = spec at hspec ⊢
  generalize j'.field? "spec" = spec' at hspec ⊢
  cases hspec with
  | none => rfl
  | some halike => exact halike.ofSpec?_eq metadata

theorem Alike.ofJson?_eq {j j' : Json} (h : Alike j j') : ofJson? j' = ofJson? j := by
  have hmetadata := h.metadata.field? "metadata" List.mem_cons_self
  have hspec := h.spec
  obtain ⟨fields, fields', rfl, rfl, -⟩ := h.metadata.exists_fields
  rw [ofJson?.eq_def, ofJson?.eq_def]
  simp only [hmetadata]
  generalize (Json.obj fields).field? "spec" = spec at hspec ⊢
  generalize (Json.obj fields').field? "spec" = spec' at hspec ⊢
  cases hspec with
  | none => rfl
  | some halike =>
    simp only [Option.bind_eq_bind, Option.bind_some, halike.ofSpec?_eq]

end HttpRoute

namespace Object

/-- The metadata that an object is read with. -/
def metadataOf? (j : Json) : Option Metadata :=
  match j.field? "metadata" with
  | none => some {}
  | some m => Metadata.ofJson? m

/-- An object is read if its metadata are, and it is kept as it came. -/
theorem ofJson?_cases {j : Json} (h : j.isObj = true) :
    (ofJson? j = none ∧ metadataOf? j = none) ∨
      ∃ o, ofJson? j = some o ∧ metadataOf? j = some o.metadata ∧ o.data = j := by
  rw [ofJson?, metadataOf?, h]
  cases j.field? "metadata" with
  | none => exact .inr ⟨_, rfl, rfl, rfl⟩
  | some m =>
    cases hread : Metadata.ofJson? m with
    | none => exact .inl ⟨by simp [hread], hread⟩
    | some metadata =>
      refine .inr ⟨⟨?typeName, metadata, j⟩, ?read, hread, rfl⟩
      case read =>
        dsimp only
        rw [hread]
        rfl

private theorem ofJson?_of_agreeOn {j j' : Json} (h : AgreeOn ["metadata"] j j') :
    (ofJson? j = none ∧ ofJson? j' = none) ∨
      ∃ o o', ofJson? j = some o ∧ ofJson? j' = some o' ∧
        o'.metadata = o.metadata ∧ o.data = j ∧ o'.data = j' := by
  have hsame : metadataOf? j' = metadataOf? j := by
    rw [metadataOf?, metadataOf?, h.field? "metadata" List.mem_cons_self]
  rcases ofJson?_cases h.isObj with ⟨hnone, hmetadata⟩ | ⟨o, ho, hmetadata, hdata⟩
  · rcases ofJson?_cases h.isObj' with ⟨hnone', -⟩ | ⟨o', -, hmetadata', -⟩
    · exact .inl ⟨hnone, hnone'⟩
    · exact absurd (hmetadata'.symm.trans (hsame.trans hmetadata)) nofun
  · rcases ofJson?_cases h.isObj' with ⟨-, hmetadata'⟩ | ⟨o', ho', hmetadata', hdata'⟩
    · exact absurd (hmetadata.symm.trans (hsame.symm.trans hmetadata')) nofun
    · have hequal := Option.some.inj (hmetadata'.symm.trans (hsame.trans hmetadata))
      exact .inr ⟨o, o', ho, ho', hequal, hdata, hdata'⟩

end Object

end Cluster

/-! ## What is done with them -/

open Cluster (Change HttpRoute Object Server)

private theorem Controller.handle_congr_object {κ : Type} (c : Controller κ) {o o' : Object}
    (hread : c.rules.decode o' = c.rules.decode o) (hmetadata : o'.metadata = o.metadata)
    (s : Store) (w : Write) :
    c.handle s (.added o') w = c.handle s (.added o) w ∧
    c.handle s (.modified o') w = c.handle s (.modified o) w ∧
    c.handle s (.deleted o') w = c.handle s (.deleted o) w := by
  have hkey : c.key o' = c.key o := congrArg c.rules.keyOf hmetadata
  have hpresent : c.handlePresent s o' w = c.handlePresent s o w := by
    rw [handlePresent, handlePresent, hread, hkey]
  refine ⟨hpresent, hpresent, ?_⟩
  rw [handle, handle, hkey]

namespace Cluster.HttpRoute

/-- **Routes of newer versions are read alike.** Objects that are alike as routes are both read or
both not, and as the same route, with its hostnames and its references in their order. Then the
controller of the routes does the same when it is told of the one or of the other, so they have the
same endpoint. -/
theorem newer_routes_read_alike {j j' : Json} (h : Alike j j') :
    (Object.ofJson? j').bind ofObject? = (Object.ofJson? j).bind ofObject? ∧
    ofJson? j' = ofJson? j ∧
    (Object.ofJson? j').isSome = (Object.ofJson? j).isSome ∧
    ∀ o o', Object.ofJson? j = some o → Object.ofJson? j' = some o' →
      ∀ (config : Config) (server : Option Server) (s : Store) (w : Write),
        let c : Controller HttpRoute := ⟨Rules.HttpRoute.rules, config, server⟩
        c.handle s (.added o') w = c.handle s (.added o) w ∧
        c.handle s (.modified o') w = c.handle s (.modified o) w ∧
        c.handle s (.deleted o') w = c.handle s (.deleted o) w := by
  rcases Object.ofJson?_of_agreeOn h.metadata with
    ⟨hnone, hnone'⟩ | ⟨o, o', ho, ho', hmetadata, rfl, rfl⟩
  · refine ⟨by rw [hnone, hnone'], h.ofJson?_eq, by rw [hnone, hnone'], ?_⟩
    intro o o' ho
    exact absurd (hnone.symm.trans ho) nofun
  · have hread : ofObject? o' = ofObject? o := by
      rw [ofObject?, ofObject?, hmetadata, h.bind_ofSpec?_eq]
    refine ⟨by rw [ho, ho', Option.bind_some, Option.bind_some, hread], h.ofJson?_eq,
      by rw [ho, ho', Option.isSome_some, Option.isSome_some], ?_⟩
    intro o₁ o₁' ho₁ ho₁' config server s w
    obtain rfl := Option.some.inj (ho.symm.trans ho₁)
    obtain rfl := Option.some.inj (ho'.symm.trans ho₁')
    exact Controller.handle_congr_object _ hread hmetadata s w

/-! ### A route of a later version -/

/-- A route with a reference and a hostname. -/
def plainRoute : Json := .obj [
  ("metadata", .obj [("name", .str "api"), ("namespace", .str "apps")]),
  ("spec", .obj [
    ("parentRefs", .arr [.obj [("name", .str "edge")]]),
    ("hostnames", .arr [.str "api.example.com"])])]

/-- The route with more fields in all three places. -/
def laterRoute : Json := .obj [
  ("apiVersion", .str "gateway.networking.k8s.io/v2"),
  ("metadata", .obj [("name", .str "api"), ("namespace", .str "apps")]),
  ("spec", .obj [
    ("useDefaultGateways", .bool true),
    ("parentRefs", .arr [.obj [("name", .str "edge"), ("weight", .int 3)]]),
    ("hostnames", .arr [.str "api.example.com"])]),
  ("status", .null)]

/-- The later route is read with the hostname and the reference of the plain one. -/
theorem laterRoute_reads_alike : Alike plainRoute laterRoute ∧
    ((Object.ofJson? laterRoute).bind ofObject?).map (fun r ↦ (r.hostnames, r.parentRefs))
      = some (some ["api.example.com"], some [{ name := "edge" }]) := by
  have halike : Alike plainRoute laterRoute := by
    constructor
    · exact Json.agreeOn_of_filter_eq rfl
    · refine .some (.inr ⟨Json.agreeOn_of_filter_eq rfl, .items (.cons ?_ .nil)⟩)
      exact .inr (Json.agreeOn_of_filter_eq rfl)
  refine ⟨halike, ?_⟩
  rw [(newer_routes_read_alike halike).1]
  decide +kernel

end Cluster.HttpRoute

end EndpointSync
