import EndpointSync.Cluster.Object

/-!
# HTTP routes

A route attaches hostnames to gateways. Of its specification the parents and the hostnames are read;
everything else is ignored, so routes of newer versions still read.
-/

namespace EndpointSync.Cluster

/-- Names an object that a route attaches to. -/
structure ParentReference where
  group : Option String := none
  kind : Option String := none
  namespaceName : Option String := none
  name : String
  /-- A part of the parent. -/
  sectionName : Option String := none
  port : Option Nat := none
deriving DecidableEq, Repr

structure HttpRoute where
  metadata : Metadata := {}
  parentRefs : Option (List ParentReference) := none
  hostnames : Option (List String) := none
deriving Inhabited

namespace ParentReference

/-- The parent is a gateway, which it also is if it names no kind. -/
def isGateway (p : ParentReference) : Bool := p.kind.all (· == "Gateway")

/-- A text that may be missing or null. The outer option tells whether the type is right. -/
def optionalText? : Option Json → Option (Option String)
  | none => some none
  | some .null => some none
  | some (.str s) => some (some s)
  | _ => none

/-- A port number that may be missing or null. -/
def optionalPort? : Option Json → Option (Option Nat)
  | none => some none
  | some .null => some none
  | some (.int n) => if 0 ≤ n && n < 65536 then some (some n.toNat) else none
  | _ => none

/-- Puts a reference together from its fields. Only the name is required. -/
def ofFields? (group kind namespaceName name sectionName port : Option Json) :
    Option ParentReference := do
  some {
    group := ← optionalText? group
    kind := ← optionalText? kind
    namespaceName := ← optionalText? namespaceName
    name := ← name.bind Json.str?
    sectionName := ← optionalText? sectionName
    port := ← optionalPort? port }

/-- Reads a reference, written as an object or as the list of its fields in order. -/
def ofJson? : Json → Option ParentReference
  | .arr items =>
    if 6 < items.length then none
    else ofFields? items[0]? items[1]? items[2]? items[3]? items[4]? items[5]?
  | .obj fields =>
    let value := Json.fieldOf? fields
    ofFields? (value "group") (value "kind") (value "namespace") (value "name")
      (value "sectionName")
      (value "port")
  | _ => none

end ParentReference

namespace HttpRoute

/-- A list that may be missing or null, of items that all read. -/
def optionalList? {α : Type} (read : Json → Option α) (j : Option Json) :
    Option (Option (List α)) :=
  match j with
  | none => some none
  | some .null => some none
  | some (.arr items) => (items.mapM read).map some
  | _ => none

def ofSpec? (metadata : Metadata) (spec : Json) : Option HttpRoute := do
  if !spec.isObj then none
  let parentRefs ← optionalList? ParentReference.ofJson? (spec.field? "parentRefs")
  let hostnames ← optionalList? Json.str? (spec.field? "hostnames")
  some { metadata, parentRefs, hostnames }

/-- Reads a route from an object, whatever type the object claims. -/
def ofObject? (o : Object) : Option HttpRoute :=
  (o.data.field? "spec").bind (ofSpec? o.metadata)

/-- Reads a route that stands on its own, as an object or as the list of its two parts. -/
def ofJson? (j : Json) : Option HttpRoute := do
  let (metadata, spec) ← match j with
    | .arr [m, s] => some (m, s)
    | _ => do some (← j.field? "metadata", ← j.field? "spec")
  ofSpec? (← Metadata.ofJson? metadata) spec

def parents (r : HttpRoute) : List ParentReference := r.parentRefs.getD []

def firstHostname? (r : HttpRoute) : Option String := (r.hostnames.getD []).head?

end HttpRoute

end EndpointSync.Cluster
