import EndpointSync.Cluster.Shape
import EndpointSync.Template

/-!
# Objects of the cluster

What every object has in common: an API version and a kind, and metadata with a name, a namespace
and annotations. The rest is kept as it came, until the rules for its kind look at it.
-/

namespace EndpointSync.Cluster

/-- The metadata of an object, as far as it is used. -/
structure Metadata where
  name : Option String := none
  generateName : Option String := none
  namespaceName : Option String := none
  resourceVersion : Option String := none
  annotations : Annotations := []
deriving Inhabited

namespace Metadata

def shape : Shape := .record (
  Shape.texts ["name", "namespace", "generateName", "resourceVersion", "uid", "selfLink"] ++
  [("annotations", .mapOf .text), ("labels", .mapOf .text), ("finalizers", .listOf .text),
   ("generation", .int64), ("deletionGracePeriodSeconds", .int64),
   ("creationTimestamp", .timestamp), ("deletionTimestamp", .timestamp),
   ("ownerReferences", .listOf (.record (
      Shape.texts ["apiVersion", "kind", "name", "uid"] ++
      [("controller", .flag), ("blockOwnerDeletion", .flag)]))),
   ("managedFields", .listOf (.record (
      Shape.texts ["apiVersion", "fieldsType", "manager", "operation", "subresource"] ++
      [("time", .timestamp)])))])

/-- The text of a field that may be unset. -/
def textOf? (j : Json) (name : String) : Option String := (j.present? name).bind Json.str?

/-- The texts of an object by name; of a name that occurs twice the last counts. -/
def textsOf : Json → Annotations
  | .obj fields =>
    fields.foldr (fun f found ↦
      if (found.lookup f.1).isSome then found
      else (f.2.str?.map fun s ↦ (f.1, s)).toList ++ found) []
  | _ => []

def ofJson? (j : Json) : Option Metadata :=
  if shape.fits j then
    some {
      name := textOf? j "name"
      generateName := textOf? j "generateName"
      namespaceName := textOf? j "namespace"
      resourceVersion := textOf? j "resourceVersion"
      annotations := ((j.present? "annotations").map textsOf).getD [] }
  else none

/-- The name of an object: its own, else the one that names are generated from. -/
def anyName (m : Metadata) : String := (m.name.or m.generateName).getD ""

end Metadata

/-- The API version and the kind that an object claims. -/
structure TypeName where
  apiVersion : String
  kind : String
deriving DecidableEq, Repr

structure Object where
  /-- Known only if both parts of it are texts. -/
  typeName : Option TypeName := none
  metadata : Metadata := {}
  /-- The whole object as it came. -/
  data : Json := .obj []
deriving Inhabited

namespace Object

/-- Reads an object. Without metadata it has empty metadata, but null is no metadata. -/
def ofJson? (j : Json) : Option Object :=
  if !j.isObj then none
  else
    let typeName := match j.field? "apiVersion", j.field? "kind" with
      | some (.str v), some (.str k) => some ⟨v, k⟩
      | _, _ => none
    match j.field? "metadata" with
    | none => some { typeName, data := j }
    | some m => (Metadata.ofJson? m).map fun metadata ↦ { typeName, metadata, data := j }

/-- The claim of an object about its type, if it makes one, is this one. -/
def claims (o : Object) (apiVersion kind : String) : Bool :=
  o.typeName.all (· == ⟨apiVersion, kind⟩)

end Object

end EndpointSync.Cluster
