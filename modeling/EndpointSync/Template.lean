import EndpointSync.Text.Blank
import EndpointSync.Yaml.Tree.Resolve

/-!
# Endpoint templates

A template is a YAML mapping of endpoint settings, kept in an annotation of a cluster object. An
object may inherit the template of its parent; the two are then overlaid, and the object's own
settings win wherever both say something.
-/

namespace EndpointSync

open Yaml (Mapping Tree)

/-- The annotations of a cluster object. No name occurs twice. -/
abbrev Annotations : Type := List (String × String)

namespace Yaml

/-! ## Overlaying -/

mutual
/-- `overlay base overrides` sets every entry of `overrides` in `base`. Where both hold a mapping
under a key, those are overlaid in turn; anything else, a sequence included, is replaced whole. -/
def Mapping.overlay (base : List (Tree × Tree)) : List (Tree × Tree) → List (Tree × Tree)
  | [] => base
  | (key, value) :: rest =>
    Mapping.overlay (Mapping.insert base key (Tree.over (Mapping.get? base key) value)) rest

/-- What stands where a value is set over what stood there before. -/
def Tree.over (before : Option Tree) : Tree → Tree
  | .map nested =>
    match before with
    | some (.map existing) => .map (Mapping.overlay existing nested)
    | _ => .map nested
  | value => value
end

end Yaml

abbrev Template : Type := Mapping

namespace Template

/-- Where a template was found. -/
inductive Scope where
  | parent | object
deriving DecidableEq, Repr

def Scope.name : Scope → String
  | .parent => "parent"
  | .object => "object"

/-- An annotation that holds no template. -/
structure Invalid where
  scope : Scope
  fault : Yaml.Fault
deriving DecidableEq, Repr

/-- The message for an invalid template, without its cause. -/
def Invalid.message (e : Invalid) : String := "invalid " ++ e.scope.name ++ " template"

/-- The template in the annotation `key`: none if the annotation is missing or blank, or if its
document is empty or null. -/
def read (scope : Scope) (annotations : Annotations) (key : String) :
    Except Invalid (Option Template) :=
  match annotations.lookup key with
  | none => .ok none
  | some text =>
    if Text.isBlankText text then .ok none
    else (Mapping.parse text).mapError fun fault ↦ ⟨scope, fault⟩

/-- The template of an object that may inherit one. If either is absent the other stands as it
is. -/
def merge : (parent object : Option Template) → Option Template
  | none, object => object
  | parent, none => parent
  | some parent, some object => some (Mapping.overlay parent object)

end Template

end EndpointSync
