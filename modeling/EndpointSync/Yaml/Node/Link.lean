import EndpointSync.Yaml.Fault
import EndpointSync.Yaml.Node

/-!
# Settling aliases

An anchor is numbered by how many distinct names were in use before it, and an alias refers to the
number that its name has at that place. A name that is declared again gets a new number, but the
count of names does not grow by it; the next new name therefore takes the same number once more. A
number stands for the last node, in document order, that got it, so an alias may refer to a node
further down, or to one that it is part of.
-/

namespace EndpointSync.Yaml

/-- A node that refers to others by number. -/
abbrev LinkedNode : Type := Node Nat

/-- The numbers of the anchors in use, by name. -/
abbrev Anchors : Type := List (List Char × Nat)

/-- The numbered nodes in document order. -/
abbrev Targets : Type := List (Nat × LinkedNode)

/-- The node that a number stands for. -/
def Targets.find? (targets : Targets) (number : Nat) : Option LinkedNode :=
  (targets.reverse.lookup number)

/-- Takes up the anchor of a node, if it has one, with its number. -/
def Anchors.declare (anchors : Anchors) (props : Properties) : Option Nat × Anchors :=
  match props.anchor with
  | none => (none, anchors)
  | some name =>
    (some anchors.length, (name, anchors.length) :: anchors.filter fun a ↦ a.1 ≠ name)

def Targets.single (number : Option Nat) (n : LinkedNode) : Targets :=
  number.toList.map fun i ↦ (i, n)

namespace Node

mutual
/-- Settles the aliases of a node, given the anchors before it. -/
def link (anchors : Anchors) : NamedNode → Except Fault (LinkedNode × Targets × Anchors)
  | .alias name =>
    match anchors.lookup name with
    | some number => .ok (.alias number, [], anchors)
    | none => .error .undefinedAlias
  | .scalar props text plain =>
    let (number, anchors) := anchors.declare props
    let n := .scalar props text plain
    .ok (n, .single number n, anchors)
  | .seq props items => do
    let (number, anchors) := anchors.declare props
    let (items, targets, anchors) ← linkItems anchors items
    let n := .seq props items
    .ok (n, Targets.single number n ++ targets, anchors)
  | .map props entries => do
    let (number, anchors) := anchors.declare props
    let (entries, targets, anchors) ← linkEntries anchors entries
    let n := .map props entries
    .ok (n, Targets.single number n ++ targets, anchors)

/-- Settles the aliases of the items of a sequence. -/
def linkItems (anchors : Anchors) :
    List NamedNode → Except Fault (List LinkedNode × Targets × Anchors)
  | [] => .ok ([], [], anchors)
  | n :: rest => do
    let (n, here, anchors) ← link anchors n
    let (rest, there, anchors) ← linkItems anchors rest
    .ok (n :: rest, here ++ there, anchors)

/-- Settles the aliases of the entries of a mapping, each key before its value. -/
def linkEntries (anchors : Anchors) :
    List (NamedNode × NamedNode) → Except Fault (List (LinkedNode × LinkedNode) × Targets × Anchors)
  | [] => .ok ([], [], anchors)
  | (k, v) :: rest => do
    let (k, inKey, anchors) ← link anchors k
    let (v, inValue, anchors) ← link anchors v
    let (rest, there, anchors) ← linkEntries anchors rest
    .ok ((k, v) :: rest, inKey ++ inValue ++ there, anchors)
end

end Node

end EndpointSync.Yaml
