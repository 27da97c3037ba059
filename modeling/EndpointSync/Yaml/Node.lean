/-!
# Nodes of a YAML document

The document as written: anchors, aliases and tags are still in place, and no scalar has a type
yet. A tag is kept as the octets that its handle and suffix expand to.

What an alias refers to by is a parameter: a name in the document as written, a number once the
names are settled.
-/

namespace EndpointSync.Yaml

/-- What may stand before a node. -/
structure Properties where
  anchor : Option (List Char) := none
  tag : Option (List UInt8) := none
deriving DecidableEq, Repr, Inhabited

inductive Node (Ref : Type) where
  | alias (target : Ref)
  | scalar (props : Properties) (text : List Char) (plain : Bool)
  | seq (props : Properties) (items : List (Node Ref))
  | map (props : Properties) (entries : List (Node Ref × Node Ref))

/-- A node that refers to others by the names of their anchors. -/
abbrev NamedNode : Type := Node (List Char)

namespace Node

variable {Ref : Type}

/-- The node that stands where nothing is written. -/
def empty : Node Ref := .scalar {} [] true

mutual
/-- The size of a node: one for a scalar or an alias, and two for the ends of a collection besides
what is in it. Aliases may be followed in proportion to it. -/
def size : Node Ref → Nat
  | .alias _ => 1
  | .scalar .. => 1
  | .seq _ items => 2 + sizeItems items
  | .map _ entries => 2 + sizeEntries entries

/-- The sizes of the items of a sequence together. -/
def sizeItems : List (Node Ref) → Nat
  | [] => 0
  | n :: rest => n.size + sizeItems rest

/-- The sizes of the keys and values of a mapping together. -/
def sizeEntries : List (Node Ref × Node Ref) → Nat
  | [] => 0
  | (k, v) :: rest => k.size + v.size + sizeEntries rest
end

end Node

end EndpointSync.Yaml
