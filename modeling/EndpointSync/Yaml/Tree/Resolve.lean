import EndpointSync.Yaml.Node.Link
import EndpointSync.Yaml.Node.Read
import EndpointSync.Yaml.Scalar
import EndpointSync.Yaml.Token.Scan

/-!
# From nodes to values

Aliases are expanded, scalars typed and colliding keys refused. The work is bounded twice: by the
nesting of collections, expanded ones included, which ends an alias that contains itself, and by
the number of aliases followed, which ends a text that doubles with every line.

A tag that starts with an exclamation mark is the document's own and stays on the value; the value
under it is read as if it had none. Of the other tags four demand a type of a scalar, and the rest
turn a scalar into a string and say nothing about a collection.
-/

namespace EndpointSync.Yaml

/-! ## Tags -/

def octets (s : String) : List UInt8 := s.toUTF8.toList

/-- A text without one exclamation mark at its start, if something is left then. -/
def unbanged (s : String) : String :=
  match s.toList with
  | '!' :: c :: rest => String.ofList (c :: rest)
  | _ => s

/-- The name of a tag of the document's own. -/
def localTag? (tag : List UInt8) : Option String :=
  if tag.head? == some bang then
    (String.fromUTF8? ⟨tag.toArray⟩).map fun s ↦ unbanged (unbanged s)
  else none

/-- The type that a tag demands of a scalar. -/
inductive Demand where
  | bool | int | float | null
deriving DecidableEq, Repr

/-- The demand of a tag. -/
def Demand.ofTag? (tag : List UInt8) : Option Demand :=
  if tag = octets "tag:yaml.org,2002:bool" then some .bool
  else if tag = octets "tag:yaml.org,2002:int" then some .int
  else if tag = octets "tag:yaml.org,2002:float" then some .float
  else if tag = octets "tag:yaml.org,2002:null" then some .null
  else none

/-- The scalar as a value of the demanded type, if it spells one. -/
def Demand.read? (cs : List Char) : Demand → Option Tree
  | .bool => (Scalar.bool? cs).map .bool
  | .int => ((Scalar.integer? cs).filter (Scalar.fits 64)).map .int
  | .float => (Scalar.float? cs).map .float
  | .null => if Scalar.isNullWord cs then some .null else none

/-- The value of a scalar. A tag of the document's own has been dealt with. -/
def Tree.ofScalar? (tag : Option (List UInt8)) (plain : Bool) (cs : List Char) : Option Tree :=
  match tag with
  | none => if plain then Tree.ofPlain? cs else some (.str (String.ofList cs))
  | some t =>
    if t.head? == some bang then
      if plain then Tree.ofPlain? cs else some (.str (String.ofList cs))
    else match Demand.ofTag? t with
      | some d => d.read? cs
      | none => some (.str (String.ofList cs))

/-! ## Values -/

/-- How many aliases may be followed for each unit of a document's size. -/
def aliasFactor : Nat := 100

/-- A computation that may follow so many aliases more. -/
abbrev Following : Type → Type := StateT Nat (Except Fault)

namespace Node

def props : LinkedNode → Properties
  | .alias _ => {}
  | .scalar p _ _ => p
  | .seq p _ => p
  | .map p _ => p

/-- The node itself, or the one that an alias stands for. -/
def follow (targets : Targets) : LinkedNode → Following LinkedNode
  | .alias number => do
    match ← get with
    | 0 => throw .tooManyAliases
    | left + 1 => set left
    match targets.find? number with
    | some n => pure n
    | none => throw .undefinedAlias
  | n => pure n

/-- Adds an entry to a mapping that is held in reverse. The value is computed only if its key is
new. -/
def addEntry (m : Mapping) (key : Tree) (value : Following Tree) : Following Mapping := do
  if m.contains key then throw .duplicateKey
  return (key, ← value) :: m

/-- The value of a node, where collections may nest `depth` deep. -/
def resolve (targets : Targets) : (depth : Nat) → LinkedNode → Following Tree
  | depth, n => do
    let n ← follow targets n
    let content : Following Tree := match n, depth with
      | .alias _, _ => throw .undefinedAlias
      | .scalar p text plain, _ =>
        match Tree.ofScalar? p.tag plain text with
        | some v => pure v
        | none => throw .badScalar
      | .seq .., 0 => throw .tooDeep
      | .map .., 0 => throw .tooDeep
      | .seq _ items, depth + 1 => return .seq (← items.mapM (resolve targets depth))
      | .map _ entries, depth + 1 => do
        let m ← entries.foldlM (fun m (k, v) ↦ do
          addEntry m (← resolve targets depth k) (resolve targets depth v)) []
        return .map m.reverse
    match n.props.tag.bind localTag? with
    | some tag => return .tagged tag (← content)
    | none => content

/-- The mapping that is the root of a document. The tag of a mapping does not count here. A document
that spells null is none; one that is only a tag is an empty mapping, unless the tag demands
null. -/
def rootMapping? (targets : Targets) (root : LinkedNode) : Following (Option Mapping) := do
  match root with
  | .scalar p text true =>
    match p.tag with
    | none => if text.isEmpty || Scalar.isNullWord text then return none else throw .notAMapping
    | some tag =>
      if Demand.ofTag? tag == some .null then
        if Scalar.isNullWord text then return none else throw .badScalar
      else if text.isEmpty then return some []
      else throw .notAMapping
  | .map p entries =>
    match ← resolve targets maxNesting (.map { p with tag := none } entries) with
    | .map entries => return some entries
    | _ => throw .notAMapping
  | _ => throw .notAMapping

end Node

/-- The mapping that a text holds, or none if it holds nothing or null. -/
def Mapping.parse (text : String) : Except Fault (Option Mapping) := do
  match ← Node.ofTokens? (← Token.scan text) with
  | none => return none
  | some root =>
    let (linked, targets, _) ← Node.link [] root
    (linked.rootMapping? targets).run' (aliasFactor * root.size)

end EndpointSync.Yaml
