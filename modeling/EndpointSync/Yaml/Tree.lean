import EndpointSync.Decimal.Binary64

/-!
# YAML values

A value is what a document says once its aliases are expanded and its scalars typed. A mapping
keeps the order of its entries, because that order is written out again, but it does not count in
comparisons: two mappings are the same if they hold the same values under the same keys.

Sameness is coarser than equality in one more place: numbers compare as numbers, so zeros of both
signs are one number. It decides which keys collide and which updates change nothing.
-/

namespace EndpointSync.Yaml

/-- A YAML value. A tag is named without its exclamation mark. -/
inductive Tree where
  | null
  | bool (b : Bool)
  | int (n : Int)
  | float (x : Binary64)
  | str (s : String)
  | seq (items : List Tree)
  | map (entries : List (Tree × Tree))
  | tagged (tag : String) (value : Tree)
deriving Inhabited

/-- A mapping: its entries in written order. -/
abbrev Mapping : Type := List (Tree × Tree)

namespace Tree

/-! ## Sameness -/

mutual
/-- Two trees are the same value. -/
def same : Tree → Tree → Bool
  | .null, .null => true
  | .bool a, .bool b => a == b
  | .int m, .int n => m == n
  | .float x, .float y => x.same y
  | .str s, .str t => s == t
  | .seq xs, .seq ys => sameItems xs ys
  | .map es, .map fs => es.length == fs.length && sameEntries es fs
  | .tagged s v, .tagged t w => s == t && same v w
  | _, _ => false

/-- Two sequences are the same, item by item. -/
def sameItems : List Tree → List Tree → Bool
  | [], [] => true
  | x :: xs, y :: ys => same x y && sameItems xs ys
  | _, _ => false

/-- Every entry of the first mapping is in the second. -/
def sameEntries : List (Tree × Tree) → List (Tree × Tree) → Bool
  | [], _ => true
  | (k, v) :: es, fs => fs.any (fun f ↦ same k f.1 && same v f.2) && sameEntries es fs
end

/-! ## Views -/

/-- The text of a string, looked for through tags. -/
def str? : Tree → Option String
  | .str s => some s
  | .tagged _ v => v.str?
  | _ => none

/-- The truth value of a boolean that has no tag. -/
def bool? : Tree → Option Bool
  | .bool b => some b
  | _ => none

/-- The entries of a mapping that has no tag. -/
def map? : Tree → Option Mapping
  | .map entries => some entries
  | _ => none

end Tree

namespace Mapping

/-- Two mappings hold the same values under the same keys. -/
def same (m n : Mapping) : Bool := (Tree.map m).same (.map n)

def get? (m : Mapping) (key : Tree) : Option Tree :=
  (m.find? fun e ↦ e.1.same key).map (·.2)

def contains (m : Mapping) (key : Tree) : Bool := m.any fun e ↦ e.1.same key

/-- Sets the value under a key. A key in use keeps its place and its spelling; a new one goes to
the end. -/
def insert (m : Mapping) (key value : Tree) : Mapping :=
  match m with
  | [] => [(key, value)]
  | e :: rest => if e.1.same key then (e.1, value) :: rest else e :: insert rest key value

/-- No two keys collide. -/
def Distinct (m : Mapping) : Prop := m.Pairwise fun e f ↦ e.1.same f.1 = false

end Mapping

namespace Tree

mutual
/-- No mapping in the tree has two keys that collide. -/
def WellFormed : Tree → Prop
  | .seq items => AllWellFormed items
  | .map entries => Mapping.Distinct entries ∧ EntriesWellFormed entries
  | .tagged _ v => WellFormed v
  | _ => True

/-- Every item is well formed. -/
def AllWellFormed : List Tree → Prop
  | [] => True
  | v :: rest => WellFormed v ∧ AllWellFormed rest

/-- Every key and every value is well formed. -/
def EntriesWellFormed : List (Tree × Tree) → Prop
  | [] => True
  | (k, v) :: rest => WellFormed k ∧ WellFormed v ∧ EntriesWellFormed rest
end

end Tree

end EndpointSync.Yaml
