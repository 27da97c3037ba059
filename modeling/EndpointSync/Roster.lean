import EndpointSync.Endpoint
import EndpointSync.Yaml.Tree.Write

/-!
# The roster of endpoints

Every endpoint stands under the key of the object that it was derived from. The roster as a whole is
what gets written: one YAML document, with the endpoints in an order that depends only on what is in
the roster.
-/

namespace EndpointSync

open Yaml (Tree)

/-- Identifies the object that an endpoint was derived from. -/
structure Key where
  name : String
  namespaceName : String
  /-- The plural of the object's kind. -/
  resource : String
deriving DecidableEq, Repr, Inhabited

namespace Key

def display (k : Key) : String := k.name ++ "." ++ k.namespaceName ++ "." ++ k.resource

/-- Keys are ordered by name, then by namespace, then by resource. -/
def le (a b : Key) : Bool :=
  if a.name ≠ b.name then a.name < b.name
  else if a.namespaceName ≠ b.namespaceName then a.namespaceName < b.namespaceName
  else a.resource ≤ b.resource

end Key

/-- The endpoints by key. No key occurs twice. -/
abbrev Roster : Type := List (Key × Endpoint)

namespace Roster

def get? (r : Roster) (key : Key) : Option Endpoint := r.lookup key

def insert (r : Roster) (key : Key) (e : Endpoint) : Roster :=
  match r with
  | [] => [(key, e)]
  | (k, old) :: rest => if k = key then (k, e) :: rest else (k, old) :: insert rest key e

def erase (r : Roster) (key : Key) : Roster := r.filter fun entry ↦ entry.1 ≠ key

/-- Endpoints are written in the order of their names, and those of one name in the order of their
keys. -/
def entryLe (a b : Key × Endpoint) : Bool :=
  if a.2.name ≠ b.2.name then a.2.name < b.2.name else a.1.le b.1

/-- The endpoints in the order in which they are written. -/
def ordered (r : Roster) : List Endpoint := (r.mergeSort entryLe).map (·.2)

def document (r : Roster) : Tree :=
  .map [(.str "endpoints", .seq (r.ordered.map fun e ↦ .map e.toMapping))]

/-- The text of a roster, if every endpoint in it can be written. -/
def render? (r : Roster) : Option String := r.document.render?

end Roster

end EndpointSync
