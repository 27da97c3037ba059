import EndpointSync.Decimal.Binary64

/-!
# JSON values

Cluster objects arrive as JSON. A number is an integer only if it is written without a fraction and
without an exponent and fits 64 bits, signed or unsigned; every other number is a double. The
distinction matters because a field that holds an integer refuses a double, even a whole one.

Objects keep their fields in written order and may repeat a name; looking a field up finds the last.
-/

namespace EndpointSync

/-- A JSON value. -/
inductive Json where
  | null
  | bool (b : Bool)
  | int (n : Int)
  | real (x : Binary64)
  | str (s : String)
  | arr (items : List Json)
  | obj (fields : List (String × Json))
deriving Inhabited

namespace Json

/-- The value of the last field called `name`. -/
def fieldOf? (fields : List (String × Json)) (name : String) : Option Json :=
  (fields.reverse.find? (·.1 == name)).map (·.2)

/-- The field `name` of an object; other values have no fields. -/
def field? (j : Json) (name : String) : Option Json :=
  match j with
  | .obj fields => fieldOf? fields name
  | _ => none

/-- The field `name`, where null counts as unset. -/
def present? (j : Json) (name : String) : Option Json :=
  match j.field? name with
  | some .null => none
  | found => found

def str? : Json → Option String
  | .str s => some s
  | _ => none

def bool? : Json → Option Bool
  | .bool b => some b
  | _ => none

def arr? : Json → Option (List Json)
  | .arr items => some items
  | _ => none

def isObj : Json → Bool
  | .obj _ => true
  | _ => false

theorem str?_eq_some_iff {j : Json} {s : String} : j.str? = some s ↔ j = .str s := by
  cases j <;> simp [str?]

theorem arr?_eq_some_iff {j : Json} {items : List Json} :
    j.arr? = some items ↔ j = .arr items := by
  cases j <;> simp [arr?]

theorem isObj_iff {j : Json} : j.isObj = true ↔ ∃ fields, j = .obj fields := by
  cases j <;> simp [isObj]

end Json

end EndpointSync
