import EndpointSync.Cluster.Timestamp
import EndpointSync.Json

/-!
# Shapes of objects

An object of a known kind is read only if all of it has the types that its kind prescribes, also the
parts that nothing here looks at. Every field may be missing or null. Fields that the kind does not
know are ignored, so objects of newer versions still read.
-/

namespace EndpointSync.Cluster

/-- The type that a value must have. -/
inductive Shape where
  | text
  | flag
  /-- An integer within bounds. -/
  | integer (low high : Int)
  | integerOrText (low high : Int)
  | timestamp
  /-- Any value. -/
  | any
  | listOf (item : Shape)
  /-- An object whose fields all have one shape. -/
  | mapOf (value : Shape)
  /-- An object with known fields. -/
  | record (fields : List (String × Shape))

namespace Shape

def int32 : Shape := .integer (-2147483648) 2147483647

def int64 : Shape := .integer (-9223372036854775808) 9223372036854775807

def int32OrText : Shape := .integerOrText (-2147483648) 2147483647

/-- Fields that are all texts. -/
def texts (names : List String) : List (String × Shape) := names.map fun n ↦ (n, .text)

/-- The value is an integer within bounds. -/
def isWithin (low high : Int) : Json → Bool
  | .int n => low ≤ n && n ≤ high
  | _ => false

/-- An object has no field `name`, or its field holds null or satisfies `p`. -/
def fieldHas (j : Json) (name : String) (p : Json → Bool) : Bool := (j.present? name).all p

mutual
def fits : Shape → Json → Bool
  | .text, j => j.str?.isSome
  | .flag, j => j.bool?.isSome
  | .integer low high, j => isWithin low high j
  | .integerOrText low high, j => j.str?.isSome || isWithin low high j
  | .timestamp, j => j.str?.any Timestamp.isValid
  | .any, _ => true
  | .listOf s, j => match j with
    | .arr items => items.all s.fits
    | _ => false
  | .mapOf s, j => match j with
    | .obj fields => fields.all fun f ↦ s.fits f.2
    | _ => false
  | .record fields, j => j.isObj && fieldsFit fields j

/-- Every known field that is set has its shape. -/
def fieldsFit : List (String × Shape) → Json → Bool
  | [], _ => true
  | (name, s) :: rest, j => fieldHas j name s.fits && fieldsFit rest j
end

end Shape

end EndpointSync.Cluster
