import EndpointSync.Text.Digits
import EndpointSync.Yaml.Tree

/-!
# The types of scalars

What a plain scalar is follows from its spelling alone: null, boolean, integer, float, and a string
if nothing else fits. Few spellings count: there are three for each boolean, and `yes`, `inf` and
`nan` are strings. Digits after a leading zero are a string too, since readers disagree on their
base.

An integer has 64 bits, signed or not. One that needs up to 128 bits is recognised and refused; a
decimal one beyond that is read as a float.
-/

namespace EndpointSync.Yaml

namespace Scalar

open Text (natural?)

/-! ## Words -/

/-- The scalar spells null. Nothing at all also reads as null, but does not spell it. -/
def isNullWord (cs : List Char) : Bool :=
  ["~", "null", "Null", "NULL"].any fun w ↦ w.toList == cs

/-- The boolean that the scalar spells. -/
def bool? (cs : List Char) : Option Bool :=
  if ["true", "True", "TRUE"].any fun w ↦ w.toList == cs then some true
  else if ["false", "False", "FALSE"].any fun w ↦ w.toList == cs then some false
  else none

/-! ## Integers -/

/-- The scalar without one sign at its start. -/
def unsigned : List Char → List Char
  | '+' :: cs => cs
  | '-' :: cs => cs
  | cs => cs

/-- Digits after a leading zero. -/
def isZeroPadded (cs : List Char) : Bool :=
  match unsigned cs with
  | '0' :: c :: rest => (c :: rest).all Char.isDigit
  | _ => false

/-- The magnitude of an integer from behind its sign, in the base that it announces. -/
def magnitude? : List Char → Option Nat
  | '0' :: 'x' :: cs => natural? 16 cs
  | '0' :: 'o' :: cs => natural? 8 cs
  | '0' :: 'b' :: cs => natural? 2 cs
  | cs => natural? 10 cs

/-- The integer that the scalar spells, of whatever size. -/
def integer? (cs : List Char) : Option Int :=
  if isZeroPadded cs then none
  else match cs with
    | '-' :: cs => (magnitude? cs).map fun n ↦ -(n : Int)
    | '+' :: cs => (magnitude? cs).map Int.ofNat
    | cs => (magnitude? cs).map Int.ofNat

/-- The integer fits so many bits, signed or not. -/
def fits (bits : Nat) (n : Int) : Bool :=
  let bound : Int := (1 <<< bits : Nat)
  n < bound && -bound ≤ 2 * n

/-! ## Floats -/

/-- The exponent part of a float. -/
def exponent? : List Char → Option Int
  | [] => some 0
  | c :: cs =>
    if c == 'e' || c == 'E' then
      match cs with
      | '-' :: cs => (natural? 10 cs).map fun n ↦ -(n : Int)
      | '+' :: cs => (natural? 10 cs).map Int.ofNat
      | cs => (natural? 10 cs).map Int.ofNat
    else none

/-- A decimal number from behind its sign: digits on either side of a point that may be left out,
and an exponent. -/
def decimal? (negative : Bool) (cs : List Char) : Option Binary64 := do
  let whole := cs.takeWhile Char.isDigit
  let rest := cs.dropWhile Char.isDigit
  let (part, rest) := match rest with
    | '.' :: rest => (rest.takeWhile Char.isDigit, rest.dropWhile Char.isDigit)
    | _ => ([], rest)
  let digits ← natural? 10 (whole ++ part)
  let exponent ← exponent? rest
  some (.ofDecimal negative digits (exponent - part.length))

/-- The float that the scalar spells. A number too large for a double is none. -/
def float? (cs : List Char) : Option Binary64 :=
  let (negative, signed, body) : Bool × Bool × List Char := match cs with
    | '-' :: cs => (true, true, cs)
    | '+' :: cs => (false, true, cs)
    | cs => (false, false, cs)
  if [".inf", ".Inf", ".INF"].any fun w ↦ w.toList == body then some (.inf negative)
  else if !signed && [".nan", ".NaN", ".NAN"].any fun w ↦ w.toList == body then some .nan
  else match decimal? negative body with
    | some (.finite n m e) => some (.finite n m e)
    | _ => none

end Scalar

namespace Tree

/-- What a plain scalar without a tag is, or `none` if it is an integer of an unsupported size. -/
def ofPlain? (cs : List Char) : Option Tree :=
  if cs.isEmpty || Scalar.isNullWord cs then some .null
  else match Scalar.bool? cs with
    | some b => some (.bool b)
    | none =>
      match (Scalar.integer? cs).filter (Scalar.fits 128) with
      | some n => if Scalar.fits 64 n then some (.int n) else none
      | none =>
        match if Scalar.isZeroPadded cs then none else Scalar.float? cs with
        | some x => some (.float x)
        | none => some (.str (String.ofList cs))

/-- A text that would not read as itself when written plainly. -/
def needsQuotes (cs : List Char) : Bool :=
  Scalar.isZeroPadded cs ||
    match ofPlain? cs with
    | some (.str _) => false
    | _ => true

end Tree

end EndpointSync.Yaml
