import EndpointSync.Decimal.Shortest

/-!
# Numbers as YAML

A float is written with the fewest digits that read back. It always shows a point or an exponent,
so that it never reads as an integer, and it has an exponent only outside a middle range of
magnitudes.
-/

namespace EndpointSync.Yaml

/-- Where positional notation is used: for numbers below `10 ^ places` that need at most so many
digits before the point, and for those with fewer than `leadingZeros` zeros behind it. -/
structure FloatFormat where
  places : Nat
  leadingZeros : Nat
deriving DecidableEq, Repr

/-- Sixteen places before the point, and fewer than five zeros after it. -/
def floatFormat : FloatFormat := ⟨16, 5⟩

def decimalDigits (n : Nat) : List Char := Nat.toDigits 10 n

def integerText (n : Int) : List Char :=
  if n < 0 then '-' :: decimalDigits n.natAbs else decimalDigits n.natAbs

/-- A positive decimal. `point` is where the decimal point stands, counted from the first digit. -/
def decimalText (f : FloatFormat) (d : Binary64.Decimal) : List Char :=
  let ds := decimalDigits d.digits
  let point := ds.length + d.exponent
  let zeros (n : Int) := List.replicate n.toNat '0'
  if 0 ≤ d.exponent && point ≤ f.places then ds ++ zeros d.exponent ++ ['.', '0']
  else if 0 < point && point ≤ f.places then
    ds.take point.toNat ++ '.' :: ds.drop point.toNat
  else if -(f.leadingZeros : Int) < point && point ≤ 0 then ['0', '.'] ++ zeros (-point) ++ ds
  else
    let fraction := if ds.length = 1 then [] else '.' :: ds.drop 1
    ds.take 1 ++ fraction ++ 'e' :: integerText (point - 1)

def floatText : Binary64 → List Char
  | .nan => ['.', 'n', 'a', 'n']
  | .inf false => ['.', 'i', 'n', 'f']
  | .inf true => ['-', '.', 'i', 'n', 'f']
  | .finite negative m e =>
    let magnitude :=
      if m = 0 then ['0', '.', '0'] else decimalText floatFormat (Binary64.shortest m e)
    if negative then '-' :: magnitude else magnitude

end EndpointSync.Yaml
