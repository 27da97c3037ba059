/-!
# Double-precision numbers

A double is kept as the number that it stands for, a mantissa times a power of two, and not as
machine bits: every operation on it is then exact arithmetic on naturals. All not-a-number
patterns are one value.

Reading a decimal rounds to the nearest double, a tie to the even mantissa. The quotient is taken
exactly, so no digit of the input is ever lost on the way.
-/

namespace EndpointSync

/-- A double-precision number: `finite n m e` is `m · 2 ^ e`, negated if `n`. -/
inductive Binary64 where
  | nan
  | inf (negative : Bool)
  | finite (negative : Bool) (mantissa : Nat) (exponent : Int)
deriving DecidableEq, Repr, Inhabited

namespace Binary64

/-- The smallest exponent: that of the subnormal numbers. -/
def minExponent : Int := -1074

/-- The largest exponent of a finite number. -/
def maxExponent : Int := 971

/-- The least mantissa of a normal number, the power of two with exponent 52. -/
def hiddenBit : Nat := 4503599627370496

/-- Two doubles are the same number: zeros of both signs are, and not-a-number is itself. -/
def same : Binary64 → Binary64 → Bool
  | .finite _ 0 _, .finite _ 0 _ => true
  | x, y => x == y

/-! ## Reading decimals -/

/-- The number of decimal digits of `n`, one for zero. -/
def digitCount (n : Nat) : Nat := (Nat.toDigits 10 n).length

/-- `num / den` rounded to the nearest natural, a tie to the even one. -/
def roundQuotient (num den : Nat) : Nat :=
  let q := num / den
  let twice := 2 * (num % den)
  if twice < den || (twice == den && q % 2 == 0) then q else q + 1

/-- `num / den / 2 ^ e` as a quotient of naturals. -/
def scaled (num den : Nat) (e : Int) : Nat × Nat :=
  if 0 ≤ e then (num, den <<< e.toNat) else (num <<< (-e).toNat, den)

/-- The exponent at which `num / den` has a 53-bit integer part, subnormal numbers apart. -/
def exponentOf (num den : Nat) : Int :=
  let guess : Int := (num.log2 : Int) - den.log2 - 52
  let ratio := scaled num den guess
  let e :=
    if 2 * hiddenBit ≤ ratio.1 / ratio.2 then guess + 1
    else if ratio.1 / ratio.2 < hiddenBit then guess - 1
    else guess
  max e minExponent

/-- The double nearest to `num / den`, with a sign. -/
def ofQuotient (negative : Bool) (num den : Nat) : Binary64 :=
  let e := exponentOf num den
  let ratio := scaled num den e
  let m := roundQuotient ratio.1 ratio.2
  let rounded := if m = 2 * hiddenBit then (hiddenBit, e + 1) else (m, e)
  if maxExponent < rounded.2 then .inf negative else .finite negative rounded.1 rounded.2

/-- The double nearest to `digits · 10 ^ exponent`. Numbers far outside the range are settled by
their order of magnitude, so an absurd exponent costs nothing. -/
def ofDecimal (negative : Bool) (digits : Nat) (exponent : Int) : Binary64 :=
  let magnitude := exponent + digitCount digits
  if digits = 0 || magnitude < -330 then .finite negative 0 minExponent
  else if 310 < magnitude then .inf negative
  else if 0 ≤ exponent then ofQuotient negative (digits * Nat.pow 10 exponent.toNat) 1
  else ofQuotient negative digits (Nat.pow 10 (-exponent).toNat)

end Binary64

end EndpointSync
