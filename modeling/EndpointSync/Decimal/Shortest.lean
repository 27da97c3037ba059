import EndpointSync.Decimal.Binary64

/-!
# The shortest decimal of a double

The digits written for a double are the fewest that read back as it, and of those the nearest to
it, a tie going to the even digit.

The decimals that read back form an interval around the double: half the distance to the next
double on either side, the ends included if the mantissa is even. On the grid of decimals with a
given number of digits only the two neighbours of the double need a look: if any grid point lies in
the interval, so does one of them. The first grid with a hit wins; seventeen digits always hit.
-/

namespace EndpointSync.Binary64

/-- The interval of numbers that round to `m · 2 ^ e`, in units of `2 ^ (e - 2)`. -/
structure Basin where
  low : Nat
  centre : Nat
  high : Nat
  closed : Bool

/-- The distance downwards is half as long just above a power of two. -/
def basin (m : Nat) (e : Int) : Basin where
  low := if m = hiddenBit && minExponent < e then 4 * m - 1 else 4 * m - 2
  centre := 4 * m
  high := 4 * m + 2
  closed := m % 2 = 0

/-- `d · den` lies in the basin, where the basin's unit is `num / (den · 10 ^ place)`. -/
def Basin.holds (b : Basin) (unit : Nat) (d : Nat) : Bool :=
  if b.closed then b.low * unit ≤ d && d ≤ b.high * unit
  else b.low * unit < d && d < b.high * unit

structure Decimal where
  digits : Nat
  exponent : Int
deriving DecidableEq, Repr, Inhabited

/-- The exponent of the leading decimal digit of `num / den`. -/
def leadingPlace (num den : Nat) : Int :=
  if den ≤ num then (digitCount (num / den) : Int) - 1
  else -(digitCount ((den + num - 1) / num - 1) : Int)

/-- The decimal with its last digit at `place` that reads back, if one does: the nearer of the two
neighbours, the even one if both are equally near. The double is `centre · num / den`. -/
def neighbour? (b : Basin) (num den : Nat) (place : Int) : Option Decimal :=
  -- Everything is brought to the common denominator `den · 10 ^ (-place)`.
  let up := if place < 0 then Nat.pow 10 (-place).toNat else 1
  let step := if 0 ≤ place then den * Nat.pow 10 place.toNat else den
  let unit := num * up
  let value := b.centre * unit
  let below := value / step
  let hitBelow := b.holds unit (below * step)
  let hitAbove := b.holds unit ((below + 1) * step)
  let twice := 2 * (value % step)
  let preferBelow := twice < step || (twice == step && below % 2 == 0)
  if hitBelow && (preferBelow || !hitAbove) then some ⟨below, place⟩
  else if hitAbove then some ⟨below + 1, place⟩
  else none

/-- Drops zeros at the end of the digits; `fuel` bounds their number. -/
def Decimal.strip : Nat → Decimal → Decimal
  | 0, d => d
  | fuel + 1, d =>
    if d.digits ≠ 0 && d.digits % 10 = 0 then strip fuel ⟨d.digits / 10, d.exponent + 1⟩ else d

/-- The shortest decimal that reads back as `m · 2 ^ e`, for a positive `m`. -/
def shortest (m : Nat) (e : Int) : Decimal :=
  let b := basin m e
  let num := if 2 ≤ e then 1 <<< (e - 2).toNat else 1
  let den := if 2 ≤ e then 1 else 1 <<< (2 - e).toNat
  let top := leadingPlace (b.centre * num) den
  let found := (List.range 17).findSome? fun (k : Nat) ↦
    neighbour? b num den (top - k)
  (found.getD ⟨m, 0⟩).strip 20

end EndpointSync.Binary64
