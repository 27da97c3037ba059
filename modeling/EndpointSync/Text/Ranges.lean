/-!
# Sets of characters given by ranges

Character properties are data of a standard, listed as pairs of the first and the last code point
of each run. The lists are short enough that a walk answers a query.
-/

namespace EndpointSync.Text

/-- Some range of `ranges` holds the code point of `c`; both ends belong to a range. -/
def covers (ranges : List (Nat × Nat)) (c : Char) : Bool :=
  ranges.any fun r ↦ r.1 ≤ c.toNat && c.toNat ≤ r.2

theorem covers_iff {ranges : List (Nat × Nat)} {c : Char} :
    covers ranges c = true ↔ ∃ r ∈ ranges, r.1 ≤ c.toNat ∧ c.toNat ≤ r.2 := by
  simp [covers]

end EndpointSync.Text
