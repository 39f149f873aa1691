import NativeBlock.Decimal.Shortest

/-!
# The binary64 value nearest a decimal

`Binary64.nearest negative digits exp` is the bit pattern of the binary64 value nearest
`± digits · 10^exp`, a tie going to the even significand, or `none` when the decimal lies beyond
the largest finite value. Everything is computed on naturals: the binary exponent is the floor
of the value's binary logarithm, settled by exact comparison, and the significand is the
quotient at that exponent, rounded.

A decimal below `10^-324` rounds to zero at once and one of at least `10^309` is out of range,
so no power is computed for an exponent far outside the binary64 range.
-/

namespace NativeBlock

namespace Binary64

/-- `⌊n / d⌋` rounded to the nearest natural, a tie going to the even one. -/
def roundDiv (n d : Nat) : Nat :=
  let q := n / d
  let r := n % d
  match compare (2 * r) d with
  | .lt => q
  | .gt => q + 1
  | .eq => if q % 2 = 0 then q else q + 1

/-- The floor of the binary logarithm of `n / d`, for positive `n` and `d`. -/
def floorLog2 (n d : Nat) : Int :=
  let k : Int := (n.log2 : Int) - d.log2
  -- `2^k` lies within a factor of two of `n / d`
  if n * Nat.pow 2 (-k).toNat < d * Nat.pow 2 k.toNat then k - 1 else k

/-- The bits of the binary64 value nearest `n / d`, for positive `n` and `d`: a significand of
53 bits at the value's binary exponent, or fewer below the normal range. -/
def nearestRatio (n d : Nat) : Option Nat :=
  let q := max (floorLog2 n d - 52) (-1074)
  let m := roundDiv (n * Nat.pow 2 (-q).toNat) (d * Nat.pow 2 q.toNat)
  -- rounding up may carry into a 54th bit
  let (m, q) := if m = Nat.pow 2 53 then (Nat.pow 2 52, q + 1) else (m, q)
  if 971 < q then none
  else if m < Nat.pow 2 52 then some m
  else some ((q + 1075).toNat * Nat.pow 2 52 + (m - Nat.pow 2 52))

/-- The number of decimal digits of `n`, at least one. -/
def digitCount (n : Nat) : Nat := (Nat.toDigits 10 n).length

/-- The bits of the binary64 value nearest `± digits · 10^exp`, if it is finite. -/
def nearest (negative : Bool) (digits : Nat) (exp : Int) : Option (BitVec 64) :=
  let sign : Nat := if negative then Nat.pow 2 63 else 0
  let magnitude : Option Nat :=
    if digits = 0 ∨ (digitCount digits : Int) + exp < -324 then some 0
    else if 309 < (digitCount digits : Int) + exp then none
    else nearestRatio (digits * Nat.pow 10 exp.toNat) (Nat.pow 10 (-exp).toNat)
  magnitude.map fun m => BitVec.ofNat 64 (sign + m)

end Binary64

end NativeBlock
