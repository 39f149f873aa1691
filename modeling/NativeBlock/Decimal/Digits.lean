/-!
# Decimal digits of scaled integers

A decimal number is an integer `u` and a scale `s` standing for `u · 10⁻ˢ`. Its text is the
digits of `|u|`, padded with leading zeros to more than `s` digits, with a point before the last
`s` of them and a minus sign when `u` is negative. Trailing zeros of the scale are kept, so
`(12340, 4)` reads `1.2340`, and `(-5, 1)` reads `-0.5`.
-/

namespace NativeBlock.Decimal

/-- The number of decimal digits of `n`; zero has one. -/
def digitCount (n : Nat) : Nat :=
  if n < 10 then 1 else digitCount (n / 10) + 1
termination_by n
decreasing_by omega

/-- The decimal digits of `n`, most significant first. -/
def digitChars (n : Nat) : List Char :=
  if n < 10 then [Char.ofNat (48 + n)] else digitChars (n / 10) ++ [Char.ofNat (48 + n % 10)]
termination_by n
decreasing_by omega

/-- The text of `unscaled · 10⁻ˢᶜᵃˡᵉ`. -/
def render (unscaled : Int) (scale : Nat) : String :=
  let ds := digitChars unscaled.natAbs
  let ds := List.replicate (scale + 1 - ds.length) '0' ++ ds
  let intPart := ds.take (ds.length - scale)
  let fracPart := ds.drop (ds.length - scale)
  let sign := if unscaled < 0 then "-" else ""
  sign ++ String.ofList intPart ++ (if scale = 0 then "" else "." ++ String.ofList fracPart)

@[simp] theorem digitChars_length (n : Nat) : (digitChars n).length = digitCount n := by
  induction n using Nat.strongRecOn with
  | ind n ih =>
    rw [digitChars, digitCount]
    split
    · rfl
    · simp [ih (n / 10) (by omega)]

end NativeBlock.Decimal
