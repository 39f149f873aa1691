import NativeBlock.Decimal.Fixed

/-!
# Decimals with a 96-bit mantissa

The values of `Decimal32` and `Decimal64` columns: a signed mantissa of at most 96 bits and a
scale of at most 28. `Decimal96.ofInt` checks the scale first, then the mantissa from above, then
from below; its messages are the ones these values are known by. The text is that of any scaled
integer, trailing zeros of the scale included.
-/

namespace NativeBlock

/-- `mantissa · 10⁻ˢᶜᵃˡᵉ` with `|mantissa| < 2⁹⁶` and `scale ≤ 28`. -/
structure Decimal96 where
  mantissa : Int
  scale : Nat
  mantissa_lt : mantissa.natAbs < 79228162514264337593543950336
  scale_le : scale ≤ 28

namespace Decimal96

def maxScale : Nat := 28

/-- The largest mantissa, `2⁹⁶ - 1`. -/
def maxMantissa : Int := 79228162514264337593543950335

/-- The value `m · 10⁻ˢ`, or the reason it has no 96-bit form. -/
def ofInt (m : Int) (s : Nat) : Except String Decimal96 :=
  if hs : s ≤ 28 then
    if hm : m.natAbs < 79228162514264337593543950336 then .ok ⟨m, s, hm, hs⟩
    else if 0 < m then .error "Number exceeds maximum value that can be represented."
    else .error "Number less than minimum value that can be represented."
  else .error s!"Scale exceeds the maximum precision allowed: {s} > 28"

def render (d : Decimal96) : String := Decimal.render d.mantissa d.scale

instance : ToString Decimal96 := ⟨render⟩

/-- The same value as a 16-byte fixed decimal. -/
def toFixed (d : Decimal96) : FixedDecimal .d128 :=
  ⟨d.mantissa, d.scale, by
    have h := d.mantissa_lt
    have bound : DecimalWidth.d128.bound = 2 ^ 127 := rfl
    unfold DecimalWidth.Fits
    omega⟩

end Decimal96

/-- The value as a 96-bit decimal, when its unscaled integer and scale allow one. -/
def FixedDecimal.toDecimal96 (d : FixedDecimal .d128) : Except Error Decimal96 :=
  match Decimal96.ofInt d.unscaled d.scale with
  | .ok r => .ok r
  | .error reason =>
    let text := d.render
    .error (.numericRange s!"{text}: {reason}")

end NativeBlock
