import NativeBlock.Error

/-!
# Decimal storage widths

A `Decimal(P, S)` column stores its unscaled integer in 4, 8, 16 or 32 bytes; the precision
decides which: up to 9 digits in 4 bytes, up to 18 in 8, up to 38 in 16 and up to 76 in 32.
Each width also bounds the unscaled integers it holds, as a signed two's-complement word.
-/

namespace NativeBlock

inductive DecimalWidth where
  | d32
  | d64
  | d128
  | d256
  deriving DecidableEq, Repr, Inhabited

namespace DecimalWidth

def bytes : DecimalWidth → Nat
  | .d32 => 4
  | .d64 => 8
  | .d128 => 16
  | .d256 => 32

/-- The most decimal digits a column of this width may declare. -/
def maxPrecision : DecimalWidth → Nat
  | .d32 => 9
  | .d64 => 18
  | .d128 => 38
  | .d256 => 76

def name : DecimalWidth → String
  | .d32 => "D32"
  | .d64 => "D64"
  | .d128 => "D128"
  | .d256 => "D256"

/-- The storage width a precision implies; precisions outside `1..=76` have none. -/
def ofPrecision (precision : Nat) : Except Error DecimalWidth :=
  if precision = 0 then .error (.numericRange s!"decimal precision {precision} outside 1..=76")
  else if precision ≤ 9 then .ok .d32
  else if precision ≤ 18 then .ok .d64
  else if precision ≤ 38 then .ok .d128
  else if precision ≤ 76 then .ok .d256
  else .error (.numericRange s!"decimal precision {precision} outside 1..=76")

/-- Half the range of the width's signed words: values lie in `-bound ≤ v < bound`. -/
def bound (w : DecimalWidth) : Int := Int.pow 2 (8 * w.bytes - 1)

/-- Whether `v` is a signed word of this width. -/
def Fits (w : DecimalWidth) (v : Int) : Prop := -w.bound ≤ v ∧ v < w.bound

instance (w : DecimalWidth) (v : Int) : Decidable (w.Fits v) :=
  inferInstanceAs (Decidable (_ ∧ _))

/-- Zero is a word of every width. -/
theorem fits_zero (w : DecimalWidth) : w.Fits 0 := by
  cases w <;> decide

end DecimalWidth

end NativeBlock
