import NativeBlock.Proofs.DecimalText
import NativeBlock.Proofs.DecimalColumn

/-!
# Counting decimal digits

Three loops take decimal digits off an unscaled integer by truncating division by ten: the digit
count (`FixedDecimal.digits`), writing a value (`FixedDecimal.textDigits`, which takes the first
digit even from zero) and widening (`FixedDecimal.peelDigits`, which takes digits while anything
is left). Truncating division keeps the sign, so a negative integer stays negative all along and
the least word of a width has no magnitude among the width's words; the loops are measured by
the magnitude as an integer, which division by ten divides by ten
(`natAbs_iterate_tdiv_ten`).

Each loop runs exactly as many times as the integer has decimal digits, one for zero, and the
digit count is that number (`digit_loops_count_digits`). The same theorem checks the table of
widest precisions: `10 ^ e` is a word of a width exactly when it is at most the width's largest
word, so `pow10?` answers exactly for those exponents.
-/

namespace NativeBlock

namespace Decimal

/-- The digit count of a number is the length of its decimal digits, and one for zero. -/
theorem digitCount_eq_max_length (n : Nat) : digitCount n = max 1 (Nat.digits 10 n).length := by
  induction n using Nat.strongRecOn with
  | ind n ih =>
    rw [digitCount]
    split
    · rename_i small
      rcases Nat.eq_zero_or_pos n with rfl | pos
      · rfl
      · rw [Nat.digits_of_lt 10 n pos.ne' small]
        rfl
    · rename_i large
      have rest : n / 10 ≠ 0 := by omega
      have split : Nat.digits 10 n = n % 10 :: Nat.digits 10 (n / 10) :=
        Nat.digits_def' (by decide) (by omega)
      have more : 0 < (Nat.digits 10 (n / 10)).length :=
        List.length_pos_of_ne_nil (Nat.digits_ne_nil_iff_ne_zero.mpr rest)
      rw [ih (n / 10) (by omega), split, List.length_cons]
      omega

theorem digitCount_eq_length {n : Nat} (nonzero : n ≠ 0) :
    digitCount n = (Nat.digits 10 n).length := by
  have some : 0 < (Nat.digits 10 n).length :=
    List.length_pos_of_ne_nil (Nat.digits_ne_nil_iff_ne_zero.mpr nonzero)
  rw [digitCount_eq_max_length]
  omega

/-- The last digit and then the digits of the rest: one more than the rest has. -/
theorem digitCount_eq_succ_length_div (n : Nat) :
    digitCount n = (Nat.digits 10 (n / 10)).length + 1 := by
  rw [digitCount]
  split
  · rename_i small
    rw [Nat.div_eq_of_lt small, Nat.digits_zero]
    rfl
  · rw [digitCount_eq_length (by omega)]

end Decimal

/-- `k` truncating divisions by ten leave the magnitude divided by `10 ^ k`, whatever the sign. -/
theorem natAbs_iterate_tdiv_ten (v : Int) (k : Nat) :
    ((fun r : Int => r.tdiv 10)^[k] v).natAbs = v.natAbs / 10 ^ k := by
  induction k with
  | zero => simp
  | succ k ih =>
    rw [Function.iterate_succ_apply', Int.natAbs_tdiv, ih]
    show v.natAbs / 10 ^ k / 10 = _
    rw [Nat.div_div_eq_div_mul, Nat.pow_succ]

theorem iterate_tdiv_ten_eq_zero_iff (v : Int) (k : Nat) :
    (fun r : Int => r.tdiv 10)^[k] v = 0 ↔ v.natAbs < 10 ^ k := by
  rw [← Int.natAbs_eq_zero, natAbs_iterate_tdiv_ten, Nat.div_eq_zero_iff]
  simp

namespace DecimalWidth

/-- The widest precision's power of ten is below the width's bound, so it is a word. -/
theorem pow_maxPrecision_lt_bound (w : DecimalWidth) : (10 : Int) ^ w.maxPrecision < w.bound := by
  cases w <;> decide

/-- A power of ten is a word of the width exactly when its exponent is at most the widest
precision. -/
theorem le_maxPrecision_iff (w : DecimalWidth) (e : Nat) :
    e ≤ w.maxPrecision ↔ (10 : Int) ^ e ≤ w.bound - 1 := by
  constructor
  · intro le
    have powers := pow_le_pow_right₀ (show (1 : Int) ≤ 10 by decide) le
    have below := pow_maxPrecision_lt_bound w
    omega
  · intro le
    by_contra past
    have powers := pow_le_pow_right₀ (show (1 : Int) ≤ 10 by decide)
      (show w.maxPrecision + 1 ≤ e by omega)
    have above := bound_lt_pow_succ_maxPrecision w
    omega

end DecimalWidth

namespace FixedDecimal

variable {w : DecimalWidth}

/-- `pow10?` gives `10 ^ e` exactly when it is at most the width's largest word. -/
theorem pow10?_eq (w : DecimalWidth) (e : Nat) :
    pow10? w e = if (10 : Int) ^ e ≤ w.bound - 1 then some (10 ^ e) else none := by
  unfold pow10?
  simp only [Int.pow_eq]
  exact if_congr (w.le_maxPrecision_iff e) rfl rfl

theorem digits_pos (d : FixedDecimal w) : 0 < d.digits := by
  rw [digits, Decimal.digitCount]
  split <;> omega

/-- Counting stops at the first truncating division by ten that leaves zero. -/
theorem iterate_digits_eq_zero (d : FixedDecimal w) :
    (fun r : Int => r.tdiv 10)^[d.digits] d.unscaled = 0 :=
  (iterate_tdiv_ten_eq_zero_iff _ _).mpr ((Decimal.digitCount_le_iff d.digits_pos).mp le_rfl)

theorem iterate_ne_zero_of_lt_digits (d : FixedDecimal w) {k : Nat} (pos : 0 < k)
    (fewer : k < d.digits) : (fun r : Int => r.tdiv 10)^[k] d.unscaled ≠ 0 := by
  intro zero
  have enough := (Decimal.digitCount_le_iff pos).mpr ((iterate_tdiv_ten_eq_zero_iff _ _).mp zero)
  rw [digits] at fewer
  omega

/-- Writing a value takes exactly as many digits as it counts. -/
theorem textDigits_length (d : FixedDecimal w) :
    ∃ ds, textDigits w d.unscaled = some ds ∧ ds.length = d.digits := by
  refine ⟨_, textDigits_eq d.fits, ?_⟩
  rw [List.length_cons, digits, Decimal.digitCount_eq_succ_length_div]

/-- Peeling while anything is left takes as many digits from a nonzero integer, none from zero. -/
theorem peelDigits_length (d : FixedDecimal w) :
    ∃ ds, peelDigits w d.unscaled = some ds ∧
      ds.length = if d.unscaled = 0 then 0 else d.digits := by
  refine ⟨_, peelDigits_eq_digits d.fits, ?_⟩
  split
  · rename_i zero
    rw [zero]
    rfl
  · rename_i nonzero
    rw [digits, Decimal.digitCount_eq_length (Int.natAbs_ne_zero.mpr nonzero)]

/-- The digit loops. For every width and every word of it, the least word included, the digit
count is the number of decimal digits of the magnitude, one for zero. Counting divides by ten,
truncating; after `k` divisions the magnitude is the magnitude divided by `10 ^ k`, so it falls at
every division, for a negative integer as well, and the count is the number of divisions that
leave zero, no fewer doing so. Writing the value peels exactly that many digits, and peeling while
anything is left, as widening does, peels as many from a nonzero integer and none from zero. A
power of ten is given exactly when it is at most the width's largest word. -/
theorem digit_loops_count_digits (w : DecimalWidth) :
    (∀ d : FixedDecimal w,
      d.digits = max 1 (Nat.digits 10 d.unscaled.natAbs).length ∧
      (∀ k, ((fun r : Int => r.tdiv 10)^[k] d.unscaled).natAbs = d.unscaled.natAbs / 10 ^ k) ∧
      (fun r : Int => r.tdiv 10)^[d.digits] d.unscaled = 0 ∧
      (∀ k, 0 < k → k < d.digits → (fun r : Int => r.tdiv 10)^[k] d.unscaled ≠ 0) ∧
      (∃ ds, textDigits w d.unscaled = some ds ∧ ds.length = d.digits) ∧
      (∃ ds, peelDigits w d.unscaled = some ds ∧
        ds.length = if d.unscaled = 0 then 0 else d.digits)) ∧
    ∀ e, pow10? w e = if (10 : Int) ^ e ≤ w.bound - 1 then some (10 ^ e) else none := by
  refine ⟨fun d => ⟨Decimal.digitCount_eq_max_length _, natAbs_iterate_tdiv_ten _,
    d.iterate_digits_eq_zero, fun _ pos fewer => d.iterate_ne_zero_of_lt_digits pos fewer,
    d.textDigits_length, d.peelDigits_length⟩, pow10?_eq w⟩

end FixedDecimal

end NativeBlock
