import NativeBlock.Proofs.Values

/-!
# Rescaling a fixed decimal

`FixedDecimal.rescale` writes a value at another scale. It is exact: it gives `r` exactly when
`r` holds the same number at the new scale (`rescale_eq_ok_iff`), so growing the scale fails
when the integer leaves the width and shrinking it fails when a nonzero digit would be dropped.
One case departs from that: growing the scale by more digits than the width's widest precision
fails even for zero, whose integer is zero at every scale, because the power of ten to multiply
by is checked first and is itself no word of the width (`rescale_past_widest`). Shrinking has
no such gap: there zero is set apart before the power is needed.

Every failure is a numeric range error, and rescaling back after a rescale, when both succeed,
gives the value again (`rescale_exact`).
-/

namespace NativeBlock

namespace DecimalWidth

/-- The widest precision of a width fits its words: `10 ^ maxPrecision - 1 < bound`. -/
theorem pow_maxPrecision_le_bound (w : DecimalWidth) : (10 : Int) ^ w.maxPrecision ≤ w.bound := by
  cases w <;> decide

/-- The power of ten one digit past a width's widest precision is no word of it. -/
theorem bound_lt_pow_succ_maxPrecision (w : DecimalWidth) :
    w.bound < 10 ^ (w.maxPrecision + 1) := by
  cases w <;> decide

/-- A nonzero multiple of a power of ten past the widest precision is no word of the width. -/
theorem not_fits_mul_pow {w : DecimalWidth} {u : Int} {k : Nat} (nonzero : u ≠ 0)
    (past : w.maxPrecision < k) : ¬ w.Fits (u * 10 ^ k) := by
  rintro ⟨low, high⟩
  have powers : (10 : Int) ^ (w.maxPrecision + 1) ≤ 10 ^ k := by
    show ((10 ^ (w.maxPrecision + 1) : Nat) : Int) ≤ ((10 ^ k : Nat) : Int)
    exact Int.ofNat_le.mpr (Nat.pow_le_pow_right (by decide) past)
  have big := Int.lt_of_lt_of_le (bound_lt_pow_succ_maxPrecision w) powers
  have positive : (0 : Int) ≤ 10 ^ k := Int.le_of_lt (Int.pow_pos (by decide))
  -- The multiple is at least the power itself, on its side of zero.
  rcases Int.lt_or_gt_of_ne nonzero with negative | positive'
  · have below := Int.mul_le_mul_of_nonneg_right (show u ≤ -1 by omega) positive
    rw [Int.neg_one_mul] at below
    generalize u * 10 ^ k = m at *
    omega
  · have above := Int.mul_le_mul_of_nonneg_right (show 1 ≤ u by omega) positive
    rw [Int.one_mul] at above
    generalize u * 10 ^ k = m at *
    omega

end DecimalWidth

namespace FixedDecimal

variable {w : DecimalWidth}

theorem eq_of_unscaled_scale {a b : FixedDecimal w} (unscaled : a.unscaled = b.unscaled)
    (scale : a.scale = b.scale) : a = b := by
  cases a
  cases b
  cases unscaled
  cases scale
  rfl

theorem ofInt?_of_fits {u : Int} (fits : w.Fits u) (s : Nat) :
    ofInt? w u s = some ⟨u, s, fits⟩ :=
  dif_pos fits

/-- Growing the scale by more digits than the widest precision fails, whatever the value: the
power of ten to multiply by is no word of the width, and zero is not set apart. -/
theorem rescale_past_widest {d : FixedDecimal w} {s : Nat} (past : d.scale + w.maxPrecision < s) :
    ∃ e, d.rescale s = .error e := by
  have noPower : pow10? w (s - d.scale) = none := if_neg (by omega)
  unfold rescale
  simp only [Nat.ne_of_lt (by omega : d.scale < s), if_false, (by omega : d.scale < s), if_true,
    noPower]
  exact ⟨_, rfl⟩

theorem pow_ten_ne_zero (k : Nat) : (10 : Int) ^ k ≠ 0 :=
  Int.ne_of_gt (Int.pow_pos (by decide))

/-- At its own scale a value rescales to itself. -/
theorem rescale_of_same {d r : FixedDecimal w} (equal : d.scale = r.scale)
    (same : r.unscaled * 10 ^ d.scale = d.unscaled * 10 ^ r.scale) : d.rescale r.scale = .ok r := by
  rw [← equal] at same
  have unscaled := Int.eq_of_mul_eq_mul_right (pow_ten_ne_zero _) same
  unfold rescale
  rw [if_pos equal, eq_of_unscaled_scale unscaled.symm equal]

/-- Growing the scale multiplies by the power of ten between the scales; the product is the
value's integer at the finer scale, and the power is a word unless a zero is grown past the
widest precision. -/
theorem rescale_of_grow {d r : FixedDecimal w} (finer : d.scale < r.scale)
    (same : r.unscaled * 10 ^ d.scale = d.unscaled * 10 ^ r.scale)
    (notZeroPast : ¬(d.unscaled = 0 ∧ d.scale + w.maxPrecision < r.scale)) :
    d.rescale r.scale = .ok r := by
  obtain ⟨k, hk⟩ : ∃ k, r.scale = d.scale + k := ⟨r.scale - d.scale, by omega⟩
  have product : r.unscaled = d.unscaled * 10 ^ k := by
    rw [hk, Int.pow_add, Int.mul_comm ((10 : Int) ^ d.scale), ← Int.mul_assoc] at same
    exact Int.eq_of_mul_eq_mul_right (pow_ten_ne_zero _) same
  have within : k ≤ w.maxPrecision := by
    refine Nat.le_of_not_lt fun past => ?_
    have nonzero : d.unscaled ≠ 0 := fun zero => notZeroPast ⟨zero, by omega⟩
    exact DecimalWidth.not_fits_mul_pow nonzero past (product ▸ r.fits)
  have power : pow10? w (r.scale - d.scale) = some (10 ^ k) := by
    rw [hk, Nat.add_sub_cancel_left]
    exact if_pos within
  unfold rescale
  simp only [Nat.ne_of_lt finer, if_false, finer, if_true, power, ← product, ofInt?_of_fits r.fits]

/-- Shrinking the scale divides by the power of ten between the scales, which divides the
integer exactly; past the widest precision only zero is such a multiple. -/
theorem rescale_of_shrink {d r : FixedDecimal w} (coarser : r.scale < d.scale)
    (same : r.unscaled * 10 ^ d.scale = d.unscaled * 10 ^ r.scale) :
    d.rescale r.scale = .ok r := by
  obtain ⟨k, hk⟩ : ∃ k, d.scale = r.scale + k := ⟨d.scale - r.scale, by omega⟩
  have multiple : d.unscaled = r.unscaled * 10 ^ k := by
    rw [hk, Int.pow_add, Int.mul_comm ((10 : Int) ^ r.scale), ← Int.mul_assoc] at same
    exact (Int.eq_of_mul_eq_mul_right (pow_ten_ne_zero _) same).symm
  have notEqual : ¬d.scale = r.scale := by omega
  have notFiner : ¬d.scale < r.scale := by omega
  unfold rescale
  simp only [notEqual, if_false, notFiner]
  by_cases past : w.maxPrecision < k
  · -- Past the widest precision the only multiple that is a word is zero.
    have zero : r.unscaled = 0 := by
      refine Classical.byContradiction fun nonzero => ?_
      exact DecimalWidth.not_fits_mul_pow nonzero past (multiple ▸ d.fits)
    have noPower : pow10? w (d.scale - r.scale) = none := by
      rw [hk, Nat.add_sub_cancel_left]
      exact if_neg (Nat.not_le_of_lt past)
    rw [zero, Int.zero_mul] at multiple
    simp only [noPower, multiple, if_true]
    exact congrArg Except.ok (eq_of_unscaled_scale zero.symm rfl)
  · have power : pow10? w (d.scale - r.scale) = some (10 ^ k) := by
      rw [hk, Nat.add_sub_cancel_left]
      exact if_pos (Nat.le_of_not_lt past)
    simp only [power, multiple, Int.mul_tmod_left, ne_eq, not_true_eq_false, if_false,
      Int.mul_tdiv_cancel _ (pow_ten_ne_zero k), ofInt?_of_fits r.fits]

/-- Rescaling gives `r` exactly when `r` holds the same number at the new scale, except that
growing the scale of zero past the widest precision fails. -/
theorem rescale_eq_ok_iff {d r : FixedDecimal w} {s : Nat} :
    d.rescale s = .ok r ↔ r.scale = s ∧ r.unscaled * 10 ^ d.scale = d.unscaled * 10 ^ s ∧
      ¬(d.unscaled = 0 ∧ d.scale + w.maxPrecision < s) := by
  constructor
  · intro run
    obtain ⟨scale, same⟩ := rescale_eq_ok run
    refine ⟨scale, same, ?_⟩
    rintro ⟨-, past⟩
    obtain ⟨e, failed⟩ := rescale_past_widest past
    rw [failed] at run
    cases run
  · rintro ⟨rfl, same, notZeroPast⟩
    rcases Nat.lt_trichotomy d.scale r.scale with finer | equal | coarser
    · exact rescale_of_grow finer same notZeroPast
    · exact rescale_of_same equal same
    · exact rescale_of_shrink coarser same

/-- Every failure of rescaling is a numeric range error. -/
theorem rescale_error {d : FixedDecimal w} {s : Nat} {e : Error} (run : d.rescale s = .error e) :
    ∃ m, e = .numericRange m := by
  unfold rescale at run
  dsimp only at run
  repeat' split at run
  all_goals cases run
  all_goals exact ⟨_, rfl⟩

/-- Rescaling there and back, when both succeed, gives the value again. -/
theorem rescale_rescale {d r r' : FixedDecimal w} {s : Nat} (there : d.rescale s = .ok r)
    (back : r.rescale d.scale = .ok r') : r' = d := by
  obtain ⟨scale, same⟩ := rescale_eq_ok there
  obtain ⟨scale', same'⟩ := rescale_eq_ok back
  rw [scale, same] at same'
  exact eq_of_unscaled_scale (Int.eq_of_mul_eq_mul_right (pow_ten_ne_zero s) same') scale'

/-- Rescaling is exact: it gives `r` exactly when `r` holds the same number at the new scale,
except for a zero grown past the widest precision; it fails only with a numeric range error;
and rescaling back after a rescale, when both succeed, gives the value again. -/
theorem rescale_exact (d : FixedDecimal w) (s : Nat) :
    (∀ r, d.rescale s = .ok r ↔ r.scale = s ∧ r.unscaled * 10 ^ d.scale = d.unscaled * 10 ^ s ∧
        ¬(d.unscaled = 0 ∧ d.scale + w.maxPrecision < s)) ∧
    (∀ e, d.rescale s = .error e → ∃ m, e = .numericRange m) ∧
    (∀ r r', d.rescale s = .ok r → r.rescale d.scale = .ok r' → r' = d) :=
  ⟨fun _ => rescale_eq_ok_iff, fun _ => rescale_error, fun _ _ => rescale_rescale⟩

/-- `1.2300` at 16 bytes rescales to `1.23` and back. -/
theorem rescale_exact_two_places :
    let d : FixedDecimal .d128 := ⟨12300, 4, by decide⟩
    let r : FixedDecimal .d128 := ⟨123, 2, by decide⟩
    d.rescale 2 = .ok r ∧ r.rescale 4 = .ok d :=
  ⟨((rescale_exact _ 2).1 _).mpr ⟨rfl, by decide, by decide⟩,
    ((rescale_exact _ 4).1 _).mpr ⟨rfl, by decide, by decide⟩⟩

/-- Zero at 16 bytes has its integer, zero, at scale 39, yet growing its scale by 39 places
fails. -/
theorem rescale_zero_fails_past_widest :
    (∃ r : FixedDecimal .d128, r.scale = 39 ∧ r.unscaled * 10 ^ 0 = 0 * 10 ^ 39) ∧
      ∃ e, (⟨0, 0, DecimalWidth.fits_zero .d128⟩ : FixedDecimal .d128).rescale 39 = .error e :=
  ⟨⟨⟨0, 39, DecimalWidth.fits_zero _⟩, rfl, by decide⟩, rescale_past_widest (by decide)⟩

end FixedDecimal

end NativeBlock
