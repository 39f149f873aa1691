import NativeBlock.Proofs.Rescale

/-!
# Decimal columns store exactly the representable values

A `Decimal(P, S)` column stores a value as the integer `u` with value `u · 10⁻ˢ`, and only when
`u` has at most `P` digits. The encoder tries this by rescaling the value to `S` and counting the
digits of the result; it accepts a value exactly when such a `u` exists
(`encode_decimal_eq_ok_iff`). The storage width then always holds `u`: `10 ^ P - 1` is below the
bound of the width that `P` calls for, so the width check the narrow columns make after the
digit count never fails. The word written reads back as `u` at scale `S`, and a narrow column's
slot reads as a 96-bit decimal whatever its bytes are.
-/

namespace NativeBlock

open Wire

/-- A number has at most `p > 0` decimal digits exactly when it is below `10 ^ p`. -/
theorem Decimal.digitCount_le_iff {n p : Nat} (pos : 0 < p) : Decimal.digitCount n ≤ p ↔ n < 10 ^ p :=
  placeCount_le_iff (by decide) Decimal.digitCount.eq_1 pos n

namespace DecimalWidth

/-- An integer of at most the width's widest precision in digits is a word of the width. -/
theorem fits_of_natAbs_lt {w : DecimalWidth} {u : Int} {p : Nat} (within : p ≤ w.maxPrecision)
    (small : u.natAbs < 10 ^ p) : w.Fits u := by
  have powers : (10 : Int) ^ p ≤ w.bound :=
    Int.le_trans (pow_le_pow_right₀ (by decide) within) (pow_maxPrecision_le_bound w)
  have cast : (u.natAbs : Int) < 10 ^ p := by exact_mod_cast small
  unfold Fits
  omega

/-- A precision that has a storage width is positive. -/
theorem pos_of_ofPrecision {precision : Nat} {w : DecimalWidth} (run : ofPrecision precision = .ok w) :
    0 < precision := by
  unfold ofPrecision at run
  split at run
  · cases run
  · omega

end DecimalWidth

namespace FixedDecimal

variable {w : DecimalWidth}

/-- Within the width's widest precision, a column takes a value as the integer that holds it at
the column's scale, exactly when that integer has at most `precision` digits. -/
theorem toColumn_eq_ok_iff {d : FixedDecimal w} {precision scale : Nat} {u : Int}
    (pos : 0 < precision) (within : precision ≤ w.maxPrecision) (scaleLe : scale ≤ precision) :
    d.toColumn precision scale = .ok u ↔
      u.natAbs < 10 ^ precision ∧ u * 10 ^ d.scale = d.unscaled * 10 ^ scale := by
  constructor
  · intro run
    unfold toColumn at run
    obtain ⟨r, rescaled, rest⟩ := except_bind_eq_ok run
    obtain ⟨-, same⟩ := rescale_eq_ok rescaled
    dsimp only at rest
    split at rest
    · cases rest
    · rename_i enough
      cases rest
      exact ⟨(Decimal.digitCount_le_iff pos).mp (Nat.le_of_not_lt enough), same⟩
  · rintro ⟨small, same⟩
    let r : FixedDecimal w := ⟨u, scale, DecimalWidth.fits_of_natAbs_lt within small⟩
    -- The column's scale lies within the widest precision, so rescaling zero does not fail.
    have notZeroPast : ¬(d.unscaled = 0 ∧ d.scale + w.maxPrecision < scale) := by
      rintro ⟨-, past⟩
      omega
    have rescaled : d.rescale scale = .ok r := rescale_eq_ok_iff.mpr ⟨rfl, same, notZeroPast⟩
    have enough : ¬ precision < r.digits := Nat.not_lt.mpr ((Decimal.digitCount_le_iff pos).mpr small)
    unfold toColumn
    rw [rescaled]
    simp only [bind, Except.bind, enough, if_false]
    rfl

end FixedDecimal

namespace Codec

/-- The unscaled integer and the scale of a decimal column's value. -/
def decimalParts : (storage : DecimalWidth) → DecimalValue storage → Int × Nat
  | .d32, (v : Decimal96) => (v.mantissa, v.scale)
  | .d64, (v : Decimal96) => (v.mantissa, v.scale)
  | .d128, (v : FixedDecimal .d128) => (v.unscaled, v.scale)
  | .d256, (v : FixedDecimal .d256) => (v.unscaled, v.scale)

/-- The slot of a value checked against a column: it is written exactly when the value is an
integer of at most `precision` digits at the column's scale, and it is then that integer's word.
The storage width's check cannot fail, as the precision is within its widest. -/
theorem slot_of_toColumn_eq_ok_iff {w storage : DecimalWidth} {d : FixedDecimal w} {text : String}
    {precision scale : Nat} {bytes : ByteArray} (pos : 0 < precision)
    (within : precision ≤ w.maxPrecision) (stored : precision ≤ storage.maxPrecision)
    (scaleLe : scale ≤ precision) :
    (d.toColumn precision scale >>= decimalSlot storage text) = .ok bytes ↔
      ∃ u : Int, u.natAbs < 10 ^ precision ∧ u * 10 ^ d.scale = d.unscaled * 10 ^ scale ∧
        bytes = word storage.bytes (ofSigned storage.bytes u) := by
  constructor
  · intro run
    obtain ⟨u, column, slotted⟩ := except_bind_eq_ok run
    obtain ⟨small, same⟩ := (FixedDecimal.toColumn_eq_ok_iff pos within scaleLe).mp column
    exact ⟨u, small, same, (decimalSlot_eq_ok slotted).2⟩
  · rintro ⟨u, small, same, rfl⟩
    rw [(FixedDecimal.toColumn_eq_ok_iff pos within scaleLe).mpr ⟨small, same⟩]
    show decimalSlot storage text u = _
    unfold decimalSlot
    rw [if_pos (DecimalWidth.fits_of_natAbs_lt stored small)]

/-- A decimal column's encoder accepts a value exactly when the number is an integer of at most
`precision` digits at the column's scale, and writes that integer's word. -/
theorem encode_decimal_eq_ok_iff {storage : DecimalWidth} {precision scale : Nat}
    {width : DecimalWidth.ofPrecision precision = .ok storage} {scaleLe : scale ≤ precision}
    {v : DecimalValue storage} {bytes : ByteArray} :
    encode (.decimal storage precision scale width scaleLe) v = .ok bytes ↔
      ∃ u : Int, u.natAbs < 10 ^ precision ∧
        u * 10 ^ (decimalParts storage v).2 = (decimalParts storage v).1 * 10 ^ scale ∧
        bytes = word storage.bytes (ofSigned storage.bytes u) := by
  have pos := DecimalWidth.pos_of_ofPrecision width
  have stored := DecimalWidth.le_maxPrecision width
  -- Narrow values are checked as 16-byte fixed decimals, wide ones at their own width.
  cases storage with
  | d32 =>
    exact slot_of_toColumn_eq_ok_iff (d := Decimal96.toFixed v) pos
      (Nat.le_trans stored (by decide)) stored scaleLe
  | d64 =>
    exact slot_of_toColumn_eq_ok_iff (d := Decimal96.toFixed v) pos
      (Nat.le_trans stored (by decide)) stored scaleLe
  | d128 => exact slot_of_toColumn_eq_ok_iff pos stored stored scaleLe
  | d256 => exact slot_of_toColumn_eq_ok_iff pos stored stored scaleLe

/-- The word of an integer that fits the storage width reads back as that integer at the
column's scale. -/
theorem decode_decimal_word {storage : DecimalWidth} {precision scale : Nat}
    {width : DecimalWidth.ofPrecision precision = .ok storage} {scaleLe : scale ≤ precision}
    {u : Int} {data : ByteArray} {pos : Nat} (fits : storage.Fits u)
    (placed : Placed data pos (word storage.bytes (ofSigned storage.bytes u))) :
    ∃ v', decode (.decimal storage precision scale width scaleLe) data pos =
      .ok v' (pos + storage.bytes) ∧ decimalParts storage v' = (u, scale) := by
  have stored := DecimalWidth.le_maxPrecision width
  cases storage with
  | d32 =>
    have scaleSmall : scale ≤ 28 := by simp only [DecimalWidth.maxPrecision] at stored; omega
    obtain ⟨v', read, mantissa, scaled⟩ := slot_decimal96 (by decide) scaleSmall fits placed
    exact ⟨v', read, by rw [decimalParts, mantissa, scaled]⟩
  | d64 =>
    have scaleSmall : scale ≤ 28 := by simp only [DecimalWidth.maxPrecision] at stored; omega
    obtain ⟨v', read, mantissa, scaled⟩ := slot_decimal96 (by decide) scaleSmall fits placed
    exact ⟨v', read, by rw [decimalParts, mantissa, scaled]⟩
  | d128 =>
    obtain ⟨v', read, unscaled, scaled⟩ := slot_fixedDecimal scale fits placed
    exact ⟨v', read, by rw [decimalParts, unscaled, scaled]⟩
  | d256 =>
    obtain ⟨v', read, unscaled, scaled⟩ := slot_fixedDecimal scale fits placed
    exact ⟨v', read, by rw [decimalParts, unscaled, scaled]⟩

end Codec

/-! ## Narrow slots -/

theorem Wire.decodeLE_lt (bs : List UInt8) : decodeLE bs < 256 ^ bs.length := by
  induction bs with
  | nil => simp [decodeLE]
  | cons b bs ih =>
    have byte := b.toNat_lt
    rw [decodeLE, List.length_cons, Nat.pow_succ]
    omega

/-- A word of `k` bytes read in two's complement lies within half the word's range. -/
theorem Wire.natAbs_toSigned_le {k n : Nat} (pos : 0 < k) (below : n < 256 ^ k) :
    (toSigned k n).natAbs ≤ 2 ^ (8 * k - 1) := by
  obtain ⟨H, half⟩ : ∃ H, 2 ^ (8 * k - 1) = H := ⟨_, rfl⟩
  have whole : 2 ^ (8 * k) = 2 * H := by
    rw [← half, ← Nat.pow_succ']
    congr 1
    omega
  have word : 256 ^ k = 2 * H := by
    rw [← whole, Nat.pow_mul]
  have wholeInt : (2 : Int) ^ (8 * k) = ((2 * H : Nat) : Int) := by
    rw [← whole]
    simp
  unfold toSigned
  simp only [Nat.pow_eq, Int.pow_eq]
  rw [half, wholeInt]
  rw [word] at below
  split <;> omega

/-- The slot of a narrow decimal column reads as a 96-bit decimal whatever its bytes: a word of
at most 8 bytes is far within the 96-bit mantissa. -/
theorem Codec.decimal96OfSlot_eq_ok {w : DecimalWidth} {scale : Nat} (narrow : w.bytes ≤ 8)
    (scaleLe : scale ≤ 28) {bs : List UInt8} (size : bs.length = w.bytes) :
    ∃ d, decimal96OfSlot w scale bs = .ok d ∧ d.mantissa = toSigned w.bytes (decodeLE bs) ∧
      d.scale = scale := by
  have below := decodeLE_lt bs
  rw [size] at below
  have bound := natAbs_toSigned_le (DecimalWidth.bytes_pos w) below
  have small : (toSigned w.bytes (decodeLE bs)).natAbs < 79228162514264337593543950336 := by
    have powers : 2 ^ (8 * w.bytes - 1) ≤ 2 ^ 63 := Nat.pow_le_pow_right (by decide) (by omega)
    omega
  refine ⟨⟨_, scale, small, scaleLe⟩, ?_, rfl, rfl⟩
  unfold decimal96OfSlot Decimal96.ofInt
  rw [dif_pos scaleLe, dif_pos small]

/-- A decimal column built for `Decimal(precision, scale)` accepts a value exactly when the number
is an integer `u` of at most `precision` digits at the column's scale. It then writes `u` as a
little-endian two's-complement word of the storage width, which always holds `u`, and that word
reads back as `u` at the column's scale, the same number. The slot of a 4- or 8-byte column reads
as a value whatever its bytes are. -/
theorem decimal_column_stores_representable (storage : DecimalWidth) (precision scale : Nat)
    (width : DecimalWidth.ofPrecision precision = .ok storage) (scaleLe : scale ≤ precision)
    (v : Codec.DecimalValue storage) :
    ((∃ bytes, Codec.encode (.decimal storage precision scale width scaleLe) v = .ok bytes) ↔
      ∃ u : Int, u.natAbs < 10 ^ precision ∧
        u * 10 ^ (Codec.decimalParts storage v).2 = (Codec.decimalParts storage v).1 * 10 ^ scale) ∧
    (∀ bytes, Codec.encode (.decimal storage precision scale width scaleLe) v = .ok bytes →
      ∃ u : Int, u.natAbs < 10 ^ precision ∧
        u * 10 ^ (Codec.decimalParts storage v).2 = (Codec.decimalParts storage v).1 * 10 ^ scale ∧
        storage.Fits u ∧ bytes = Codec.word storage.bytes (ofSigned storage.bytes u) ∧
        ∀ data pos, Placed data pos bytes →
          ∃ v', Codec.decode (.decimal storage precision scale width scaleLe) data pos =
            .ok v' (pos + storage.bytes) ∧ Codec.decimalParts storage v' = (u, scale)) ∧
    (storage.bytes ≤ 8 → ∀ bs : List UInt8, bs.length = storage.bytes →
      ∃ d, Codec.decimal96OfSlot storage scale bs = .ok d) := by
  have stored := DecimalWidth.le_maxPrecision width
  refine ⟨⟨?_, ?_⟩, ?_, ?_⟩
  · rintro ⟨bytes, run⟩
    obtain ⟨u, small, same, -⟩ := Codec.encode_decimal_eq_ok_iff.mp run
    exact ⟨u, small, same⟩
  · rintro ⟨u, small, same⟩
    exact ⟨_, Codec.encode_decimal_eq_ok_iff.mpr ⟨u, small, same, rfl⟩⟩
  · intro bytes run
    obtain ⟨u, small, same, rfl⟩ := Codec.encode_decimal_eq_ok_iff.mp run
    have fits := DecimalWidth.fits_of_natAbs_lt stored small
    exact ⟨u, small, same, fits, rfl, fun data pos placed => Codec.decode_decimal_word fits placed⟩
  · intro narrow bs size
    have scaleSmall : scale ≤ 28 := by
      cases storage <;> simp only [DecimalWidth.bytes, DecimalWidth.maxPrecision] at narrow stored ⊢ <;>
        omega
    obtain ⟨d, read, -⟩ := Codec.decimal96OfSlot_eq_ok narrow scaleSmall size
    exact ⟨d, read⟩

/-- A `Decimal(9, 2)` column takes `9999999.99`, the largest number of nine digits at two places,
and refuses `10000000.00`. -/
theorem decimal_column_nine_digits :
    (DecimalWidth.ofPrecision 9 = .ok .d32 ∧ 2 ≤ 9) ∧
      (∃ bytes, Codec.encode (.decimal .d32 9 2 rfl (by decide))
        (⟨999999999, 2, by decide, by decide⟩ : Decimal96) = .ok bytes) ∧
      ¬ ∃ bytes, Codec.encode (.decimal .d32 9 2 rfl (by decide))
        (⟨1000000000, 2, by decide, by decide⟩ : Decimal96) = .ok bytes := by
  refine ⟨⟨rfl, by decide⟩, ?_, ?_⟩
  · exact (decimal_column_stores_representable .d32 9 2 rfl (by decide) _).1.mpr
      ⟨999999999, by decide, by decide⟩
  · intro accepted
    obtain ⟨u, small, same⟩ :=
      (decimal_column_stores_representable .d32 9 2 rfl (by decide) _).1.mp accepted
    simp only [Codec.decimalParts] at same
    omega

end NativeBlock
