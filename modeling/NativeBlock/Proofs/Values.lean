import NativeBlock.Proofs.Spans

/-!
# Each value reads back as what its column keeps

A value that a codec's encoder accepts, placed anywhere in a buffer, decodes to what the column
keeps of it, and the decoder stops right after its bytes (`Codec.decode_encode`). What a column
keeps (`Codec.Kept`) is the value itself, with three exceptions that the layouts force:

* a `FixedString` pads with zero bytes, so its trailing NUL characters are lost;
* a `DateTime64` counts ticks of its scale, so nanoseconds finer than a tick are truncated;
* a decimal column stores the unscaled integer at its own scale, so the same number comes back
  written at that scale.

An instant inside a leap second is written as a tick count of the next second and is left out
(`Codec.NotLeap`). A fixed-width codec always writes exactly its slot (`Codec.size_encode`), and the
placeholder a `Nullable` column writes under a null row decodes as well
(`Codec.decode_placeholder`).
-/

namespace NativeBlock

/-! ## Signed words -/

/-- A value in the signed range of `k` bytes survives its two's-complement word. -/
theorem Wire.toSigned_ofSigned {k : Nat} {v : Int} (pos : 0 < k) (low : -2 ^ (8 * k - 1) ≤ v)
    (high : v < 2 ^ (8 * k - 1)) : toSigned k (ofSigned k v % 256 ^ k) = v := by
  -- Name half the word's range; every power in sight is it or its double.
  obtain ⟨H, half⟩ : ∃ H, 2 ^ (8 * k - 1) = H := ⟨_, rfl⟩
  have whole : 2 ^ (8 * k) = 2 * H := by
    rw [← half, ← Nat.pow_succ']
    congr 1
    omega
  have word : 256 ^ k = 2 * H := by
    rw [← whole, Nat.pow_mul]
  have halfInt : (2 : Int) ^ (8 * k - 1) = H := by
    rw [← half]
    simp
  have wholeInt : (2 : Int) ^ (8 * k) = ((2 * H : Nat) : Int) := by
    rw [← whole]
    simp
  unfold toSigned ofSigned
  simp only [Nat.pow_eq, Int.pow_eq]
  rw [word, half, wholeInt, whole]
  rw [halfInt] at low high
  -- The residue is `v` itself, or `v` shifted up by the word's range.
  have residue : v % ((2 * H : Nat) : Int) = if 0 ≤ v then v else v + ((2 * H : Nat) : Int) := by
    split
    · exact Int.emod_eq_of_lt ‹_› (by omega)
    · rw [← Int.add_mul_emod_self_right v 1 ((2 * H : Nat) : Int), Int.one_mul]
      exact Int.emod_eq_of_lt (by omega) (by omega)
  rw [residue]
  split
  · have small : v.toNat % (2 * H) = v.toNat := Nat.mod_eq_of_lt (by omega)
    rw [small, if_pos (by omega)]
    omega
  · have small : (v + ((2 * H : Nat) : Int)).toNat % (2 * H) = (v + ((2 * H : Nat) : Int)).toNat :=
      Nat.mod_eq_of_lt (by omega)
    rw [small, if_neg (by omega)]
    omega

/-! ## Instants as ticks -/

namespace Instant

theorem ticksPerSecond_eq {scale : Nat} (le : scale ≤ 9) :
    ticksPerSecond scale = .ok (10 ^ scale) := by
  simp [ticksPerSecond, Nat.not_lt.mpr le]

/-- A second is `10 ^ scale` ticks of `10 ^ (9 - scale)` nanoseconds each. -/
theorem nanosPerTick {scale : Nat} (le : scale ≤ 9) :
    (1000000000 : Int) / 10 ^ scale = ((10 ^ (9 - scale) : Nat) : Int) ∧
      (10 : Int) ^ scale * ((10 ^ (9 - scale) : Nat) : Int) = 1000000000 := by
  have split : (10 : Int) ^ scale * ((10 ^ (9 - scale) : Nat) : Int) = 1000000000 := by
    rw [Int.natCast_pow]
    show (10 : Int) ^ scale * 10 ^ (9 - scale) = _
    rw [← Int.pow_add, Nat.add_sub_cancel' le]
    rfl
  refine ⟨?_, split⟩
  rw [← split, Int.mul_ediv_cancel_left _ (Int.pow_ne_zero (by decide))]

/-- An instant's second with fewer nanoseconds than it has is an instant. -/
theorem ofParts?_truncated (i : Instant) {n : Nat} (le : n ≤ i.nanos)
    (notLeap : i.nanos < 1000000000) :
    ∃ i', ofParts? i.secs n = some i' ∧ i'.secs = i.secs ∧ i'.nanos = n := by
  have valid : Instant.Valid i.secs n :=
    ⟨by omega, .inl (by omega), i.valid.2.2.1, i.valid.2.2.2⟩
  exact ⟨⟨i.secs, n, valid⟩, dif_pos valid, rfl, rfl⟩

/-- Outside a leap second, the ticks an instant is written as are a signed 64-bit word, and they
read back as the instant truncated to whole ticks. -/
theorem ofTicks_toTicks {i : Instant} {scale : Nat} {t : Int} (le : scale ≤ 9)
    (notLeap : i.nanos < 1000000000) (run : i.toTicks scale = .ok t) :
    minTicks ≤ t ∧ t ≤ maxTicks ∧
      ∃ i', ofTicks t scale = .ok i' ∧ i'.secs = i.secs ∧
        i'.nanos = i.nanos / 10 ^ (9 - scale) * 10 ^ (9 - scale) := by
  obtain ⟨perTick, second⟩ := nanosPerTick le
  unfold toTicks at run
  rw [ticksPerSecond_eq le] at run
  simp only [bind, Except.bind, perTick, Int.toNat_natCast] at run
  split at run
  · cases run
  · rename_i fits
    cases run
    simp only [not_or, Int.not_lt] at fits
    obtain ⟨_, _, low, high⟩ := fits
    refine ⟨low, high, ?_⟩
    unfold ofTicks
    rw [ticksPerSecond_eq le]
    simp only [bind, Except.bind, perTick]
    generalize hq : 10 ^ (9 - scale) = q at *
    generalize hp : (10 : Int) ^ scale = per at *
    have qPos : 0 < q := by rw [← hq]; exact Nat.pow_pos (by decide)
    have perPos : 0 < per := by rw [← hp]; exact Int.pow_pos (by decide)
    -- The whole ticks of the nanoseconds are fewer than a second's worth.
    have ticks : ((i.nanos : Int) / q) = ((i.nanos / q : Nat) : Int) := by
      rw [Int.natCast_ediv]
    have under : (i.nanos : Int) / q < per :=
      Int.ediv_lt_of_lt_mul (by omega) (by rw [second]; omega)
    have fractionNonneg : 0 ≤ (i.nanos : Int) / q :=
      Int.ediv_nonneg (Int.natCast_nonneg _) (Int.natCast_nonneg _)
    -- Reading splits the count back into the second and the ticks within it.
    have whole : (i.secs * per + (i.nanos : Int) / q) / per = i.secs := by
      rw [Int.add_comm, Int.add_mul_ediv_right _ _ (by omega),
        Int.ediv_eq_zero_of_lt fractionNonneg under, Int.zero_add]
    have part : (i.secs * per + (i.nanos : Int) / q) % per = (i.nanos : Int) / q := by
      rw [Int.add_comm, Int.add_mul_emod_self_right, Int.emod_eq_of_lt fractionNonneg under]
    have nanos : ((i.nanos : Int) / q * q).toNat = i.nanos / q * q := by
      rw [ticks, ← Int.natCast_mul, Int.toNat_natCast]
    obtain ⟨i', made, secs, truncated⟩ :=
      ofParts?_truncated i (Nat.div_mul_le_self i.nanos q) notLeap
    rw [whole, part, nanos, made]
    exact ⟨i', rfl, secs, truncated⟩

end Instant

/-! ## Decimals at a column's scale -/

theorem DecimalWidth.le_maxPrecision {precision : Nat} {w : DecimalWidth}
    (run : DecimalWidth.ofPrecision precision = .ok w) : precision ≤ w.maxPrecision := by
  unfold DecimalWidth.ofPrecision at run
  repeat' split at run
  all_goals cases run
  all_goals
    simp only [DecimalWidth.maxPrecision]
    omega

namespace FixedDecimal

variable {w : DecimalWidth}

theorem ofInt?_eq_some {u : Int} {s : Nat} {r : FixedDecimal w} (made : ofInt? w u s = some r) :
    r.unscaled = u ∧ r.scale = s := by
  unfold ofInt? at made
  split at made
  · cases made
    exact ⟨rfl, rfl⟩
  · cases made

theorem pow10?_eq_some {k : Nat} {f : Int} (made : pow10? w k = some f) : f = 10 ^ k := by
  unfold pow10? at made
  split at made
  · cases made
    rfl
  · cases made

/-- Rescaling keeps the number: the new unscaled integer over `10 ^ s` is the old one over
`10 ^ d.scale`. -/
theorem rescale_eq_ok {d r : FixedDecimal w} {s : Nat} (run : d.rescale s = .ok r) :
    r.scale = s ∧ r.unscaled * 10 ^ d.scale = d.unscaled * 10 ^ s := by
  unfold rescale at run
  dsimp only at run
  split at run
  · rename_i same
    cases run
    exact ⟨same, by rw [same]⟩
  · split at run
    · -- A finer scale multiplies by the power of ten between the two.
      rename_i finer
      split at run
      · cases run
      · rename_i f factor
        split at run
        · rename_i r' made
          cases run
          obtain ⟨unscaled, scale⟩ := ofInt?_eq_some made
          refine ⟨scale, ?_⟩
          rw [unscaled, pow10?_eq_some factor, Int.mul_assoc, ← Int.pow_add,
            Nat.sub_add_cancel (Nat.le_of_lt finer)]
        · cases run
    · -- A coarser scale divides exactly by the power of ten between the two.
      rename_i same coarser
      split at run
      · split at run
        · rename_i zero
          cases run
          exact ⟨rfl, by simp [zero]⟩
        · cases run
      · rename_i f factor
        split at run
        · cases run
        · rename_i exact
          split at run
          · rename_i r' made
            cases run
            obtain ⟨unscaled, scale⟩ := ofInt?_eq_some made
            have tenth : f = 10 ^ (d.scale - s) := pow10?_eq_some factor
            subst tenth
            have powers : (10 : Int) ^ d.scale = 10 ^ (d.scale - s) * 10 ^ s := by
              rw [← Int.pow_add, Nat.sub_add_cancel (by omega)]
            refine ⟨scale, ?_⟩
            rw [unscaled, powers, ← Int.mul_assoc,
              Int.tdiv_mul_cancel_of_tmod_eq_zero (Decidable.of_not_not exact)]
          · cases run

/-- The unscaled integer a column stores is the value rescaled to the column's scale, within the
column's precision. -/
theorem toColumn_eq_ok {d : FixedDecimal w} {precision scale : Nat} {u : Int}
    (run : d.toColumn precision scale = .ok u) :
    u * 10 ^ d.scale = d.unscaled * 10 ^ scale := by
  unfold toColumn at run
  obtain ⟨r, rescaled, rest⟩ := except_bind_eq_ok run
  obtain ⟨_, same⟩ := rescale_eq_ok rescaled
  dsimp only at rest
  split at rest
  · cases rest
  · cases rest
    exact same

end FixedDecimal

/-! ## Zero padding after a text -/

theorem rdropWhile_append_replicate {α : Type} [DecidableEq α] (a : α) (l : List α) (k : Nat) :
    (l ++ List.replicate k a).rdropWhile (· = a) = l.rdropWhile (· = a) := by
  induction k with
  | zero => simp
  | succ k ih =>
    rw [List.replicate_succ', ← List.append_assoc, List.rdropWhile_concat_pos _ _ _ (by simp), ih]

theorem utf8Encode_replicate_nul (m : Nat) :
    (List.replicate m '\x00').utf8Encode.toList = List.replicate m 0 := by
  induction m with
  | zero => rw [List.replicate_zero, List.utf8Encode_nil, toList_empty, List.replicate_zero]
  | succ m ih =>
    rw [List.replicate_succ, List.utf8Encode_cons, List.utf8Encode_singleton, toList_byteArray_append,
      ih, toList_toByteArray]
    rfl

/-- Only the NUL character's bytes end in a zero byte. -/
theorem getLast?_utf8EncodeChar {c : Char} (notNul : c ≠ '\x00') :
    (String.utf8EncodeChar c).getLast? ≠ some 0 := by
  rcases Char.utf8Size_eq c with one | two | three | four
  · rw [String.utf8EncodeChar_eq_singleton one]
    intro last
    simp only [List.getLast?_singleton, Option.some.injEq] at last
    have small := Char.utf8Size_eq_one_iff.mp one
    have byte := congrArg UInt8.toNat last
    simp only [UInt32.toNat_toUInt8, UInt8.toNat_zero] at byte
    rw [UInt32.le_iff_toNat_le] at small
    apply notNul
    apply Char.ext
    apply UInt32.toNat_inj.mp
    simp only [UInt32.reduceToNat] at small
    show c.val.toNat = 0
    omega
  · rw [String.utf8EncodeChar_eq_cons_cons two]
    simp
  · rw [String.utf8EncodeChar_eq_cons_cons_cons three]
    simp
  · rw [String.utf8EncodeChar_eq_cons_cons_cons_cons four]
    simp

/-- A text that does not end in NUL has bytes that do not end in zero. -/
theorem rdropWhile_utf8Encode {t : List Char} (last : ∀ nonempty : t ≠ [], t.getLast nonempty ≠ '\x00') :
    t.utf8Encode.toList.rdropWhile (· = 0) = t.utf8Encode.toList := by
  rcases List.eq_nil_or_concat t with rfl | ⟨t', c, rfl⟩
  · rw [List.utf8Encode_nil, toList_empty, List.rdropWhile_nil]
  · have notNul : c ≠ '\x00' := by
      simpa using last (by simp)
    -- The last byte is the last byte of the last character's bytes.
    obtain ⟨e, b, encoded⟩ : ∃ e b, String.utf8EncodeChar c = e ++ [b] := by
      rcases List.eq_nil_or_concat (String.utf8EncodeChar c) with empty | ⟨e, b, concat⟩
      · exact absurd empty String.utf8EncodeChar_ne_nil
      · exact ⟨e, b, by rw [concat, List.concat_eq_append]⟩
    have nonzero : b ≠ 0 := by
      intro zero
      apply getLast?_utf8EncodeChar notNul
      rw [encoded, zero, List.getLast?_concat]
    rw [List.concat_eq_append, List.utf8Encode_append, List.utf8Encode_singleton,
      toList_byteArray_append, toList_toByteArray, encoded, ← List.append_assoc,
      List.rdropWhile_concat_neg _ _ _ (by simpa using nonzero)]

/-- The bytes of a text followed by zero padding, less their trailing zero bytes, are the bytes
of the text less its trailing NUL characters. -/
theorem rdropWhile_padded (s : String) (k : Nat) :
    (s.toUTF8.toList ++ List.replicate k 0).rdropWhile (· = 0) =
      (String.ofList (s.toList.rdropWhile (· = '\x00'))).toUTF8.toList := by
  obtain ⟨m, nuls⟩ : ∃ m, s.toList.rtakeWhile (· = '\x00') = List.replicate m '\x00' :=
    ⟨_, List.eq_replicate_iff.mpr ⟨rfl, fun b mem => by simpa using List.mem_rtakeWhile_imp mem⟩⟩
  have split := List.rdropWhile_append_rtakeWhile (p := (· = '\x00')) (l := s.toList)
  rw [nuls] at split
  have bytes : s.toUTF8.toList =
      (s.toList.rdropWhile (· = '\x00')).utf8Encode.toList ++ List.replicate m 0 := by
    rw [String.toUTF8_eq_toByteArray, ← String.utf8Encode_toList]
    conv => lhs; rw [← split]
    rw [List.utf8Encode_append, toList_byteArray_append, utf8Encode_replicate_nul]
  rw [bytes, List.append_assoc, ← List.replicate_add, rdropWhile_append_replicate,
    rdropWhile_utf8Encode (fun nonempty => by simpa using List.rdropWhile_last_not _ _ nonempty),
    String.toUTF8_eq_toByteArray, String.toByteArray_ofList]

namespace Codec

open Wire

/-! ## What a column keeps of a value -/

/-- What a column of codec `c` gives back for a written value `v`: `v` itself, except that a
`FixedString` loses its trailing NUL characters, a `DateTime64` loses the nanoseconds finer than
its tick, and a decimal comes back as the same number written at the column's scale. -/
def Kept : (c : Codec) → c.Value → c.Value → Prop
  | .fixedString .., (s : String), (s' : String) => s'.toList = s.toList.rdropWhile (· = '\x00')
  | .dateTime64 scale .., (i : Instant), (i' : Instant) =>
    i'.secs = i.secs ∧ i'.nanos = i.nanos / 10 ^ (9 - scale) * 10 ^ (9 - scale)
  | .decimal .d32 _ scale .., (v : Decimal96), (v' : Decimal96) =>
    v'.scale = scale ∧ v'.mantissa * 10 ^ v.scale = v.mantissa * 10 ^ scale
  | .decimal .d64 _ scale .., (v : Decimal96), (v' : Decimal96) =>
    v'.scale = scale ∧ v'.mantissa * 10 ^ v.scale = v.mantissa * 10 ^ scale
  | .decimal .d128 _ scale .., (v : FixedDecimal .d128), (v' : FixedDecimal .d128) =>
    v'.scale = scale ∧ v'.unscaled * 10 ^ v.scale = v.unscaled * 10 ^ scale
  | .decimal .d256 _ scale .., (v : FixedDecimal .d256), (v' : FixedDecimal .d256) =>
    v'.scale = scale ∧ v'.unscaled * 10 ^ v.scale = v.unscaled * 10 ^ scale
  | _, v, v' => v' = v

/-- Whether a value lies outside a leap second; only an instant can lie inside one. -/
def NotLeap : (c : Codec) → c.Value → Prop
  | .dateTime64 .., (i : Instant) => i.nanos < 1000000000
  | _, _ => True

/-! ## Words -/

theorem size_word (k n : Nat) : (word k n).size = k := by
  simp [word]

theorem decodeLE_word (k n : Nat) : decodeLE (word k n).toList = n % 256 ^ k := by
  rw [word, toList_toByteArray, decodeLE_encodeLE]

/-- A bit vector of `8 * k` bits is read back from its `k`-byte word. -/
theorem ofNat_decodeLE_word {k : Nat} (v : BitVec (8 * k)) :
    BitVec.ofNat (8 * k) (decodeLE (word k v.toNat).toList) = v := by
  have bits : (256 : Nat) ^ k = 2 ^ (8 * k) := by
    rw [Nat.pow_mul]
  rw [decodeLE_word, bits, Nat.mod_eq_of_lt v.isLt]
  exact BitVec.eq_of_toNat_eq (by simp)

theorem slot_word_bitVec {k pos : Nat} {data : ByteArray} (v : BitVec (8 * k))
    (placed : Placed data pos (word k v.toNat)) :
    slot data k (fun bs => .ok (BitVec.ofNat (8 * k) (decodeLE bs))) pos = .ok v (pos + k) :=
  slot_placed placed (size_word k _) (by rw [ofNat_decodeLE_word])

/-- A signed value of `k` bytes is read back from its two's-complement word. -/
theorem toSigned_decodeLE_word {k : Nat} {v : Int} (pos : 0 < k) (low : -2 ^ (8 * k - 1) ≤ v)
    (high : v < 2 ^ (8 * k - 1)) : toSigned k (decodeLE (word k (ofSigned k v)).toList) = v := by
  rw [decodeLE_word, toSigned_ofSigned pos low high]

theorem dateOfDays_days (d : Date) : dateOfDays d.days = .ok d := by
  unfold dateOfDays Date.ofDays?
  rw [dif_pos d.inRange]

/-- A decimal's slot is the two's-complement word of its unscaled integer, which fits the width. -/
theorem decimalSlot_eq_ok {w : DecimalWidth} {text : String} {u : Int} {bytes : ByteArray}
    (run : decimalSlot w text u = .ok bytes) : w.Fits u ∧ bytes = word w.bytes (ofSigned w.bytes u) := by
  unfold decimalSlot at run
  split at run
  · rename_i fits
    cases run
    exact ⟨fits, rfl⟩
  · cases run

theorem DecimalWidth.bytes_pos (w : DecimalWidth) : 0 < w.bytes := by
  cases w <;> decide

/-- A narrow decimal column's slot reads back as a 96-bit decimal of the column's scale. -/
theorem slot_decimal96 {w : DecimalWidth} {scale pos : Nat} {u : Int} {data : ByteArray}
    (narrow : w.bytes ≤ 8) (scaleLe : scale ≤ 28) (fits : w.Fits u)
    (placed : Placed data pos (word w.bytes (ofSigned w.bytes u))) :
    ∃ v : Decimal96, slot data w.bytes (decimal96OfSlot w scale) pos = .ok v (pos + w.bytes) ∧
      v.mantissa = u ∧ v.scale = scale := by
  have small : u.natAbs < 2 ^ 96 := by
    have bound : w.bound ≤ 2 ^ 63 := by
      cases w <;> first | decide | (simp only [DecimalWidth.bytes] at narrow; omega)
    unfold DecimalWidth.Fits at fits
    omega
  refine ⟨⟨u, scale, small, scaleLe⟩, slot_placed placed (size_word _ _) ?_, rfl, rfl⟩
  unfold decimal96OfSlot Decimal96.ofInt
  rw [toSigned_decodeLE_word (DecimalWidth.bytes_pos w) fits.1 fits.2, dif_pos scaleLe,
    dif_pos (show u.natAbs < 79228162514264337593543950336 from small)]

/-- A wide decimal column's slot reads back as a fixed decimal of the column's scale. -/
theorem slot_fixedDecimal (scale : Nat) {w : DecimalWidth} {pos : Nat} {u : Int}
    {data : ByteArray} (fits : w.Fits u)
    (placed : Placed data pos (word w.bytes (ofSigned w.bytes u))) :
    ∃ v : FixedDecimal w, slot data w.bytes (fixedOfSlot w scale) pos = .ok v (pos + w.bytes) ∧
      v.unscaled = u ∧ v.scale = scale := by
  refine ⟨⟨u, scale, fits⟩, slot_placed placed (size_word _ _) ?_, rfl, rfl⟩
  unfold fixedOfSlot FixedDecimal.ofInt?
  rw [toSigned_decodeLE_word (DecimalWidth.bytes_pos w) fits.1 fits.2, dif_pos fits]

/-- The bytes of a text padded with zeros read back as the text less its trailing NULs. -/
theorem slotText_padded (at_ : Nat) (s : String) (k : Nat) :
    slotText at_ (s.toUTF8 ++ ⟨Array.replicate k 0⟩).toList =
      .ok (String.ofList (s.toList.rdropWhile (· = '\x00'))) := by
  have zeros : (⟨Array.replicate k 0⟩ : ByteArray).toList = List.replicate k 0 := by
    rw [toList_eq_data_toList, Array.toList_replicate]
  -- The reader trims the zeros by reversing twice, which is `rdropWhile` unfolded.
  have trimmed : ((s.toUTF8.toList ++ List.replicate k 0).reverse.dropWhile (· = 0)).reverse =
      (String.ofList (s.toList.rdropWhile (· = '\x00'))).toUTF8.toList :=
    rdropWhile_padded s k
  unfold slotText
  rw [toList_byteArray_append, zeros]
  dsimp only
  rw [trimmed, toByteArray_toList, Wire.fromUTF8?_toUTF8]

/-! ## Every codec -/

theorem size_padded {s : String} {n : Nat} (room : s.utf8ByteSize ≤ n) :
    (s.toUTF8 ++ ⟨Array.replicate (n - s.utf8ByteSize) 0⟩).size = n := by
  rw [ByteArray.size_append, String.toUTF8_eq_toByteArray, String.size_toByteArray]
  show s.utf8ByteSize + (Array.replicate (n - s.utf8ByteSize) (0 : UInt8)).size = n
  rw [Array.size_replicate]
  omega

/-- A value the encoder accepts, placed anywhere in a buffer, decodes to what the column keeps of
it, and the decoder stops right after its bytes. -/
theorem decode_encode {c : Codec} {v : c.Value} {bytes data : ByteArray} {pos : Nat}
    (encoded : encode c v = .ok bytes) (placed : Placed data pos bytes)
    (fits : bytes.size < 2 ^ 64) (notLeap : c.NotLeap v) :
    ∃ v', decode c data pos = .ok v' (pos + bytes.size) ∧ c.Kept v v' := by
  cases c with
  | unsigned w =>
    cases encoded
    exact ⟨v, by rw [size_word]; exact slot_word_bitVec v placed, rfl⟩
  | signed w =>
    cases encoded
    exact ⟨v, by rw [size_word]; exact slot_word_bitVec v placed, rfl⟩
  | float32 =>
    cases encoded
    exact ⟨v, by rw [size_word]; exact slot_word_bitVec (k := 4) v placed, rfl⟩
  | float64 =>
    cases encoded
    exact ⟨v, by rw [size_word]; exact slot_word_bitVec (k := 8) v placed, rfl⟩
  | ipv4 =>
    cases encoded
    refine ⟨v, ?_, rfl⟩
    rw [size_word]
    exact slot_placed (f := fun bs => .ok (Ipv4Address.mk (BitVec.ofNat 32 (decodeLE bs)))) placed
      (size_word 4 _) (by rw [ofNat_decodeLE_word (k := 4)])
  | bool =>
    cases encoded
    refine ⟨v, ?_, rfl⟩
    rw [size_word]
    refine slot_placed (f := fun bs => .ok (decide (decodeLE bs ≠ 0))) placed (size_word 1 _) ?_
    rw [decodeLE_word]
    cases v <;> rfl
  | date =>
    dsimp only [encode] at encoded
    split at encoded
    · rename_i range
      cases encoded
      refine ⟨v, ?_, rfl⟩
      rw [size_word]
      refine slot_placed (f := fun bs => dateOfDays (decodeLE bs)) placed (size_word 2 _) ?_
      have days : ((v.days.toNat % 256 ^ 2 : Nat) : Int) = v.days := by
        rw [Nat.mod_eq_of_lt (by omega)]
        omega
      rw [decodeLE_word]
      show dateOfDays _ = _
      rw [days, dateOfDays_days]
    · cases encoded
  | date32 =>
    dsimp only [encode] at encoded
    split at encoded
    · rename_i range
      cases encoded
      refine ⟨v, ?_, rfl⟩
      rw [size_word]
      refine slot_placed (f := fun bs => dateOfDays (toSigned 4 (decodeLE bs))) placed
        (size_word 4 _) ?_
      show dateOfDays _ = _
      rw [toSigned_decodeLE_word (k := 4) (by decide) range.1 range.2, dateOfDays_days]
    · cases encoded
  | string =>
    cases encoded
    have textFits : v.utf8ByteSize < 2 ^ 64 := by
      rw [Wire.size_writePrefixed, String.toUTF8_eq_toByteArray, String.size_toByteArray] at fits
      omega
    exact ⟨v, Wire.readText_placed textFits placed, rfl⟩
  | fixedString n pos' fits' =>
    dsimp only [encode] at encoded
    split at encoded
    · cases encoded
    · rename_i room
      cases encoded
      have size := size_padded (Nat.le_of_not_lt room)
      refine ⟨_, ?_, String.toList_ofList⟩
      rw [size]
      exact slot_placed placed size (slotText_padded pos v _)
  | dateTime64 scale zone le quotable =>
    dsimp only [encode] at encoded
    obtain ⟨t, ticked, written⟩ := except_bind_eq_ok encoded
    cases written
    obtain ⟨low, high, i', read, secs, nanos⟩ := Instant.ofTicks_toTicks le notLeap ticked
    refine ⟨i', ?_, secs, nanos⟩
    rw [size_word]
    refine slot_placed (f := fun bs => Instant.ofTicks (toSigned 8 (decodeLE bs)) scale) placed
      (size_word 8 _) ?_
    show Instant.ofTicks _ scale = _
    rw [toSigned_decodeLE_word (k := 8) (by decide) low (by unfold Instant.maxTicks at high; omega),
      read]
  | decimal storage precision scale width scaleLe =>
    have narrowScale : storage.maxPrecision ≤ 18 → scale ≤ 28 := fun narrow => by
      have := DecimalWidth.le_maxPrecision width
      omega
    cases storage with
    | d32 =>
      dsimp only [encode] at encoded
      obtain ⟨u, column, slotted⟩ := except_bind_eq_ok encoded
      obtain ⟨inWidth, rfl⟩ := decimalSlot_eq_ok slotted
      obtain ⟨v', read, mantissa, scaled⟩ :=
        slot_decimal96 (by decide) (narrowScale (by decide)) inWidth placed
      refine ⟨v', by rw [size_word]; exact read, scaled, ?_⟩
      rw [mantissa]
      exact FixedDecimal.toColumn_eq_ok column
    | d64 =>
      dsimp only [encode] at encoded
      obtain ⟨u, column, slotted⟩ := except_bind_eq_ok encoded
      obtain ⟨inWidth, rfl⟩ := decimalSlot_eq_ok slotted
      obtain ⟨v', read, mantissa, scaled⟩ :=
        slot_decimal96 (by decide) (narrowScale (by decide)) inWidth placed
      refine ⟨v', by rw [size_word]; exact read, scaled, ?_⟩
      rw [mantissa]
      exact FixedDecimal.toColumn_eq_ok column
    | d128 =>
      dsimp only [encode] at encoded
      obtain ⟨u, column, slotted⟩ := except_bind_eq_ok encoded
      obtain ⟨inWidth, rfl⟩ := decimalSlot_eq_ok slotted
      obtain ⟨v', read, unscaled, scaled⟩ := slot_fixedDecimal scale inWidth placed
      refine ⟨v', by rw [size_word]; exact read, scaled, ?_⟩
      rw [unscaled]
      exact FixedDecimal.toColumn_eq_ok column
    | d256 =>
      dsimp only [encode] at encoded
      obtain ⟨u, column, slotted⟩ := except_bind_eq_ok encoded
      obtain ⟨inWidth, rfl⟩ := decimalSlot_eq_ok slotted
      obtain ⟨v', read, unscaled, scaled⟩ := slot_fixedDecimal scale inWidth placed
      refine ⟨v', by rw [size_word]; exact read, scaled, ?_⟩
      rw [unscaled]
      exact FixedDecimal.toColumn_eq_ok column

/-- A fixed-width codec writes exactly its slot, whatever the value. -/
theorem size_encode {c : Codec} {v : c.Value} {bytes : ByteArray} {w : Nat}
    (width : c.slotWidth = some w) (encoded : encode c v = .ok bytes) : bytes.size = w := by
  cases c with
  | unsigned _ | signed _ | float32 | float64 | ipv4 | bool =>
    cases encoded
    cases width
    exact size_word _ _
  | date | date32 =>
    dsimp only [encode] at encoded
    split at encoded
    · cases encoded
      cases width
      exact size_word _ _
    · cases encoded
  | string => cases width
  | fixedString n _ _ =>
    dsimp only [encode] at encoded
    split at encoded
    · cases encoded
    · rename_i room
      cases encoded
      cases width
      exact size_padded (Nat.le_of_not_lt room)
  | dateTime64 =>
    obtain ⟨t, -, written⟩ := except_bind_eq_ok encoded
    cases written
    cases width
    exact size_word _ _
  | decimal storage =>
    -- Every storage width writes its unscaled integer as one word of that width.
    cases storage <;>
    · obtain ⟨u, -, slotted⟩ := except_bind_eq_ok encoded
      obtain ⟨-, rfl⟩ := decimalSlot_eq_ok slotted
      cases width
      exact size_word _ _

/-! ## Placeholders -/

theorem decodeLE_replicate_zero (k : Nat) : decodeLE (List.replicate k 0) = 0 := by
  induction k with
  | zero => rfl
  | succ k ih => simp [List.replicate_succ, decodeLE, ih]

/-- A fixed-width placeholder is a slot of zero bytes. -/
theorem placeholder_of_slotWidth {c : Codec} {w : Nat} (width : c.slotWidth = some w) :
    c.placeholder.toList = List.replicate w 0 ∧ c.placeholder.size = w := by
  unfold placeholder
  rw [width]
  refine ⟨?_, Array.size_replicate⟩
  rw [toList_eq_data_toList, Array.toList_replicate]

theorem ofTicks_zero {scale : Nat} (le : scale ≤ 9) : ∃ i, Instant.ofTicks 0 scale = .ok i := by
  unfold Instant.ofTicks
  rw [Instant.ticksPerSecond_eq le]
  simp only [bind, Except.bind, Int.zero_ediv, Int.zero_emod, Int.zero_mul, Int.toNat_zero]
  have valid : Instant.Valid 0 0 := by decide
  exact ⟨⟨0, 0, valid⟩, by simp only [Instant.ofParts?, dif_pos valid]; rfl⟩

/-- A slot of zero bytes reads as whatever its interpretation makes of zeros. -/
theorem slot_placeholder {α : Type} {c : Codec} {w pos : Nat} {data : ByteArray}
    {f : List UInt8 → Except Error α} (width : c.slotWidth = some w)
    (placed : Placed data pos c.placeholder) (read : ∃ v, f (List.replicate w 0) = .ok v) :
    ∃ v, slot data w f pos = .ok v (pos + c.placeholder.size) := by
  obtain ⟨zeros, size⟩ := placeholder_of_slotWidth width
  obtain ⟨v, interpreted⟩ := read
  rw [size]
  exact ⟨v, slot_placed placed size (by rw [zeros]; exact interpreted)⟩

/-- The text placeholder is the empty text, written with its length. -/
theorem placeholder_string :
    Codec.string.placeholder = writePrefixed ByteArray.empty "".toUTF8 := by
  have varint : encodeUVarint 0 = [0] := by
    rw [encodeUVarint]
    rfl
  apply eq_of_toList_eq
  simp only [writePrefixed, writeUVarint, toList_byteArray_append, toList_empty,
    toList_toByteArray, String.toUTF8_eq_toByteArray, String.toByteArray_empty,
    ByteArray.size_empty, varint, List.nil_append, List.append_nil]
  rw [toList_eq_data_toList]
  rfl

/-- The placeholder a `Nullable` column writes under a null row decodes, whatever the codec. -/
theorem decode_placeholder (c : Codec) {data : ByteArray} {pos : Nat}
    (placed : Placed data pos c.placeholder) :
    ∃ v, decode c data pos = .ok v (pos + c.placeholder.size) := by
  cases c with
  | string =>
    rw [placeholder_string] at placed ⊢
    exact ⟨_, readText_placed (by decide) placed⟩
  | fixedString n pos' fits' =>
    have padded := slotText_padded pos "" n
    have zeros : ("".toUTF8 ++ ⟨Array.replicate n 0⟩).toList = List.replicate n 0 := by
      rw [toList_byteArray_append, String.toUTF8_eq_toByteArray, String.toByteArray_empty,
        toList_empty, toList_eq_data_toList, Array.toList_replicate, List.nil_append]
    rw [zeros] at padded
    dsimp only [decode]
    exact slot_placeholder rfl placed ⟨_, padded⟩
  | date =>
    dsimp only [decode]
    refine slot_placeholder rfl placed ⟨⟨0, by decide⟩, ?_⟩
    rw [decodeLE_replicate_zero]
    exact dateOfDays_days ⟨0, _⟩
  | date32 =>
    dsimp only [decode]
    refine slot_placeholder rfl placed ⟨⟨0, by decide⟩, ?_⟩
    rw [decodeLE_replicate_zero]
    exact dateOfDays_days ⟨0, _⟩
  | dateTime64 scale zone le quotable =>
    dsimp only [decode]
    refine slot_placeholder rfl placed ?_
    rw [decodeLE_replicate_zero]
    exact ofTicks_zero le
  | decimal storage precision scale width scaleLe =>
    have narrowScale : storage.maxPrecision ≤ 18 → scale ≤ 28 := fun narrow => by
      have := DecimalWidth.le_maxPrecision width
      omega
    cases storage with
    | d32 =>
      dsimp only [decode]
      refine slot_placeholder rfl placed ⟨⟨0, scale, by decide, narrowScale (by decide)⟩, ?_⟩
      unfold decimal96OfSlot Decimal96.ofInt
      rw [decodeLE_replicate_zero, dif_pos (narrowScale (by decide))]
      rfl
    | d64 =>
      dsimp only [decode]
      refine slot_placeholder rfl placed ⟨⟨0, scale, by decide, narrowScale (by decide)⟩, ?_⟩
      unfold decimal96OfSlot Decimal96.ofInt
      rw [decodeLE_replicate_zero, dif_pos (narrowScale (by decide))]
      rfl
    | d128 =>
      dsimp only [decode]
      exact slot_placeholder rfl placed ⟨_, rfl⟩
    | d256 =>
      dsimp only [decode]
      exact slot_placeholder rfl placed ⟨_, rfl⟩
  | _ =>
    dsimp only [decode]
    exact slot_placeholder rfl placed ⟨_, rfl⟩

end Codec

end NativeBlock
