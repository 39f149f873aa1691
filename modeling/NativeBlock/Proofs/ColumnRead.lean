import NativeBlock.Block.ReadSession
import NativeBlock.Proofs.ColumnWrite
import NativeBlock.Proofs.Skip

/-!
# Reading back what the writers lay out

A column laid out by its writer, standing anywhere in a block of fewer than `2 ^ 64` bytes, is
read back by the reader for its layout: the header gives the column's name and the requested
type, the measured span is exactly the column's rows, and the cursor hands out every row, each
what its codec keeps of the value written.

The proof follows the layers of the layout. Slots of a codec (`Codec.Fills`) are measured by
`Codec.span`; a cursor over placed slots hands out every row (`ValueCursor.drain_placed`,
`NullableCursor.drain_placed`, `DictionaryCursor.drain_lookup`); a header reads back as written
(`BlockReader.readHeader_placed`).

Main statement: `ColumnData.openCursor_laid`.
-/

namespace NativeBlock

open Wire

/-! ## Placed bytes -/

theorem Placed.whole (bytes : ByteArray) : Placed bytes 0 bytes := by
  simpa [ByteArray.append_empty] using Placed.front bytes ByteArray.empty

/-- The rest of a buffer from placed bytes on is those bytes, then what follows them. -/
theorem Placed.extract_eq {data bytes : ByteArray} {pos : Nat} (placed : Placed data pos bytes) :
    data.extract pos data.size = bytes ++ data.extract (pos + bytes.size) data.size := by
  rw [ByteArray.extract_eq_extract_append_extract (pos + bytes.size) (by omega) placed.1,
    placed.2]

theorem extract_append_size (a b : ByteArray) : (a ++ b).extract a.size (a ++ b).size = b := by
  have whole := ByteArray.extract_append_size_add (a := a) (b := b) (i := 0) (j := b.size)
  rw [Nat.add_zero, ByteArray.extract_zero_size] at whole
  rw [ByteArray.size_append]
  exact whole

/-! ## Slots and their spans -/

namespace Codec

/-- Bytes that fill one row of a codec: a slot of its width, or a text with its length. -/
def Fills (c : Codec) (bytes : ByteArray) : Prop :=
  match c.slotWidth with
  | some w => bytes.size = w
  | none => ∃ payload, bytes = writePrefixed ByteArray.empty payload

theorem eq_string_of_slotWidth {c : Codec} (none : c.slotWidth = none) : c = .string := by
  cases c <;> first | rfl | cases none

theorem fills_encode {c : Codec} {v : c.Value} {bytes : ByteArray}
    (encoded : encode c v = .ok bytes) : c.Fills bytes := by
  unfold Fills
  cases width : c.slotWidth with
  | some w => exact size_encode width encoded
  | none =>
    obtain rfl := eq_string_of_slotWidth width
    exact ⟨_, (Except.ok.inj encoded).symm⟩

theorem fills_placeholder (c : Codec) : c.Fills c.placeholder := by
  unfold Fills
  cases width : c.slotWidth with
  | some w => exact (placeholder_of_slotWidth width).2
  | none =>
    obtain rfl := eq_string_of_slotWidth width
    exact ⟨_, placeholder_string⟩

end Codec

theorem size_joinBytes_of_width {parts : List ByteArray} {w : Nat}
    (same : ∀ b ∈ parts, b.size = w) : (joinBytes parts).size = parts.length * w := by
  induction parts with
  | nil => simp
  | cons b parts ih =>
    rw [joinBytes_cons, ByteArray.size_append, same b (List.mem_cons_self ..),
      ih (fun b mem => same b (List.mem_cons_of_mem _ mem)), List.length_cons, Nat.succ_mul,
      Nat.add_comm]

/-- Texts with their lengths, placed one after another, are measured to their end. -/
theorem textSpanFrom_prefixed {data : ByteArray} (fits : data.size < 2 ^ 64) {rows : Nat} :
    ∀ {parts : List ByteArray}, (∀ b ∈ parts, ∃ payload, b = writePrefixed ByteArray.empty payload) →
      ∀ (row : Nat) {pos : Nat}, row + parts.length = rows → Placed data pos (joinBytes parts) →
        Codec.textSpanFrom data rows row pos = .ok (pos + (joinBytes parts).size) := by
  intro parts
  induction parts with
  | nil =>
    intro _ row pos counted _
    rw [Codec.textSpanFrom, if_neg (by simp at counted; omega)]
    rfl
  | cons b parts ih =>
    intro prefixed row pos counted placed
    obtain ⟨payload, rfl⟩ := prefixed b (List.mem_cons_self ..)
    rw [joinBytes_cons] at placed ⊢
    have text := placed.left
    have rest := placed.right
    -- The length reads back from the varint in front of the payload.
    rw [writePrefixed_empty] at text
    have payloadFits : payload.size < 2 ^ 64 := by
      have := text.1
      simp only [ByteArray.size_append] at this
      omega
    have length := readUVarint_placed payloadFits text.left
    have reach : pos + uvarintLen payload.size + payload.size ≤ data.size := by
      have := text.1
      simp only [ByteArray.size_append, List.size_toByteArray, length_encodeUVarint] at this
      omega
    have step := ih (fun b mem => prefixed b (List.mem_cons_of_mem _ mem))
      (row + 1) (by simp at counted; omega) rest
    rw [size_writePrefixed, ← Nat.add_assoc] at step
    rw [Codec.textSpanFrom, if_pos (by simp at counted; omega), length]
    dsimp only
    rw [if_pos reach, ByteArray.size_append, size_writePrefixed, ← Nat.add_assoc,
      ← Nat.add_assoc]
    exact step

/-- Slots of a codec, with anything after them, span exactly their bytes. -/
theorem span_joined {c : Codec} {parts : List ByteArray} (fills : ∀ b ∈ parts, c.Fills b)
    (rest : ByteArray) (fits : (joinBytes parts ++ rest).size < 2 ^ 64) :
    Codec.span c (joinBytes parts ++ rest) parts.length = .ok (joinBytes parts).size := by
  unfold Codec.span
  cases width : c.slotWidth with
  | some w =>
    have same : ∀ b ∈ parts, b.size = w := fun b mem => by
      have := fills b mem
      unfold Codec.Fills at this
      rwa [width] at this
    have size := size_joinBytes_of_width same
    rw [ByteArray.size_append] at fits
    rw [size]
    exact Codec.fixedSpan_eq_ok.mpr ⟨rfl, by unfold Codec.maxLength; omega,
      by rw [ByteArray.size_append]; omega⟩
  | none =>
    have prefixed : ∀ b ∈ parts, ∃ payload, b = writePrefixed ByteArray.empty payload :=
      fun b mem => by
        have := fills b mem
        unfold Codec.Fills at this
        rwa [width] at this
    simpa using textSpanFrom_prefixed fits prefixed 0 (Nat.zero_add _)
      (Placed.front (joinBytes parts) rest)

/-- The encodings of values fill the codec's rows. -/
theorem fills_of_encoded {c : Codec} {vs : List c.Value} {parts : List ByteArray}
    (encoded : List.Forall₂ (fun v b => c.encode v = .ok b) vs parts) : ∀ b ∈ parts, c.Fills b := by
  induction encoded with
  | nil => exact fun b mem => absurd mem List.not_mem_nil
  | @cons v b vs parts enc _ ih =>
    intro b' mem
    rcases List.mem_cons.mp mem with rfl | mem
    · exact Codec.fills_encode enc
    · exact ih b' mem

/-- The slots of nullable rows fill the codec's rows. -/
theorem fills_of_slots {c : Codec} {os : List (Option c.Value)} {parts : List ByteArray}
    (slots : List.Forall₂ c.NullableSlot os parts) : ∀ b ∈ parts, c.Fills b := by
  induction slots with
  | nil => exact fun b mem => absurd mem List.not_mem_nil
  | @cons o b os parts slot _ ih =>
    intro b' mem
    rcases List.mem_cons.mp mem with rfl | mem
    · cases o with
      | none =>
        obtain rfl : b' = c.placeholder := slot
        exact Codec.fills_placeholder c
      | some v => exact Codec.fills_encode slot
    · exact ih b' mem

/-! ## Cursors over placed rows -/

namespace ValueCursor

variable {c : Codec}

theorem next_of_decode {cur : ValueCursor c} {v : c.Value} {stop : Nat}
    (row : cur.index < cur.rows) (read : Codec.decode c cur.data cur.pos = .ok v stop)
    (last : cur.index + 1 = cur.rows → stop = cur.data.size) :
    cur.next = (.ok v, { cur with pos := stop, index := cur.index + 1 }) := by
  unfold next
  rw [if_neg (Nat.not_le.mpr row)]
  dsimp only
  rw [read]
  dsimp only
  rw [if_neg (fun ⟨at_last, short⟩ => short (last at_last))]

/-- A cursor over the encodings of values, ending with the data, hands out every value, each
what its codec keeps of it. -/
theorem drain_placed {vs : List c.Value} {parts : List ByteArray}
    (encoded : List.Forall₂ (fun v b => c.encode v = .ok b) vs parts) :
    (∀ v ∈ vs, c.NotLeap v) → ∀ {cur : ValueCursor c}, Placed cur.data cur.pos (joinBytes parts) →
      cur.pos + (joinBytes parts).size = cur.data.size → cur.index + vs.length = cur.rows →
      cur.data.size < 2 ^ 64 →
      List.Forall₂ (fun v a => ∃ v', a = .ok v' ∧ c.Kept v v') vs cur.drain := by
  induction encoded with
  | nil =>
    intro _ cur _ _ counted _
    rw [drain, if_neg (by simp at counted; omega)]
    exact .nil
  | @cons v b vs parts enc tail ih =>
    intro notLeap cur placed ends counted fits
    rw [joinBytes_cons] at placed ends
    have first := placed.left
    obtain ⟨v', read, kept⟩ :=
      Codec.decode_encode enc first (by have := first.1; omega) (notLeap v (List.mem_cons_self ..))
    simp only [List.length_cons] at counted
    have step := next_of_decode (by omega) read (fun last => by
      -- At the last row no value is left, so no bytes follow this one.
      obtain rfl : vs = [] := List.eq_nil_of_length_eq_zero (by omega)
      cases tail
      simpa [ByteArray.append_empty] using ends)
    rw [drain, if_pos (by omega), step]
    exact .cons ⟨v', rfl, kept⟩ (ih (fun v mem => notLeap v (List.mem_cons_of_mem _ mem))
      placed.right (by rw [ByteArray.size_append] at ends; simp; omega) (by simp; omega) fits)

end ValueCursor

namespace NullableCursor

variable {c : Codec}

theorem next_of_decode {cur : NullableCursor c} {null : Bool} {v : c.Value} {stop : Nat}
    (row : cur.index < cur.rows) (masked : isNull cur.mask cur.index = .ok null)
    (read : Codec.decode c cur.values cur.pos = .ok v stop) :
    cur.next = (.ok (if null then none else some v),
      { cur with pos := stop, index := cur.index + 1 }) := by
  unfold next
  rw [if_neg (Nat.not_le.mpr row), masked]
  simp only [read]

theorem isNull_nullByte {mask : ByteArray} {row : Nat} {α : Type} {o : Option α}
    (masked : mask[row]? = some (nullByte o)) : isNull mask row = .ok o.isNone := by
  unfold isNull
  rw [masked]
  cases o <;> rfl

/-- A cursor over a null mask and the slots of nullable rows hands out every row: a null for a
null, else what its codec keeps of the value. -/
theorem drain_placed {os : List (Option c.Value)} {parts : List ByteArray}
    (slots : List.Forall₂ c.NullableSlot os parts) :
    (∀ o ∈ os, ∀ v ∈ o, c.NotLeap v) → ∀ {cur : NullableCursor c},
      Placed cur.mask cur.index (maskOf os) → Placed cur.values cur.pos (joinBytes parts) →
      cur.index + os.length = cur.rows → cur.values.size < 2 ^ 64 →
      List.Forall₂ (fun o a => ∃ o', a = .ok o' ∧ Option.Rel c.Kept o o') os cur.drain := by
  induction slots with
  | nil =>
    intro _ cur _ _ counted _
    rw [drain, if_neg (by simp at counted; omega)]
    exact .nil
  | @cons o b os parts slot _ ih =>
    intro notLeap cur masks placed counted fits
    rw [maskOf_cons] at masks
    rw [joinBytes_cons] at placed
    have first := placed.left
    have masked : cur.mask[cur.index]? = some (nullByte o) := by
      have head := masks.getElem? (i := 0) (by
        simp only [ByteArray.size_append, List.size_toByteArray, List.length_singleton]; omega)
      rw [Nat.add_zero, getElem?_append_left (by simp)] at head
      exact head
    -- A null row decodes its placeholder, a value its encoding; either way the slot is used up.
    have decoded : ∃ x, Codec.decode c cur.values cur.pos = .ok x (cur.pos + b.size) ∧
        Option.Rel c.Kept o (if o.isNone then none else some x) := by
      cases o with
      | none =>
        obtain rfl : b = c.placeholder := slot
        obtain ⟨x, read⟩ := Codec.decode_placeholder c first
        exact ⟨x, read, .none⟩
      | some v =>
        obtain ⟨x, read, kept⟩ := Codec.decode_encode slot first (by have := first.1; omega)
          (notLeap (some v) (List.mem_cons_self ..) v rfl)
        exact ⟨x, read, .some kept⟩
    obtain ⟨x, read, kept⟩ := decoded
    simp only [List.length_cons] at counted
    rw [drain, if_pos (by omega), next_of_decode (by omega) (isNull_nullByte masked) read]
    exact .cons ⟨_, rfl, kept⟩ (ih (fun o mem => notLeap o (List.mem_cons_of_mem _ mem))
      (by simpa using masks.right) placed.right (by simp; omega) fits)

end NullableCursor

namespace DictionaryCursor

theorem next_of_lookup {cur : DictionaryCursor} {k : Nat} {s : String}
    (row : cur.index < cur.rows) (key : cur.keyWidth.read cur.keys cur.index = some k)
    (found : cur.dictionary[k]? = some s) :
    cur.next = (.ok s, { cur with index := cur.index + 1 }) := by
  unfold next
  rw [if_neg (Nat.not_le.mpr row)]
  dsimp only
  rw [key]
  dsimp only
  rw [found]

/-- A cursor whose every row's key points at its text hands out the texts. -/
theorem drain_lookup {vs : List String} :
    ∀ {cur : DictionaryCursor}, (∀ i (lt : i < vs.length), ∃ k,
      cur.keyWidth.read cur.keys (cur.index + i) = some k ∧ cur.dictionary[k]? = some vs[i]) →
      cur.index + vs.length = cur.rows → cur.drain = vs.map .ok := by
  induction vs with
  | nil =>
    intro cur _ counted
    rw [drain, if_neg (by simp at counted; omega)]
    rfl
  | cons s vs ih =>
    intro cur lookup counted
    simp only [List.length_cons] at counted
    obtain ⟨k, key, found⟩ := lookup 0 (by simp)
    rw [drain, if_pos (by omega), next_of_lookup (by omega) key found, List.map_cons]
    congr 1
    apply ih _ (by simp; omega)
    intro i lt
    obtain ⟨k, key, found⟩ := lookup (i + 1) (by simp; omega)
    exact ⟨k, by simpa [Nat.add_assoc, Nat.add_comm 1] using key, by simpa using found⟩

end DictionaryCursor

/-! ## Headers -/

namespace BlockReader

variable {r : BlockReader}

/-- A header of fewer than `2 ^ 64`-byte texts, placed at the reader's position, reads back. -/
theorem readHeader_placed {h : ColumnHeader} {rest : ByteArray}
    (left : r.columnsRead < r.columns) (placed : Placed r.bytes r.pos (h.bytes ++ rest))
    (fits : r.bytes.size < 2 ^ 64) :
    r.readHeader = .ok (h, r.pos + h.bytes.size) := by
  have header := placed.left
  rw [ColumnHeader.bytes, writePrefixed_eq_append] at header
  have name := header.left
  have typeName := header.right
  have nameRead := readText_placed (by
    have := name.1
    simp only [size_writePrefixed, String.toUTF8_eq_toByteArray, String.size_toByteArray] at this
    omega) name
  have typeRead := readText_placed (by
    have := typeName.1
    simp only [size_writePrefixed, String.toUTF8_eq_toByteArray, String.size_toByteArray] at this
    omega) typeName
  have size : h.bytes.size = (writePrefixed ByteArray.empty h.name.toUTF8).size +
      (writePrefixed ByteArray.empty h.typeName.toUTF8).size := by
    rw [ColumnHeader.bytes, writePrefixed_eq_append (writePrefixed ByteArray.empty _),
      ByteArray.size_append]
  unfold readHeader
  rw [if_neg (Nat.not_le.mpr left)]
  dsimp only
  rw [bind_ok_of_ok nameRead, bind_ok_of_ok typeRead, pure_apply, size, Nat.add_assoc]

/-- A header that names the requested type in its canonical text opens the column. -/
theorem openColumn_of_readHeader {expected : ColumnType} {name : String} {start : Nat}
    (read : r.readHeader = .ok (⟨name, expected.render⟩, start)) :
    r.openColumn expected = .ok (name, start) := by
  unfold openColumn
  rw [read]
  simp only [bind, Except.bind, beq_self_eq_true, Bool.true_or, if_true]
  rfl

/-- The reader after a laid-out column: past the segment, with one more column read. -/
theorem advance_segment {header payload : ByteArray} :
    r.advance (r.pos + header.size) payload.size = r.advance r.pos (header ++ payload).size := by
  rw [advance, advance, ByteArray.size_append, Nat.add_assoc]

/-- The rest of the block after a laid-out column's header is its payload, then what follows. -/
theorem tail_segment {header payload : ByteArray} (placed : Placed r.bytes r.pos (header ++ payload)) :
    r.tail (r.pos + header.size) =
      payload ++ r.bytes.extract (r.pos + header.size + payload.size) r.bytes.size :=
  placed.right.extract_eq

theorem size_tail_lt {start : Nat} (fits : r.bytes.size < 2 ^ 64) : (r.tail start).size < 2 ^ 64 := by
  rw [tail, ByteArray.size_extract]
  omega

/-- A column of values laid out by its writer is taken whole by the reader for its codec, and
read back when no value is a leap second. -/
theorem nextColumn_laid {name : String} {c : Codec} {vs : List c.Value} {segment : ByteArray}
    (left : r.columnsRead < r.columns) (counted : vs.length = r.rows)
    (laid : (ColumnData.value name c vs).Laid segment)
    (placed : Placed r.bytes r.pos segment) (fits : r.bytes.size < 2 ^ 64) :
    ∃ cur, r.nextColumn c = .ok (cur, r.advance r.pos segment.size) ∧ cur.name = name ∧
      ((∀ v ∈ vs, c.NotLeap v) →
        List.Forall₂ (fun v a => ∃ v', a = .ok v' ∧ c.Kept v v') vs cur.drain) := by
  obtain ⟨payload, rfl, parts, encoded, rfl⟩ := laid
  dsimp only [ColumnData.name, ColumnData.spec, ColumnSpec.columnType] at placed ⊢
  have opened := openColumn_of_readHeader (readHeader_placed left placed fits)
  have tail := tail_segment placed
  have tailFits := tail ▸ size_tail_lt fits
  have payloadFits : (joinBytes parts).size < 2 ^ 64 := by
    rw [ByteArray.size_append] at tailFits
    omega
  have measured := span_joined (fills_of_encoded encoded) _ tailFits
  rw [← encoded.length_eq, counted] at measured
  refine ⟨⟨name, joinBytes parts, 0, r.rows, 0⟩, ?_, rfl, ?_⟩
  · simp only [nextColumn_eq, opened, tail, measured, bind, Except.bind, Except.within_ok, pure,
      Except.pure, ByteArray.extract_append_eq_left rfl, advance_segment]
  · exact fun notLeap => ValueCursor.drain_placed encoded notLeap (Placed.whole _)
      (Nat.zero_add _) (by rw [Nat.zero_add, ← counted]) payloadFits

/-- A column of nullable values laid out by its writer is taken whole by the reader for its codec,
the mask and then the slots under every row, and read back when no value is a leap second. -/
theorem nextNullable_laid {name : String} {c : Codec} {os : List (Option c.Value)}
    {segment : ByteArray} (left : r.columnsRead < r.columns) (counted : os.length = r.rows)
    (laid : (ColumnData.nullable name c os).Laid segment)
    (placed : Placed r.bytes r.pos segment) (fits : r.bytes.size < 2 ^ 64) :
    ∃ cur, r.nextNullable c = .ok (cur, r.advance r.pos segment.size) ∧ cur.name = name ∧
      ((∀ o ∈ os, ∀ v ∈ o, c.NotLeap v) →
        List.Forall₂ (fun o a => ∃ o', a = .ok o' ∧ Option.Rel c.Kept o o') os cur.drain) := by
  obtain ⟨payload, rfl, parts, slots, rfl⟩ := laid
  dsimp only [ColumnData.name, ColumnData.spec, ColumnSpec.columnType] at placed ⊢
  have opened := openColumn_of_readHeader (readHeader_placed left placed fits)
  have tail := tail_segment placed
  have tailFits := tail ▸ size_tail_lt fits
  generalize r.bytes.extract _ r.bytes.size = rest at tail tailFits
  have maskSize : (maskOf os).size = r.rows := by simp [maskOf, counted]
  simp only [ByteArray.size_append, maskSize] at tailFits
  -- The mask is one byte per row; the slots follow it.
  have masked : Codec.fixedSpan (maskOf os ++ joinBytes parts ++ rest) r.rows 1 = .ok r.rows :=
    Codec.fixedSpan_eq_ok.mpr ⟨(Nat.mul_one _).symm, by unfold Codec.maxLength; omega,
      by simp only [ByteArray.size_append, maskSize]; omega⟩
  have values : (maskOf os ++ joinBytes parts ++ rest).extract r.rows
      (maskOf os ++ joinBytes parts ++ rest).size = joinBytes parts ++ rest := by
    rw [← maskSize, ByteArray.append_assoc, extract_append_size]
  have measured := span_joined (fills_of_slots slots) rest
    (by rw [ByteArray.size_append]; omega)
  rw [← slots.length_eq, counted] at measured
  have maskCut : (maskOf os ++ joinBytes parts ++ rest).extract 0 r.rows = maskOf os := by
    rw [ByteArray.append_assoc, ByteArray.extract_append_eq_left maskSize.symm]
  have valuesCut := (Placed.middle (maskOf os) (joinBytes parts) rest).2
  rw [maskSize] at valuesCut
  refine ⟨⟨name, maskOf os, joinBytes parts, 0, r.rows, 0⟩, ?_, rfl, ?_⟩
  · simp only [nextNullable_eq, opened, tail, masked, values, measured, bind, Except.bind,
      Except.within_ok, pure, Except.pure, maskCut, valuesCut]
    rw [← maskSize, ← ByteArray.size_append, advance_segment]
  · exact fun notLeap => NullableCursor.drain_placed slots notLeap (Placed.whole _)
      (Placed.whole _) (by rw [Nat.zero_add, counted]) (show (joinBytes parts).size < 2 ^ 64 by omega)

/-- A dictionary column laid out by its writer is read back whole: every row's text. -/
theorem nextDictionary_laid {name : String} {vs : List String} {segment : ByteArray}
    (left : r.columnsRead < r.columns) (counted : vs.length = r.rows)
    (laid : (ColumnData.dictionary name vs).Laid segment)
    (placed : Placed r.bytes r.pos segment) (fits : r.bytes.size < 2 ^ 64) :
    ∃ cur, r.nextDictionary = .ok (cur, r.advance r.pos segment.size) ∧ cur.name = name ∧
      cur.drain = vs.map .ok := by
  obtain ⟨payload, rfl, scratch, holds, encoded⟩ := laid
  dsimp only [ColumnData.name, ColumnData.spec, ColumnSpec.columnType] at placed ⊢
  have opened := openColumn_of_readHeader (readHeader_placed left placed fits)
  have tail := tail_segment placed
  have tailFits := tail ▸ size_tail_lt fits
  generalize r.bytes.extract _ r.bytes.size = rest at tail tailFits
  rw [ByteArray.size_append] at tailFits
  have inside : ∀ k ∈ scratch.keys.toList, k < scratch.texts.toList.length := fun k mem => by
    rw [Array.length_toList]
    exact holds.key_lt mem
  have fewer : scratch.texts.toList.length ≤ scratch.keys.toList.length := by
    simpa using holds.size_le
  obtain ⟨textsFit, countFits, keysFit⟩ :=
    Dictionary.fits_of_encode inside fewer encoded (by omega)
  obtain ⟨payload', encoded', d, decoded, consumed, dict, keyRead⟩ :=
    Dictionary.decode_encode inside textsFit countFits keysFit rest
  obtain rfl : payload' = payload := Except.ok.inj (encoded'.symm.trans encoded)
  have rowsEq : scratch.keys.toList.length = r.rows := by
    rw [Array.length_toList, holds.size_keys, counted]
  rw [rowsEq] at decoded
  refine ⟨⟨name, d.dictionary, d.keys, d.keyWidth, r.rows, 0⟩, ?_, rfl, ?_⟩
  · simp only [nextDictionary_eq, opened, tail, decoded, bind, Except.bind, Except.within_ok, pure,
      Except.pure, consumed, advance_segment]
  · apply DictionaryCursor.drain_lookup _ (by rw [Nat.zero_add, counted])
    intro i lt
    obtain ⟨k, key, found⟩ := holds.lookup i lt
    have atKeys : i < scratch.keys.toList.length := by
      rw [Array.length_toList, holds.size_keys]
      exact lt
    refine ⟨k, ?_, ?_⟩
    · rw [Nat.zero_add, keyRead i atKeys, Array.getElem_toList,
        (Array.getElem?_eq_some_iff.mp key).2]
    · rw [dict (List.ne_nil_of_length_pos (by omega)), Array.toArray_toList]
      exact found

end BlockReader

/-! ## Columns read back -/

/-- What a written row is read back as: a value its codec keeps of it, a null, or the same
text. -/
inductive Cell.Kept : Cell → Cell → Prop
  | value {c : Codec} {v v' : c.Value} : c.Kept v v' → Cell.Kept (.value c v) (.value c v')
  | null : Cell.Kept .null .null
  | text (s : String) : Cell.Kept (.text s) (.text s)

theorem Cell.kept_ofOption {c : Codec} {o o' : Option c.Value} (kept : Option.Rel c.Kept o o') :
    (Cell.ofOption c o).Kept (Cell.ofOption c o') := by
  cases kept with
  | none => exact .null
  | some kept => exact .value kept

namespace ColumnData

def cells : ColumnData → List Cell
  | .value _ c rows => rows.map (.value c)
  | .nullable _ c rows => rows.map (Cell.ofOption c)
  | .dictionary _ rows => rows.map .text

/-- Answers that give back every row written, in order, each as what its column keeps of it. -/
def ReadsBack (col : ColumnData) (answers : List (Except Error Cell)) : Prop :=
  List.Forall₂ (fun cell answer => ∃ cell', answer = .ok cell' ∧ cell.Kept cell') col.cells
    answers

/-- A cursor gives a column back: the column's name, and every row written as its column keeps
it. -/
def ReadBackBy (col : ColumnData) (cur : OpenCursor) : Prop :=
  cur.name = col.name ∧ col.ReadsBack cur.drain

/-- A column laid out by its writer, at the reader's position in a block of fewer than `2 ^ 64`
bytes, is opened by the reader for its layout, which moves past it. When every row is one the
reader gives back, the cursor gives the column back. -/
theorem openCursor_laid {r : BlockReader} {col : ColumnData} {segment : ByteArray}
    (left : r.columnsRead < r.columns) (counted : col.length = r.rows)
    (laid : col.Laid segment) (placed : Placed r.bytes r.pos segment)
    (fits : r.bytes.size < 2 ^ 64) :
    ∃ cur, (ReadSession.start r).openCursor col.spec =
        .ok (cur, .start (r.advance r.pos segment.size)) ∧
      (col.Writable → col.ReadBackBy cur) := by
  cases col with
  | value name c vs =>
    obtain ⟨cur, run, named, rows⟩ := r.nextColumn_laid left counted laid placed fits
    refine ⟨.value c cur, ?_, fun writable => ⟨named, ?_⟩⟩
    · simp only [spec, ReadSession.openCursor, ReadSession.start, BlockReader.result_takeCursor_value, run,
        Except.map]
    · simp only [ReadsBack, cells, OpenCursor.drain, List.forall₂_map_left_iff,
        List.forall₂_map_right_iff]
      refine (rows fun v mem => (writable v mem).2).imp fun v a found => ?_
      obtain ⟨v', answer, kept⟩ := found
      exact ⟨.value c v', by rw [answer]; rfl, .value kept⟩
  | nullable name c os =>
    obtain ⟨cur, run, named, rows⟩ := r.nextNullable_laid left counted laid placed fits
    refine ⟨.nullable c cur, ?_, fun writable => ⟨named, ?_⟩⟩
    · simp only [spec, ReadSession.openCursor, ReadSession.start, BlockReader.result_takeCursor_nullable, run,
        Except.map]
    · simp only [ReadsBack, cells, OpenCursor.drain, List.forall₂_map_left_iff,
        List.forall₂_map_right_iff]
      refine (rows fun o mem v some => (writable o mem v some).2).imp fun o a found => ?_
      obtain ⟨o', answer, kept⟩ := found
      exact ⟨Cell.ofOption c o', by rw [answer]; rfl, Cell.kept_ofOption kept⟩
  | dictionary name vs =>
    obtain ⟨cur, run, named, drained⟩ := r.nextDictionary_laid left counted laid placed fits
    refine ⟨.dictionary cur, ?_, fun _ => ⟨named, ?_⟩⟩
    · simp only [spec, ReadSession.openCursor, ReadSession.start, BlockReader.result_takeCursor_dictionary, run,
        Except.map]
    · simp only [ReadsBack, cells, OpenCursor.drain, drained, List.map_map,
        List.forall₂_map_left_iff, List.forall₂_map_right_iff]
      exact List.forall₂_same.mpr fun s _ => ⟨.text s, rfl, .text s⟩

end ColumnData

end NativeBlock
