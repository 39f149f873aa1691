import NativeBlock.Proofs.InBounds
import NativeBlock.Proofs.ColumnRead
import NativeBlock.Proofs.DictionaryLayout
import NativeBlock.Proofs.CursorProtocol

/-!
# Rows where the measure puts them

A column's rows are measured by `Codec.span`, which does not decode them, and read by
`Codec.decode`, one at a time; each has code of its own. Both find the same rows (`RowAt`): a
slot of the codec's width, or a varint length in the grammar of `VarintGroups` and that many
bytes after it.

* `span_eq_ok_iff`: measuring `k` rows succeeds exactly on `k` rows laid out from the start of
  the buffer, whose total, for a codec of constant width, is a 64-bit length;
* `decode_of_rowAt`: decoding at the start of a row reads a value and stops at the row's end, or
  fails on the value itself (`RowFault`): text that is not UTF-8, or a date or an instant outside
  the calendar. It never runs out of bytes, and numbers, addresses and decimals read from any
  bytes of their width;
* `ValueCursor.Aligned`, `NullableCursor.Aligned`: the cursors a reader hands out stand where the
  measure puts the row they are at, through any number of requests.

Main statement: `decoding_follows_span`. So the check a value cursor makes after its last row,
that every byte was used, never fails on a cursor the reader hands out.
-/

namespace NativeBlock

/-- A prefix of the bytes after `start` agrees with all of them below any bound. -/
theorem agreeBelow_extract_from (n start stop : Nat) (data : ByteArray) :
    AgreeBelow n (data.extract start data.size) (data.extract start stop) := by
  intro i _ inside
  have whole : i < (data.extract start data.size).size := by
    simp only [ByteArray.size_extract] at inside ⊢
    omega
  rw [getElem?_extract inside, getElem?_extract whole]

namespace Codec

open Wire

variable {c : Codec} {data : ByteArray}

/-! ## Rows laid out -/

/-- The row of codec `c` that starts at `pos` ends at `stop`, inside the buffer: a slot of the
codec's width, or a varint length and that many bytes after it. -/
def RowAt (c : Codec) (data : ByteArray) (pos stop : Nat) : Prop :=
  match c.slotWidth with
  | some w => stop = pos + w ∧ stop ≤ data.size
  | none => ∃ gs : List UInt8, Placed data pos gs.toByteArray ∧ VarintGroups 0 gs ∧
      stop = pos + gs.length + groupsValue gs ∧ stop ≤ data.size

/-- `k` rows one after another inside the buffer, from `pos` to `stop`. -/
def RowsAt (c : Codec) (data : ByteArray) : Nat → Nat → Nat → Prop
  | 0, pos, stop => stop = pos ∧ pos ≤ data.size
  | k + 1, pos, stop => ∃ mid, c.RowAt data pos mid ∧ c.RowsAt data k mid stop

theorem rowAt_of_slotWidth {w pos stop : Nat} (width : c.slotWidth = some w) :
    c.RowAt data pos stop ↔ stop = pos + w ∧ stop ≤ data.size := by
  unfold RowAt
  rw [width]

/-- A text row is the varint the reader takes at its start and that many bytes after it. -/
theorem rowAt_string_iff {pos stop : Nat} :
    Codec.string.RowAt data pos stop ↔
      ∃ len next, readUVarint data pos = .ok len next ∧ stop = next + len ∧ stop ≤ data.size := by
  constructor
  · rintro ⟨gs, placed, groups, rfl, within⟩
    exact ⟨_, _, readUVarint_eq_ok_iff.mpr ⟨gs, placed, groups, rfl, rfl⟩, rfl, within⟩
  · rintro ⟨len, next, length, rfl, within⟩
    obtain ⟨gs, placed, groups, rfl, rfl⟩ := readUVarint_eq_ok_iff.mp length
    exact ⟨gs, placed, groups, rfl, within⟩

theorem RowAt.le {pos stop : Nat} (row : c.RowAt data pos stop) : pos ≤ stop ∧ stop ≤ data.size := by
  unfold RowAt at row
  split at row
  · obtain ⟨rfl, within⟩ := row
    exact ⟨Nat.le_add_right _ _, within⟩
  · obtain ⟨gs, -, -, rfl, within⟩ := row
    exact ⟨by omega, within⟩

/-- Rows laid out one after another split at any row. -/
theorem rowsAt_add (i j : Nat) {pos stop : Nat} :
    c.RowsAt data (i + j) pos stop ↔ ∃ mid, c.RowsAt data i pos mid ∧ c.RowsAt data j mid stop := by
  induction i generalizing pos with
  | zero =>
    constructor
    · intro rows
      refine ⟨pos, ⟨rfl, ?_⟩, by rwa [Nat.zero_add] at rows⟩
      cases j with
      | zero => exact rows.2
      | succ j =>
        obtain ⟨mid, row, -⟩ := rows
        exact Nat.le_trans row.le.1 row.le.2
    · rintro ⟨mid, ⟨rfl, -⟩, rows⟩
      rwa [Nat.zero_add]
  | succ i ih =>
    rw [Nat.add_right_comm]
    constructor
    · rintro ⟨mid, row, rest⟩
      obtain ⟨mid', front, back⟩ := ih.mp rest
      exact ⟨mid', ⟨mid, row, front⟩, back⟩
    · rintro ⟨mid', ⟨mid, row, front⟩, back⟩
      exact ⟨mid, row, ih.mpr ⟨mid', front, back⟩⟩

/-- Rows of constant width `w` end `k` slots after they start, inside the buffer. -/
theorem rowsAt_of_slotWidth {w : Nat} (width : c.slotWidth = some w) (k : Nat) {pos stop : Nat} :
    c.RowsAt data k pos stop ↔ stop = pos + k * w ∧ stop ≤ data.size := by
  induction k generalizing pos with
  | zero =>
    simp only [RowsAt, Nat.zero_mul, Nat.add_zero]
    constructor
    · rintro ⟨rfl, within⟩
      exact ⟨rfl, within⟩
    · rintro ⟨rfl, within⟩
      exact ⟨rfl, within⟩
  | succ k ih =>
    simp only [RowsAt, rowAt_of_slotWidth width, ih, Nat.succ_mul]
    constructor
    · rintro ⟨mid, ⟨rfl, -⟩, rfl, within⟩
      exact ⟨by omega, within⟩
    · rintro ⟨rfl, within⟩
      exact ⟨pos + w, ⟨rfl, by omega⟩, by omega, within⟩

theorem RowsAt.le {k pos stop : Nat} (rows : c.RowsAt data k pos stop) :
    pos ≤ stop ∧ stop ≤ data.size := by
  induction k generalizing pos with
  | zero =>
    obtain ⟨rfl, within⟩ := rows
    exact ⟨Nat.le_refl _, within⟩
  | succ k ih =>
    obtain ⟨mid, row, rest⟩ := rows
    exact ⟨Nat.le_trans row.le.1 (ih rest).1, (ih rest).2⟩

/-! ## The measure finds the rows -/

/-- The measure of the texts from row `row` on, started inside the buffer, succeeds exactly on as
many texts laid out. -/
theorem textSpanFrom_eq_ok_iff (rows row pos stop : Nat) :
    pos ≤ data.size →
      (textSpanFrom data rows row pos = .ok stop ↔ Codec.string.RowsAt data (rows - row) pos stop) := by
  fun_induction textSpanFrom data rows row pos with
  | case1 row pos more e after failed =>
    intro _
    obtain ⟨k, left⟩ : ∃ k, rows - row = k + 1 := ⟨rows - row - 1, by omega⟩
    rw [left]
    constructor
    · intro run
      cases run
    · rintro ⟨mid, row, -⟩
      obtain ⟨len, next, length, -⟩ := rowAt_string_iff.mp row
      rw [failed] at length
      cases length
  | case2 row pos more len next length fits ih =>
    intro _
    rw [ih fits, show rows - row = rows - (row + 1) + 1 by omega]
    constructor
    · intro rest
      exact ⟨next + len, rowAt_string_iff.mpr ⟨len, next, length, rfl, fits⟩, rest⟩
    · rintro ⟨mid, row, rest⟩
      obtain ⟨len', next', length', rfl, -⟩ := rowAt_string_iff.mp row
      rw [length] at length'
      injection length' with sameLen sameNext
      rwa [sameLen, sameNext]
  | case3 row pos more len next length overrun =>
    intro _
    obtain ⟨k, left⟩ : ∃ k, rows - row = k + 1 := ⟨rows - row - 1, by omega⟩
    rw [left]
    constructor
    · intro run
      cases run
    · rintro ⟨mid, row, -⟩
      obtain ⟨len', next', length', rfl, within⟩ := rowAt_string_iff.mp row
      rw [length] at length'
      injection length' with sameLen sameNext
      rw [← sameLen, ← sameNext] at within
      exact absurd within overrun
  | case4 row pos done =>
    intro inside
    rw [show rows - row = 0 by omega]
    constructor
    · intro run
      cases run
      exact ⟨rfl, inside⟩
    · rintro ⟨rfl, -⟩
      rfl

/-- Measuring `k` rows succeeds exactly when `k` rows are laid out from the start of the buffer
and, for a codec of constant width, their total is a 64-bit length. The measure is where they
end. -/
theorem span_eq_ok_iff {k n : Nat} :
    span c data k = .ok n ↔ c.RowsAt data k 0 n ∧ ∀ w, c.slotWidth = some w → k * w ≤ maxLength := by
  unfold span
  cases width : c.slotWidth with
  | some w =>
    rw [fixedSpan_eq_ok, rowsAt_of_slotWidth width, Nat.zero_add]
    simp only [Option.some.injEq, forall_eq']
    constructor
    · rintro ⟨rfl, fits, within⟩
      exact ⟨⟨rfl, within⟩, fits⟩
    · rintro ⟨⟨rfl, within⟩, fits⟩
      exact ⟨rfl, fits, within⟩
  | none =>
    obtain rfl := eq_string_of_slotWidth width
    simp only [textSpanFrom_eq_ok_iff k 0 0 n (Nat.zero_le _), Nat.sub_zero, reduceCtorEq,
      false_implies, implies_true, and_true]

theorem span_zero (c : Codec) (data : ByteArray) : span c data 0 = .ok 0 :=
  span_eq_ok_iff.mpr ⟨⟨rfl, Nat.zero_le _⟩, fun w _ => by rw [Nat.zero_mul]; decide⟩

/-- Row `i` of those the measure takes lies between the measures of the first `i` and the first
`i + 1` rows, and the rest follow it up to where the measure of all of them ends. -/
theorem span_row {rows n i : Nat} (run : span c data rows = .ok n) (lt : i < rows) :
    ∃ start stop, span c data i = .ok start ∧ span c data (i + 1) = .ok stop ∧
      c.RowAt data start stop ∧ c.RowsAt data (rows - (i + 1)) stop n := by
  obtain ⟨laid, fits⟩ := span_eq_ok_iff.mp run
  have split : rows = i + (1 + (rows - (i + 1))) := by omega
  rw [split] at laid
  obtain ⟨start, front, rest⟩ := (rowsAt_add i _).mp laid
  obtain ⟨stop, one, back⟩ := (rowsAt_add 1 _).mp rest
  obtain ⟨stop', row, rfl, -⟩ := one
  have fewer (k : Nat) (le : k ≤ rows) : ∀ w, c.slotWidth = some w → k * w ≤ maxLength :=
    fun w width => Nat.le_trans (Nat.mul_le_mul_right w le) (fits w width)
  have firstMore : c.RowsAt data (i + 1) 0 stop :=
    (rowsAt_add i 1).mpr ⟨start, front, stop, row, rfl, row.le.2⟩
  exact ⟨start, stop, span_eq_ok_iff.mpr ⟨front, fewer i (by omega)⟩,
    span_eq_ok_iff.mpr ⟨firstMore, fewer (i + 1) lt⟩, row, back⟩

/-- A measure taken on a buffer is the same on any prefix of it that holds the rows measured. -/
theorem span_extract {k a n : Nat} (run : span c data k = .ok a) (le : a ≤ n) :
    span c (data.extract 0 n) k = .ok a := by
  obtain ⟨within, agreeing⟩ := span_selfDelimiting c k data a run
  exact (agreeing _ (agreeBelow_extract a n data)).1
    (by simp only [id, ByteArray.size_extract] at within ⊢; omega)

/-- A measure taken on a prefix of a buffer is the same on the whole buffer. -/
theorem span_of_extract {k a n : Nat} (run : span c (data.extract 0 n) k = .ok a) :
    span c data k = .ok a := by
  obtain ⟨within, agreeing⟩ := span_selfDelimiting c k _ a run
  have agree : AgreeBelow a (data.extract 0 n) data := fun j lt _ => by
    rw [getElem?_extract (Nat.lt_of_lt_of_le lt within), Nat.zero_add]
  simp only [ByteArray.size_extract] at within
  exact (agreeing data agree).1 (by omega)

/-! ## What decoding a row can meet -/

/-- The failures left to codec `c` on a row at `pos` whose bytes are all there: text that is not
UTF-8, or a date or an instant outside the calendar. Numbers, booleans, addresses and decimals
read from any bytes of their width. -/
def RowFault : Codec → Nat → Error → Prop
  | .string, pos, e | .fixedString .., pos, e =>
    e = .framing s!"invalid UTF-8 string at byte offset {pos}"
  | .date, _, e | .date32, _, e | .dateTime64 .., _, e => ∃ m, e = .numericRange m
  | _, _, _ => False

theorem dateOfDays_error {n : Int} {e : Error} (run : dateOfDays n = .error e) :
    ∃ m, e = .numericRange m := by
  unfold dateOfDays at run
  split at run
  · cases run
  · cases run
    exact ⟨_, rfl⟩

theorem ofTicks_error {ticks : Int} {scale : Nat} {e : Error}
    (run : Instant.ofTicks ticks scale = .error e) : ∃ m, e = .numericRange m := by
  unfold Instant.ofTicks Instant.ticksPerSecond at run
  split at run
  · cases run
    exact ⟨_, rfl⟩
  · dsimp only [bind, Except.bind] at run
    split at run
    · cases run
    · cases run
      exact ⟨_, rfl⟩

theorem slotText_error {p : Nat} {bs : List UInt8} {e : Error} (run : slotText p bs = .error e) :
    e = .framing s!"invalid UTF-8 string at byte offset {p}" := by
  unfold slotText at run
  dsimp only at run
  split at run
  · cases run
  · cases run
    rfl

/-- A word of a decimal width's bytes, read in two's complement, is a signed word of the width. -/
theorem fits_toSigned {w : DecimalWidth} {n : Nat} (below : n < 256 ^ w.bytes) :
    w.Fits (toSigned w.bytes n) := by
  have pos := DecimalWidth.bytes_pos w
  obtain ⟨H, half⟩ : ∃ H, 2 ^ (8 * w.bytes - 1) = H := ⟨_, rfl⟩
  have whole : 2 ^ (8 * w.bytes) = 2 * H := by
    rw [← half, ← Nat.pow_succ']
    congr 1
    omega
  have word : 256 ^ w.bytes = 2 * H := by
    rw [← whole, Nat.pow_mul]
  have wholeInt : (2 : Int) ^ (8 * w.bytes) = ((2 * H : Nat) : Int) := by
    rw [← whole]
    simp
  have halfInt : (2 : Int) ^ (8 * w.bytes - 1) = (H : Int) := by
    rw [← half]
    simp
  unfold DecimalWidth.Fits DecimalWidth.bound toSigned
  simp only [Nat.pow_eq, Int.pow_eq]
  rw [half, wholeInt, halfInt]
  rw [word] at below
  split <;> omega

/-- A wide decimal's slot reads as a fixed decimal whatever its bytes. -/
theorem fixedOfSlot_eq_ok {w : DecimalWidth} (scale : Nat) {bs : List UInt8}
    (size : bs.length = w.bytes) : ∃ d, fixedOfSlot w scale bs = .ok d := by
  have below := decodeLE_lt bs
  rw [size] at below
  unfold fixedOfSlot FixedDecimal.ofInt?
  rw [dif_pos (fits_toSigned below)]
  exact ⟨_, rfl⟩

/-- A slot inside the buffer is read whole: the position moves past it with the value, or the
read fails as the interpretation of its bytes does. -/
theorem slot_reads {α : Type} {width pos : Nat} {f : List UInt8 → Except Error α}
    {Fault : Error → Prop} (inside : pos + width ≤ data.size)
    (faults : ∀ bs : List UInt8, bs.length = width → ∀ e, f bs = .error e → Fault e) :
    (∃ v, slot data width f pos = .ok v (pos + width)) ∨
      ∃ e p, slot data width f pos = .error e p ∧ Fault e := by
  have length : (data.extract pos (pos + width)).toList.length = width := by
    rw [toList_eq_data_toList, Array.length_toList, ByteArray.size_data, ByteArray.size_extract]
    omega
  unfold slot
  rw [if_pos inside]
  cases read : f (data.extract pos (pos + width)).toList with
  | ok v => exact .inl ⟨v, rfl⟩
  | error e => exact .inr ⟨e, pos, rfl, faults _ length e read⟩

/-- A text row is read whole: its text, or the refusal of bytes that are not UTF-8. -/
theorem readText_of_rowAt {pos stop : Nat} (row : Codec.string.RowAt data pos stop) :
    (∃ s, readText data pos = .ok s stop) ∨
      ∃ e p, readText data pos = .error e p ∧ Codec.string.RowFault pos e := by
  obtain ⟨gs, placed, groups, rfl, within⟩ := row
  obtain ⟨raw, rawIs⟩ : ∃ raw, raw =
      data.extract (pos + gs.length) (pos + gs.length + groupsValue gs) := ⟨_, rfl⟩
  have rawSize : raw.size = groupsValue gs := by
    rw [rawIs, ByteArray.size_extract]
    omega
  have read : readPrefixed data pos = .ok raw (pos + gs.length + groupsValue gs) :=
    Dictionary.readPrefixed_eq_ok_iff.mpr ⟨gs, placed, groups, rawSize.symm,
      ⟨by omega, by rw [rawSize, rawIs]⟩, by rw [rawSize]⟩
  unfold readText
  rw [bind_ok_of_ok (get_apply pos), bind_ok_of_ok read]
  cases decoded : String.fromUTF8? raw with
  | some s => exact .inl ⟨s, rfl⟩
  | none => exact .inr ⟨_, _, rfl, rfl⟩

/-- Decoding at the start of a row reads the row's value and stops at its end, or fails on the
value itself. -/
theorem decode_of_rowAt {pos stop : Nat} (row : c.RowAt data pos stop) :
    (∃ v, decode c data pos = .ok v stop) ∨
      ∃ e p, decode c data pos = .error e p ∧ c.RowFault pos e := by
  -- Every codec but `String` reads a slot; what its interpretation can refuse is the fault.
  cases c with
  | string => exact readText_of_rowAt row
  | fixedString n _ _ =>
    obtain ⟨rfl, inside⟩ := (rowAt_of_slotWidth rfl).mp row
    simp only [decode]
    exact slot_reads inside fun _ _ _ failed => slotText_error failed
  | date =>
    obtain ⟨rfl, inside⟩ := (rowAt_of_slotWidth rfl).mp row
    simp only [decode]
    exact slot_reads inside fun _ _ _ failed => dateOfDays_error failed
  | date32 =>
    obtain ⟨rfl, inside⟩ := (rowAt_of_slotWidth rfl).mp row
    simp only [decode]
    exact slot_reads inside fun _ _ _ failed => dateOfDays_error failed
  | dateTime64 scale zone _ _ =>
    obtain ⟨rfl, inside⟩ := (rowAt_of_slotWidth rfl).mp row
    simp only [decode]
    exact slot_reads inside fun _ _ _ failed => ofTicks_error failed
  | decimal storage precision scale width scaleLe =>
    obtain ⟨rfl, inside⟩ := (rowAt_of_slotWidth rfl).mp row
    -- A narrow decimal's precision, and so its scale, is far below the 28 places of `Decimal96`.
    have stored := DecimalWidth.le_maxPrecision width
    cases storage with
    | d32 =>
      simp only [decode]
      refine slot_reads inside fun bs size e failed => ?_
      obtain ⟨d, read, -⟩ := decimal96OfSlot_eq_ok (show DecimalWidth.d32.bytes ≤ 8 by decide)
        (show scale ≤ 28 by simp only [DecimalWidth.maxPrecision] at stored; omega) size
      rw [read] at failed
      cases failed
    | d64 =>
      simp only [decode]
      refine slot_reads inside fun bs size e failed => ?_
      obtain ⟨d, read, -⟩ := decimal96OfSlot_eq_ok (show DecimalWidth.d64.bytes ≤ 8 by decide)
        (show scale ≤ 28 by simp only [DecimalWidth.maxPrecision] at stored; omega) size
      rw [read] at failed
      cases failed
    | d128 =>
      simp only [decode]
      refine slot_reads inside fun bs size e failed => ?_
      obtain ⟨d, read⟩ := fixedOfSlot_eq_ok scale (show bs.length = DecimalWidth.d128.bytes from size)
      rw [read] at failed
      cases failed
    | d256 =>
      simp only [decode]
      refine slot_reads inside fun bs size e failed => ?_
      obtain ⟨d, read⟩ := fixedOfSlot_eq_ok scale (show bs.length = DecimalWidth.d256.bytes from size)
      rw [read] at failed
      cases failed
  | _ =>
    obtain ⟨rfl, inside⟩ := (rowAt_of_slotWidth rfl).mp row
    simp only [decode]
    refine slot_reads inside fun bs _ e failed => ?_
    cases failed

/-- Every row the measure takes is read from where the measure of the rows before it ends to
where its own ends, in the bytes the measure covers, unless its value is refused. -/
theorem decode_row_of_span {rows n i : Nat} (run : span c data rows = .ok n) (lt : i < rows) :
    ∃ start stop, span c data i = .ok start ∧ span c data (i + 1) = .ok stop ∧
      ((∃ v, decode c (data.extract 0 n) start = .ok v stop) ∨
        ∃ e p, decode c (data.extract 0 n) start = .error e p ∧ c.RowFault start e) := by
  obtain ⟨start, stop, front, next, row, -⟩ := span_row (span_extract run (Nat.le_refl n)) lt
  exact ⟨start, stop, span_of_extract front, span_of_extract next, decode_of_rowAt row⟩

end Codec

/-! ## Cursors -/

namespace ValueCursor

variable {codec : Codec}

theorem next_of_decode_error {cur : ValueCursor codec} {e : Error} {p : Nat}
    (row : cur.index < cur.rows) (read : Codec.decode codec cur.data cur.pos = .error e p) :
    cur.next = (.error (e.within (rowPlace cur.name cur.index)), { cur with pos := p, index := cur.rows }) := by
  unfold next
  rw [if_neg (Nat.not_le.mpr row)]
  simp only [read]

/-- A cursor whose bytes are exactly the rows it hands out, as its codec measures them, and which
stands where the measure puts the row it is at. -/
structure Aligned (c : ValueCursor codec) : Prop where
  index_le : c.index ≤ c.rows
  span_rows : Codec.span codec c.data c.rows = .ok c.data.size
  span_index : c.index < c.rows → Codec.span codec c.data c.index = .ok c.pos

/-- A request on a row left reads the row and moves to where the measure puts the next one, or
fails on the row's value and ends the column. The check that the last row used every byte never
fails, since the measure of all the rows is the size of the bytes. -/
theorem Aligned.next_eq {c : ValueCursor codec} (aligned : c.Aligned) (more : c.index < c.rows) :
    ∃ stop, Codec.span codec c.data (c.index + 1) = .ok stop ∧
      ((∃ v, c.next = (.ok v, { c with pos := stop, index := c.index + 1 })) ∨
        ∃ e p, codec.RowFault c.pos e ∧
          c.next = (.error (e.within (rowPlace c.name c.index)), { c with pos := p, index := c.rows })) := by
  obtain ⟨start, stop, front, next, row, -⟩ := Codec.span_row aligned.span_rows more
  obtain rfl : start = c.pos := Except.ok.inj (front.symm.trans (aligned.span_index more))
  have used : c.index + 1 = c.rows → stop = c.data.size := fun last => by
    rw [last, aligned.span_rows] at next
    exact (Except.ok.inj next).symm
  refine ⟨stop, next, ?_⟩
  rcases Codec.decode_of_rowAt row with ⟨v, decoded⟩ | ⟨e, p, decoded, fault⟩
  · exact .inl ⟨v, next_of_decode more decoded used⟩
  · exact .inr ⟨e, p, fault, next_of_decode_error more decoded⟩

/-- A request keeps a cursor aligned: the row it reads ends where the measure puts the next. -/
theorem Aligned.next {c : ValueCursor codec} (aligned : c.Aligned) : c.next.2.Aligned := by
  by_cases more : c.index < c.rows
  · obtain ⟨stop, next, ⟨v, moved⟩ | ⟨e, p, -, ended⟩⟩ := aligned.next_eq more
    · rw [moved]
      exact ⟨more, aligned.span_rows, fun _ => next⟩
    · rw [ended]
      exact ⟨Nat.le_refl _, aligned.span_rows, fun past => absurd past (Nat.lt_irrefl _)⟩
  · rw [ValueCursor.requests.step_of_le (Nat.le_of_not_lt more)]
    exact aligned

theorem Aligned.iterate {c : ValueCursor codec} (aligned : c.Aligned) (k : Nat) :
    ((fun c : ValueCursor codec => c.next.2)^[k] c).Aligned :=
  Function.Iterate.rec _ aligned (fun _ => Aligned.next) k

/-- A reader hands out a value cursor over exactly the bytes its codec measures, at the first
row. -/
theorem aligned_of_nextColumn {r r' : BlockReader} {cur : ValueCursor codec}
    (run : r.nextColumn codec = .ok (cur, r')) : cur.Aligned := by
  obtain ⟨name, start, span, _, measured, _, rfl⟩ := BlockReader.nextColumn_eq_ok run
  have sized : ((r.tail start).extract 0 span).size = span := by
    have := Codec.span_le_size measured
    rw [ByteArray.size_extract]
    omega
  refine ⟨Nat.zero_le _, ?_, fun _ => Codec.span_zero _ _⟩
  dsimp only
  rw [sized]
  exact Codec.span_extract measured (Nat.le_refl _)

end ValueCursor

namespace NullableCursor

variable {codec : Codec}

theorem next_of_decode_error {cur : NullableCursor codec} {null : Bool} {e : Error} {p : Nat}
    (row : cur.index < cur.rows) (masked : isNull cur.mask cur.index = .ok null)
    (read : Codec.decode codec cur.values cur.pos = .error e p) :
    cur.next = (.error (e.within (rowPlace cur.name cur.index)), { cur with pos := p, index := cur.rows }) := by
  unfold next
  rw [if_neg (Nat.not_le.mpr row), masked]
  simp only [read]

/-- The mask byte of every row is there, when the mask has one byte per row. -/
theorem isNull_of_lt {cur : NullableCursor codec} (size : cur.mask.size = cur.rows)
    (row : cur.index < cur.rows) : ∃ null, isNull cur.mask cur.index = .ok null := by
  have inside : cur.index < cur.mask.size := by
    rw [size]
    exact row
  unfold isNull
  rw [getElem?_pos cur.mask cur.index inside]
  exact ⟨_, rfl⟩

/-- A cursor with a mask byte per row, whose values are exactly the rows it hands out, as its
codec measures them, and which stands where the measure puts the row it is at: null rows
included, whose placeholders are measured and read like any value. -/
structure Aligned (c : NullableCursor codec) : Prop where
  index_le : c.index ≤ c.rows
  mask_size : c.mask.size = c.rows
  span_rows : Codec.span codec c.values c.rows = .ok c.values.size
  span_index : c.index < c.rows → Codec.span codec c.values c.index = .ok c.pos

/-- A request on a row left reads the value under the row, null or not, and moves to where the
measure puts the next one, or fails on the row's value and ends the column. -/
theorem Aligned.next_eq {c : NullableCursor codec} (aligned : c.Aligned) (more : c.index < c.rows) :
    ∃ stop, Codec.span codec c.values (c.index + 1) = .ok stop ∧
      ((∃ o, c.next = (.ok o, { c with pos := stop, index := c.index + 1 })) ∨
        ∃ e p, codec.RowFault c.pos e ∧
          c.next = (.error (e.within (rowPlace c.name c.index)), { c with pos := p, index := c.rows })) := by
  obtain ⟨start, stop, front, next, row, -⟩ := Codec.span_row aligned.span_rows more
  obtain rfl : start = c.pos := Except.ok.inj (front.symm.trans (aligned.span_index more))
  obtain ⟨null, masked⟩ := isNull_of_lt aligned.mask_size more
  refine ⟨stop, next, ?_⟩
  rcases Codec.decode_of_rowAt row with ⟨v, decoded⟩ | ⟨e, p, decoded, fault⟩
  · exact .inl ⟨_, next_of_decode more masked decoded⟩
  · exact .inr ⟨e, p, fault, next_of_decode_error more masked decoded⟩

theorem Aligned.next {c : NullableCursor codec} (aligned : c.Aligned) : c.next.2.Aligned := by
  by_cases more : c.index < c.rows
  · obtain ⟨stop, next, ⟨o, moved⟩ | ⟨e, p, -, ended⟩⟩ := aligned.next_eq more
    · rw [moved]
      exact ⟨more, aligned.mask_size, aligned.span_rows, fun _ => next⟩
    · rw [ended]
      exact ⟨Nat.le_refl _, aligned.mask_size, aligned.span_rows,
        fun past => absurd past (Nat.lt_irrefl _)⟩
  · rw [NullableCursor.requests.step_of_le (Nat.le_of_not_lt more)]
    exact aligned

theorem Aligned.iterate {c : NullableCursor codec} (aligned : c.Aligned) (k : Nat) :
    ((fun c : NullableCursor codec => c.next.2)^[k] c).Aligned :=
  Function.Iterate.rec _ aligned (fun _ => Aligned.next) k

/-- A reader hands out a nullable cursor with a mask byte per row, over exactly the values its
codec measures after the mask, at the first row. -/
theorem aligned_of_nextNullable {r r' : BlockReader} {cur : NullableCursor codec}
    (run : r.nextNullable codec = .ok (cur, r')) : cur.Aligned := by
  obtain ⟨name, start, mask, values, _, maskRun, valuesRun, _, rfl⟩ :=
    BlockReader.nextNullable_eq_ok run
  obtain ⟨maskLen, _, _⟩ := Codec.fixedSpan_eq_ok.mp maskRun
  have fits := nullable_span_le maskRun valuesRun
  have maskSized : ((r.tail start).extract 0 mask).size = r.rows := by
    rw [ByteArray.size_extract]
    omega
  have valuesSized : ((r.tail start).extract mask (mask + values)).size = values := by
    rw [ByteArray.size_extract]
    omega
  refine ⟨Nat.zero_le _, maskSized, ?_, fun _ => Codec.span_zero _ _⟩
  dsimp only
  rw [valuesSized]
  obtain ⟨-, agreeing⟩ := Codec.span_selfDelimiting codec r.rows _ values valuesRun
  exact (agreeing _ (agreeBelow_extract_from values mask (mask + values) _)).1
    (by simp only [id]; omega)

end NullableCursor

/-- Every row of a dictionary column that decodes has its key. -/
theorem Dictionary.read_of_decode {data : ByteArray} {rows row : Nat} {d : Dictionary.Decoded}
    (run : Dictionary.decode data rows = .ok d) (lt : row < rows) :
    ∃ key, d.keyWidth.read d.keys row = some key :=
  Dictionary.KeyWidth.read_eq_some (Dictionary.keys_size_decode run) lt

/-- Decoding follows the rows a codec's measure finds, for every codec and every buffer.

* Each row the measure takes is read, in the bytes the measure covers, from where the measure of
  the rows before it ends to where its own ends, or fails on its value: text that is not UTF-8,
  a date or an instant outside the calendar. A read never runs out of bytes.
* A value cursor a reader hands out covers exactly the bytes its codec measures and, after any
  number of requests, stands where the measure puts its row. A request reads the row and moves
  to where the next starts, or fails on the value and ends the column: the check that the last
  row used every byte never fails.
* The same holds of a nullable cursor's values, the placeholder under a null row read like any
  value.
* A dictionary column has the key of every row. -/
theorem decoding_follows_span :
    (∀ (c : Codec) data rows n, Codec.span c data rows = .ok n → ∀ i < rows,
      ∃ start stop, Codec.span c data i = .ok start ∧ Codec.span c data (i + 1) = .ok stop ∧
        ((∃ v, Codec.decode c (data.extract 0 n) start = .ok v stop) ∨
          ∃ e p, Codec.decode c (data.extract 0 n) start = .error e p ∧ c.RowFault start e)) ∧
    (∀ (r r' : BlockReader) c cur, r.nextColumn c = .ok (cur, r') → ∀ k,
      let now := (fun c : ValueCursor c => c.next.2)^[k] cur
      Codec.span c now.data now.rows = .ok now.data.size ∧
      (now.index < now.rows → ∃ stop, Codec.span c now.data now.index = .ok now.pos ∧
        Codec.span c now.data (now.index + 1) = .ok stop ∧
        ((∃ v, now.next = (.ok v, { now with pos := stop, index := now.index + 1 })) ∨
          ∃ e p, c.RowFault now.pos e ∧ now.next =
            (.error (e.within (rowPlace now.name now.index)), { now with pos := p, index := now.rows })))) ∧
    (∀ (r r' : BlockReader) c cur, r.nextNullable c = .ok (cur, r') → ∀ k,
      let now := (fun c : NullableCursor c => c.next.2)^[k] cur
      Codec.span c now.values now.rows = .ok now.values.size ∧
      (now.index < now.rows → ∃ stop, Codec.span c now.values now.index = .ok now.pos ∧
        Codec.span c now.values (now.index + 1) = .ok stop ∧
        ((∃ o, now.next = (.ok o, { now with pos := stop, index := now.index + 1 })) ∨
          ∃ e p, c.RowFault now.pos e ∧ now.next =
            (.error (e.within (rowPlace now.name now.index)), { now with pos := p, index := now.rows })))) ∧
    (∀ data rows d, Dictionary.decode data rows = .ok d → ∀ row < rows,
      ∃ key, d.keyWidth.read d.keys row = some key) := by
  refine ⟨fun c data rows n run i lt => Codec.decode_row_of_span run lt,
    fun r r' c cur run k => ?_, fun r r' c cur run k => ?_,
    fun data rows d run row lt => Dictionary.read_of_decode run lt⟩
  · have now := (ValueCursor.aligned_of_nextColumn run).iterate k
    refine ⟨now.span_rows, fun more => ?_⟩
    obtain ⟨stop, next, step⟩ := now.next_eq more
    exact ⟨stop, now.span_index more, next, step⟩
  · have now := (NullableCursor.aligned_of_nextNullable run).iterate k
    refine ⟨now.span_rows, fun more => ?_⟩
    obtain ⟨stop, next, step⟩ := now.next_eq more
    exact ⟨stop, now.span_index more, next, step⟩

end NativeBlock
