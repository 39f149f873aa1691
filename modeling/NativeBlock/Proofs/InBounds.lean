import NativeBlock.Proofs.Skip

/-!
# Reading stays inside the block

Every position a reader or a cursor holds, and every range of bytes it cuts out, lies inside the
bytes it was given, whatever those bytes are and in whatever order the operations are called:

* `Reachable.inBounds`: a reader that `new` and any sequence of successful reads and skips
  produce sits inside its buffer and has taken no more columns than the block declares;
* `readHeader_le_size`, `nullable_span_le`, `decode_keys_within`: a column's rows start inside
  the buffer, and each measure the readers take of them stays inside the rest of it;
* `ValueCursor.Sound`, `NullableCursor.Sound`, `DictionaryCursor.Sound`: the cursors the readers
  hand out keep their row index within the row count through any number of requests, so every
  slot, mask byte and key they look up is there.

A failed call returns no reader, so the reader it was made on is the one that stays in use;
`peek` moves nothing. The readers that matter are therefore exactly the `Reachable` ones.
-/

namespace NativeBlock

namespace Codec

variable {c : Codec} {data : ByteArray} {rows index pos : Nat}

/-- Where a cursor over `rows` rows of codec `c`, at row `index`, decodes its next value: a
position inside the column's bytes and, for a codec of constant width, the start of the row's
own slot in a column of exactly one slot per row. Once every row is handed out nothing more is
decoded, so only the column's size is still said. -/
structure AtRow (c : Codec) (data : ByteArray) (rows index pos : Nat) : Prop where
  pos_le : index < rows → pos ≤ data.size
  slots : ∀ w, c.slotWidth = some w → data.size = rows * w ∧ (index < rows → pos = index * w)

namespace AtRow

/-- A column cut to the length its rows measure is at its first row at position 0. -/
theorem initial {source : ByteArray} {n : Nat} (run : span c source rows = .ok n)
    (sized : data.size = n) : AtRow c data rows 0 0 := by
  refine ⟨fun _ => Nat.zero_le _, fun w width => ⟨?_, fun _ => (Nat.zero_mul w).symm⟩⟩
  rw [sized]
  exact span_eq_of_slotWidth width run

/-- Handing out the last row, or failing, ends the column wherever its position stopped. -/
theorem done (at_ : AtRow c data rows index pos) (pos' : Nat) : AtRow c data rows rows pos' :=
  ⟨fun past => absurd past (Nat.lt_irrefl rows),
    fun w width => ⟨(at_.slots w width).1, fun past => absurd past (Nat.lt_irrefl rows)⟩⟩

/-- Decoding a row moves to the next: decoding is framed, and a fixed-width codec takes exactly
its slot. -/
theorem decode {v : c.Value} {pos' : Nat} (at_ : AtRow c data rows index pos)
    (more : index < rows) (decoded : Codec.decode c data pos = .ok v pos') :
    AtRow c data rows (index + 1) pos' := by
  obtain ⟨_, within, _⟩ := decode_framed c data pos v pos' (at_.pos_le more) decoded
  refine ⟨fun _ => within, fun w width => ⟨(at_.slots w width).1, fun _ => ?_⟩⟩
  obtain ⟨stop, _⟩ := decode_slotWidth width decoded
  rw [stop, (at_.slots w width).2 more, Nat.succ_mul]

/-- The slot of a row not yet handed out lies whole inside the column, so a fixed-width value is
always read from exactly its width of bytes. -/
theorem slot_le {w : Nat} (at_ : AtRow c data rows index pos) (width : c.slotWidth = some w)
    (more : index < rows) : pos + w ≤ data.size := by
  obtain ⟨size, start⟩ := at_.slots w width
  have slots : (index + 1) * w ≤ rows * w := Nat.mul_le_mul_right w more
  rw [size, start more, ← Nat.succ_mul]
  exact slots

end AtRow

end Codec

/-! ## Cursors -/

namespace ValueCursor

variable {codec : Codec}

/-- A cursor whose row index is within its row count and whose position is where that row
starts. -/
structure Sound (c : ValueCursor codec) : Prop where
  index_le : c.index ≤ c.rows
  atRow : codec.AtRow c.data c.rows c.index c.pos

/-- What one request can do to a cursor: nothing once every row is out, end the column, or
decode the row and move to the next. -/
theorem next_cases (c : ValueCursor codec) :
    (c.next.2 = c ∧ c.rows ≤ c.index) ∨
    (∃ p, c.next.2 = { c with pos := p, index := c.rows }) ∨
    (c.index < c.rows ∧ ∃ v p, Codec.decode codec c.data c.pos = .ok v p ∧
      c.next.2 = { c with pos := p, index := c.index + 1 }) := by
  by_cases out : c.rows ≤ c.index
  · exact .inl ⟨by simp only [next, if_pos out], out⟩
  · unfold next
    simp only [if_neg out]
    split
    · rename_i v p decoded
      split
      · exact .inr (.inl ⟨p, rfl⟩)
      · exact .inr (.inr ⟨Nat.lt_of_not_le out, v, p, decoded, rfl⟩)
    · rename_i e p _
      exact .inr (.inl ⟨p, rfl⟩)

theorem Sound.next {c : ValueCursor codec} (sound : c.Sound) : c.next.2.Sound := by
  rcases next_cases c with ⟨same, -⟩ | ⟨p, ended⟩ | ⟨more, v, p, decoded, moved⟩
  · rw [same]
    exact sound
  · rw [ended]
    exact ⟨Nat.le_refl _, sound.atRow.done p⟩
  · rw [moved]
    exact ⟨more, sound.atRow.decode more decoded⟩

theorem Sound.iterate {c : ValueCursor codec} (sound : c.Sound) (k : Nat) :
    ((fun c : ValueCursor codec => c.next.2)^[k] c).Sound :=
  Function.Iterate.rec _ sound (fun _ => Sound.next) k

end ValueCursor

namespace NullableCursor

variable {codec : Codec}

/-- A cursor whose row index is within its row count, whose mask has a byte for every row, and
whose position in the values is where the row's value starts. -/
structure Sound (c : NullableCursor codec) : Prop where
  index_le : c.index ≤ c.rows
  mask_size : c.mask.size = c.rows
  atRow : codec.AtRow c.values c.rows c.index c.pos

/-- What one request can do: nothing once every row is out, end the column, or decode the row's
value and move to the next. -/
theorem next_cases (c : NullableCursor codec) :
    (c.next.2 = c ∧ c.rows ≤ c.index) ∨
    (∃ p, c.next.2 = { c with pos := p, index := c.rows }) ∨
    (c.index < c.rows ∧ ∃ v p, Codec.decode codec c.values c.pos = .ok v p ∧
      c.next.2 = { c with pos := p, index := c.index + 1 }) := by
  by_cases out : c.rows ≤ c.index
  · exact .inl ⟨by simp only [next, if_pos out], out⟩
  · unfold next
    simp only [if_neg out]
    split
    · exact .inr (.inl ⟨c.pos, rfl⟩)
    · split
      · rename_i v p decoded
        exact .inr (.inr ⟨Nat.lt_of_not_le out, v, p, decoded, rfl⟩)
      · rename_i e p _
        exact .inr (.inl ⟨p, rfl⟩)

theorem Sound.next {c : NullableCursor codec} (sound : c.Sound) : c.next.2.Sound := by
  rcases next_cases c with ⟨same, -⟩ | ⟨p, ended⟩ | ⟨more, v, p, decoded, moved⟩
  · rw [same]
    exact sound
  · rw [ended]
    exact ⟨Nat.le_refl _, sound.mask_size, sound.atRow.done p⟩
  · rw [moved]
    exact ⟨more, sound.mask_size, sound.atRow.decode more decoded⟩

theorem Sound.iterate {c : NullableCursor codec} (sound : c.Sound) (k : Nat) :
    ((fun c : NullableCursor codec => c.next.2)^[k] c).Sound :=
  Function.Iterate.rec _ sound (fun _ => Sound.next) k

/-- The mask byte of a row not yet handed out is there. -/
theorem Sound.mask_getElem? {c : NullableCursor codec} (sound : c.Sound)
    (more : c.index < c.rows) : ∃ b, c.mask[c.index]? = some b :=
  ⟨_, getElem?_pos c.mask c.index (sound.mask_size ▸ more)⟩

end NullableCursor

namespace DictionaryCursor

/-- A cursor whose row index is within its row count and whose keys hold one slot of the key
width per row. -/
structure Sound (c : DictionaryCursor) : Prop where
  index_le : c.index ≤ c.rows
  keys_size : c.keys.size = c.rows * c.keyWidth.bytes

/-- What one request can do: nothing once every row is out, end the column, or move to the next
row. -/
theorem next_cases (c : DictionaryCursor) :
    (c.next.2 = c ∧ c.rows ≤ c.index) ∨ c.next.2 = { c with index := c.rows } ∨
    (c.index < c.rows ∧ c.next.2 = { c with index := c.index + 1 }) := by
  by_cases out : c.rows ≤ c.index
  · exact .inl ⟨by simp only [next, if_pos out], out⟩
  · unfold next
    simp only [if_neg out]
    split
    · exact .inr (.inr ⟨Nat.lt_of_not_le out, rfl⟩)
    · exact .inr (.inl rfl)

theorem Sound.next {c : DictionaryCursor} (sound : c.Sound) : c.next.2.Sound := by
  rcases next_cases c with ⟨same, -⟩ | ended | ⟨more, moved⟩
  · rw [same]
    exact sound
  · rw [ended]
    exact ⟨Nat.le_refl _, sound.keys_size⟩
  · rw [moved]
    exact ⟨more, sound.keys_size⟩

theorem Sound.iterate {c : DictionaryCursor} (sound : c.Sound) (k : Nat) :
    ((fun c : DictionaryCursor => c.next.2)^[k] c).Sound :=
  Function.Iterate.rec _ sound (fun _ => Sound.next) k

/-- The key of a row not yet handed out is there. -/
theorem Sound.read_eq_some {c : DictionaryCursor} (sound : c.Sound) (more : c.index < c.rows) :
    ∃ key, c.keyWidth.read c.keys c.index = some key :=
  Dictionary.KeyWidth.read_eq_some sound.keys_size more

end DictionaryCursor

/-! ## Readers -/

/-- A `Nullable` column's mask and values, measured one after the other, stay in the bytes. -/
theorem nullable_span_le {c : Codec} {data : ByteArray} {rows mask values : Nat}
    (maskRun : Codec.fixedSpan data rows 1 = .ok mask)
    (valuesRun : Codec.span c (data.extract mask data.size) rows = .ok values) :
    mask + values ≤ data.size := by
  obtain ⟨rfl, _, maskLe⟩ := Codec.fixedSpan_eq_ok.mp maskRun
  have valuesLe := Codec.span_le_size valuesRun
  rw [ByteArray.size_extract] at valuesLe
  omega

/-- A dictionary column's keys are the bytes just before the end of what it consumes, and hold
one slot of the key width per row. -/
theorem decode_keys_within {data : ByteArray} {rows : Nat} {d : Dictionary.Decoded}
    (run : Dictionary.decode data rows = .ok d) :
    ∃ pos, pos ≤ d.consumed ∧ d.consumed ≤ data.size ∧ d.keys = data.extract pos d.consumed ∧
      d.keys.size = rows * d.keyWidth.bytes := by
  have within := Dictionary.consumed_le_size run
  have sized := Dictionary.keys_size_decode run
  by_cases empty : rows = 0
  · subst empty
    rw [Dictionary.decode_zero] at run
    cases run
    have empty : ByteArray.empty = data.extract 0 0 := by
      rw [eq_comm, ByteArray.extract_eq_empty_iff]
      exact Nat.zero_le _
    exact ⟨0, Nat.le_refl _, within, empty, sized⟩
  · obtain ⟨pos, _, _, before, keys⟩ := Dictionary.decode_eq_ok empty run
    exact ⟨pos, before, within, keys, sized⟩

namespace BlockReader

variable {r r' : BlockReader}

/-- A reader inside its buffer, with no more columns taken than the block declares. -/
structure InBounds (r : BlockReader) : Prop where
  pos_le : r.pos ≤ r.bytes.size
  columnsRead_le : r.columnsRead ≤ r.columns

theorem size_tail (r : BlockReader) (start : Nat) : (r.tail start).size = r.bytes.size - start := by
  rw [tail, ByteArray.size_extract, Nat.min_self]

/-- The reader `new` builds starts after the two counts, inside the buffer, with no column
taken. -/
theorem new_inBounds {bytes : ByteArray} (run : new bytes = .ok r) : r.bytes = bytes ∧ r.InBounds := by
  unfold new at run
  split at run
  · cases run
  · rename_i columns pos columnsRead
    obtain ⟨_, within, _⟩ := Wire.readUVarint_framed bytes 0 columns pos (Nat.zero_le _) columnsRead
    split at run
    · cases run
    · rename_i rows pos' rowsRead
      obtain ⟨_, within', _⟩ := Wire.readUVarint_framed bytes pos rows pos' within rowsRead
      cases run
      exact ⟨rfl, within', Nat.zero_le _⟩

/-- A column header is two framed texts, one after the other. -/
theorem header_framed : Framed (fun data => do
    let name ← Wire.readText data
    let typeName ← Wire.readText data
    pure (ColumnHeader.mk name typeName)) :=
  Framed.bind Wire.readText_framed fun _ =>
    Framed.bind Wire.readText_framed fun _ => Framed.pure _

/-- A header is read only while columns are left, and from inside the buffer it ends inside it,
so the rows that follow start there. -/
theorem readHeader_le_size {h : ColumnHeader} {start : Nat} (read : r.readHeader = .ok (h, start)) :
    r.columnsRead < r.columns ∧ (r.pos ≤ r.bytes.size → r.pos ≤ start ∧ start ≤ r.bytes.size) := by
  unfold readHeader at read
  by_cases done : r.columns ≤ r.columnsRead
  · rw [if_pos done] at read
    cases read
  · rw [if_neg done] at read
    dsimp only at read
    refine ⟨Nat.lt_of_not_le done, fun inside => ?_⟩
    split at read
    · rename_i h' pos' headerRead
      cases read
      obtain ⟨forward, within, _⟩ := header_framed r.bytes r.pos h start inside headerRead
      exact ⟨forward, within⟩
    · cases read

/-- A reader takes a column when it reads the column's header and moves past a span of rows that
fits in the rest of the buffer. -/
def TakesColumn (r r' : BlockReader) : Prop :=
  ∃ h start span, r.readHeader = .ok (h, start) ∧ span ≤ (r.tail start).size ∧
    r' = r.advance start span

/-- Taking a column keeps a reader inside its buffer and within its declared columns. -/
theorem InBounds.takesColumn (inside : r.InBounds) (takes : TakesColumn r r') :
    r'.InBounds ∧ r'.bytes = r.bytes := by
  obtain ⟨h, start, span, read, fits, rfl⟩ := takes
  obtain ⟨more, after⟩ := readHeader_le_size read
  obtain ⟨_, startLe⟩ := after inside.pos_le
  rw [size_tail] at fits
  exact ⟨⟨by simp only [advance]; omega, more⟩, rfl⟩

theorem takesColumn_of_nextColumn {c : Codec} {cur : ValueCursor c}
    (run : r.nextColumn c = .ok (cur, r')) : TakesColumn r r' := by
  obtain ⟨name, start, span, opened, measured, moved, _⟩ := nextColumn_eq_ok run
  obtain ⟨h, read, _⟩ := openColumn_eq_ok opened
  exact ⟨h, start, span, read, Codec.span_le_size measured, moved⟩

theorem takesColumn_of_nextNullable {c : Codec} {cur : NullableCursor c}
    (run : r.nextNullable c = .ok (cur, r')) : TakesColumn r r' := by
  obtain ⟨name, start, mask, values, opened, maskRun, valuesRun, moved, _⟩ := nextNullable_eq_ok run
  obtain ⟨h, read, _⟩ := openColumn_eq_ok opened
  exact ⟨h, start, mask + values, read, nullable_span_le maskRun valuesRun, moved⟩

theorem takesColumn_of_nextDictionary {cur : DictionaryCursor}
    (run : r.nextDictionary = .ok (cur, r')) : TakesColumn r r' := by
  obtain ⟨name, start, d, opened, decoded, moved, _⟩ := nextDictionary_eq_ok run
  obtain ⟨h, read, _⟩ := openColumn_eq_ok opened
  exact ⟨h, start, d.consumed, read, Dictionary.consumed_le_size decoded, moved⟩

theorem takesColumn_of_skip {h : ColumnHeader} (run : r.skip = .ok (h, r')) : TakesColumn r r' := by
  obtain ⟨start, t, span, read, _, measured, moved⟩ := skip_eq_ok_iff.mp run
  exact ⟨h, start, span, read, ColumnType.span_le_size measured, moved⟩

/-- The readers a buffer yields: the one `new` reads from it, and each one that a typed read or a
skip returns from a reader it yields. -/
inductive Reachable (bytes : ByteArray) : BlockReader → Prop
  | new {r : BlockReader} : BlockReader.new bytes = .ok r → Reachable bytes r
  | nextColumn {r r' : BlockReader} {c : Codec} {cur : ValueCursor c} :
      Reachable bytes r → r.nextColumn c = .ok (cur, r') → Reachable bytes r'
  | nextNullable {r r' : BlockReader} {c : Codec} {cur : NullableCursor c} :
      Reachable bytes r → r.nextNullable c = .ok (cur, r') → Reachable bytes r'
  | nextDictionary {r r' : BlockReader} {cur : DictionaryCursor} :
      Reachable bytes r → r.nextDictionary = .ok (cur, r') → Reachable bytes r'
  | skip {r r' : BlockReader} {h : ColumnHeader} :
      Reachable bytes r → r.skip = .ok (h, r') → Reachable bytes r'

/-- Every reader a buffer yields reads that buffer, inside it. -/
theorem Reachable.inBounds {bytes : ByteArray} (reach : Reachable bytes r) :
    r.bytes = bytes ∧ r.InBounds := by
  -- Each operation takes one column; taking one keeps the reader in bounds.
  induction reach with
  | new run => exact new_inBounds run
  | nextColumn _ run ih =>
    obtain ⟨inside, same⟩ := ih.2.takesColumn (takesColumn_of_nextColumn run)
    exact ⟨same.trans ih.1, inside⟩
  | nextNullable _ run ih =>
    obtain ⟨inside, same⟩ := ih.2.takesColumn (takesColumn_of_nextNullable run)
    exact ⟨same.trans ih.1, inside⟩
  | nextDictionary _ run ih =>
    obtain ⟨inside, same⟩ := ih.2.takesColumn (takesColumn_of_nextDictionary run)
    exact ⟨same.trans ih.1, inside⟩
  | skip _ run ih =>
    obtain ⟨inside, same⟩ := ih.2.takesColumn (takesColumn_of_skip run)
    exact ⟨same.trans ih.1, inside⟩

/-! ## The cursors the readers hand out -/

theorem sound_of_nextColumn {c : Codec} {cur : ValueCursor c}
    (run : r.nextColumn c = .ok (cur, r')) : cur.Sound := by
  obtain ⟨name, start, span, _, measured, _, rfl⟩ := nextColumn_eq_ok run
  have sized : ((r.tail start).extract 0 span).size = span := by
    have := Codec.span_le_size measured
    rw [ByteArray.size_extract]
    omega
  exact ⟨Nat.zero_le _, Codec.AtRow.initial measured sized⟩

theorem sound_of_nextNullable {c : Codec} {cur : NullableCursor c}
    (run : r.nextNullable c = .ok (cur, r')) : cur.Sound := by
  obtain ⟨name, start, mask, values, _, maskRun, valuesRun, _, rfl⟩ := nextNullable_eq_ok run
  obtain ⟨maskLen, _, _⟩ := Codec.fixedSpan_eq_ok.mp maskRun
  have fits := nullable_span_le maskRun valuesRun
  have maskSized : ((r.tail start).extract 0 mask).size = r.rows := by
    rw [ByteArray.size_extract]
    omega
  have valuesSized : ((r.tail start).extract mask (mask + values)).size = values := by
    rw [ByteArray.size_extract]
    omega
  exact ⟨Nat.zero_le _, maskSized, Codec.AtRow.initial valuesRun valuesSized⟩

theorem sound_of_nextDictionary {cur : DictionaryCursor} (run : r.nextDictionary = .ok (cur, r')) :
    cur.Sound := by
  obtain ⟨name, start, d, _, decoded, _, rfl⟩ := nextDictionary_eq_ok run
  exact ⟨Nat.zero_le _, Dictionary.keys_size_decode decoded⟩

/-! ## Nothing is read out of bounds -/

/-- Reading a block never steps outside it, for every buffer and every sequence of operations.
Every reader the buffer yields sits inside it with no more columns taken than declared, and the
rows of its next column start inside it. Every measure of a column's rows (a codec's, a declared
type's, a `Nullable` column's mask and values, a dictionary column's layout and its keys) stays
inside the bytes it measures. Every cursor a reader hands out, after any number of requests,
keeps its row index within its row count, and each row it has still to hand out has its slot,
its mask byte or its key in the bytes. -/
theorem reads_stay_in_bounds :
    (∀ bytes r, Reachable bytes r →
      r.bytes = bytes ∧ r.pos ≤ r.bytes.size ∧ r.columnsRead ≤ r.columns ∧
      ∀ h start, r.readHeader = .ok (h, start) → r.pos ≤ start ∧ start ≤ r.bytes.size) ∧
    (∀ c data rows n, Codec.span c data rows = .ok n → n ≤ data.size) ∧
    (∀ t data rows n, ColumnType.span data rows t = .ok n → n ≤ data.size) ∧
    (∀ c data rows mask values, Codec.fixedSpan data rows 1 = .ok mask →
      Codec.span c (data.extract mask data.size) rows = .ok values → mask + values ≤ data.size) ∧
    (∀ data rows d, Dictionary.decode data rows = .ok d →
      ∃ pos, pos ≤ d.consumed ∧ d.consumed ≤ data.size ∧ d.keys = data.extract pos d.consumed ∧
        d.keys.size = rows * d.keyWidth.bytes) ∧
    (∀ (r r' : BlockReader) c cur, r.nextColumn c = .ok (cur, r') → ∀ k,
      let now := (fun c : ValueCursor c => c.next.2)^[k] cur
      now.index ≤ now.rows ∧ ∀ w, c.slotWidth = some w → now.index < now.rows →
        now.pos + w ≤ now.data.size) ∧
    (∀ (r r' : BlockReader) c cur, r.nextNullable c = .ok (cur, r') → ∀ k,
      let now := (fun c : NullableCursor c => c.next.2)^[k] cur
      now.index ≤ now.rows ∧ (now.index < now.rows → ∃ b, now.mask[now.index]? = some b) ∧
        ∀ w, c.slotWidth = some w → now.index < now.rows → now.pos + w ≤ now.values.size) ∧
    (∀ (r r' : BlockReader) cur, r.nextDictionary = .ok (cur, r') → ∀ k,
      let now := (fun c : DictionaryCursor => c.next.2)^[k] cur
      now.index ≤ now.rows ∧
        (now.index < now.rows → ∃ key, now.keyWidth.read now.keys now.index = some key)) := by
  refine ⟨fun bytes r reach => ?_, fun c data rows n run => Codec.span_le_size run,
    fun t data rows n run => ColumnType.span_le_size run,
    fun c data rows mask values => nullable_span_le, fun data rows d => decode_keys_within,
    fun r r' c cur run k => ?_, fun r r' c cur run k => ?_, fun r r' cur run k => ?_⟩
  · obtain ⟨same, inside⟩ := reach.inBounds
    exact ⟨same, inside.pos_le, inside.columnsRead_le,
      fun h start read => (readHeader_le_size read).2 inside.pos_le⟩
  · have now := (sound_of_nextColumn run).iterate k
    exact ⟨now.index_le, fun w width more => now.atRow.slot_le width more⟩
  · have now := (sound_of_nextNullable run).iterate k
    exact ⟨now.index_le, now.mask_getElem?, fun w width more => now.atRow.slot_le width more⟩
  · have now := (sound_of_nextDictionary run).iterate k
    exact ⟨now.index_le, now.read_eq_some⟩

end BlockReader

end NativeBlock
