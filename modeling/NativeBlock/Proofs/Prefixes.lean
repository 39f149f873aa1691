import NativeBlock.Proofs.InBounds
import NativeBlock.Proofs.RoundTrip

/-!
# Blocks cut short or extended

Every measure of a column's rows is self-delimiting (`Codec.span_selfDelimiting`,
`ColumnType.span_selfDelimiting`, `Dictionary.decode_selfDelimiting`), and from it every step of
the block reader reads nothing past the point where it leaves the reader (`StepFramed`): on a
buffer that agrees with the block up to there the step gives the same cursor, and on one that
ends before it the step fails. The typed readers are one kind of step, `measuredStep`, framed by
one lemma; skipping measures by the header's own type and is framed apart.

Walking a block's columns step by step, it follows that

* bytes appended to a block change nothing its columns read to (`readColumns_append`);
* every strict prefix of a block the writer produced fails, whether its declared columns are read
  with the readers for their layouts or skipped (`writeBlock_prefix_fails`).

Main statement: `columns_self_delimiting`.
-/

namespace NativeBlock

namespace BlockReader

variable {r r' : BlockReader}

/-- The reader at the same place in another buffer. -/
def withBytes (r : BlockReader) (data : ByteArray) : BlockReader := { r with bytes := data }

@[simp] theorem bytes_withBytes (data : ByteArray) : (r.withBytes data).bytes = data := rfl

@[simp] theorem pos_withBytes (data : ByteArray) : (r.withBytes data).pos = r.pos := rfl

@[simp] theorem rows_withBytes (data : ByteArray) : (r.withBytes data).rows = r.rows := rfl

theorem advance_withBytes (data : ByteArray) (start span : Nat) :
    (r.withBytes data).advance start span = (r.advance start span).withBytes data := rfl

@[simp] theorem pos_advance (start span : Nat) : (r.advance start span).pos = start + span := rfl

@[simp] theorem bytes_advance (start span : Nat) : (r.advance start span).bytes = r.bytes := rfl

/-! ## Opening a column -/

/-- The header of the next column is read from the bytes before its rows only. -/
theorem readHeader_framed {h : ColumnHeader} {start : Nat} (inside : r.pos ≤ r.bytes.size)
    (read : r.readHeader = .ok (h, start)) :
    r.pos ≤ start ∧ start ≤ r.bytes.size ∧ ∀ data', AgreeBelow start r.bytes data' →
      (start ≤ data'.size → (r.withBytes data').readHeader = .ok (h, start)) ∧
      (r.pos ≤ data'.size → data'.size < start →
        ∃ e, (r.withBytes data').readHeader = .error e) := by
  unfold readHeader at read
  by_cases done : r.columns ≤ r.columnsRead
  · rw [if_pos done] at read
    cases read
  rw [if_neg done] at read
  dsimp only at read
  split at read
  · rename_i h' stop headerRead
    cases read
    obtain ⟨forward, within, agreeing⟩ := header_framed r.bytes r.pos h start inside headerRead
    refine ⟨forward, within, fun data' agree => ⟨fun reach => ?_, fun early short => ?_⟩⟩
    · have again := (agreeing data' agree).1 reach
      beta_reduce at again
      simp only [readHeader, withBytes, done, ↓reduceIte]
      rw [again]
    · obtain ⟨e, s, failed⟩ := (agreeing data' agree).2 early short
      beta_reduce at failed
      refine ⟨e.within s!"column {r.columnsRead} header", ?_⟩
      simp only [readHeader, withBytes, done, ↓reduceIte]
      rw [failed]
  · cases read

/-- Opening a column looks at nothing but its header. -/
theorem openColumn_congr {r₂ : BlockReader} {t : ColumnType}
    (same : r₂.readHeader = r.readHeader) : r₂.openColumn t = r.openColumn t := by
  unfold openColumn
  rw [same]

theorem openColumn_error {t : ColumnType} {e : Error} (fails : r.readHeader = .error e) :
    r.openColumn t = .error e := by
  unfold openColumn
  rw [fails]
  rfl

/-- A column is opened from the bytes before its rows only. -/
theorem openColumn_framed {t : ColumnType} {name : String} {start : Nat}
    (inside : r.pos ≤ r.bytes.size) (opened : r.openColumn t = .ok (name, start)) :
    r.pos ≤ start ∧ start ≤ r.bytes.size ∧ ∀ data', AgreeBelow start r.bytes data' →
      (start ≤ data'.size → (r.withBytes data').openColumn t = .ok (name, start)) ∧
      (r.pos ≤ data'.size → data'.size < start →
        ∃ e, (r.withBytes data').openColumn t = .error e) := by
  obtain ⟨h, read, -, -⟩ := openColumn_eq_ok opened
  obtain ⟨forward, within, agreeing⟩ := readHeader_framed inside read
  refine ⟨forward, within, fun data' agree => ⟨fun reach => ?_, fun early short => ?_⟩⟩
  · rw [openColumn_congr (((agreeing data' agree).1 reach).trans read.symm)]
    exact opened
  · obtain ⟨e, failed⟩ := (agreeing data' agree).2 early short
    exact ⟨e, openColumn_error failed⟩

/-! ## Measuring the rows -/

/-- Two buffers that agree below `start + n` agree below `n` from `start` on. -/
theorem tail_agree {n start : Nat} {data' : ByteArray}
    (agree : AgreeBelow (start + n) r.bytes data') :
    AgreeBelow n (r.tail start) ((r.withBytes data').tail start) := by
  have dropped := agree.drop start
  rw [Nat.add_sub_cancel_left] at dropped
  exact dropped

/-- A self-delimiting measure of the rows from `start` on reads only the bytes it counts. -/
theorem measure_tail {α : Type} {measure : ByteArray → Except Error α} {length : α → Nat}
    (delimits : SelfDelimiting measure length) {start : Nat} {a : α}
    (inside : start ≤ r.bytes.size) (run : measure (r.tail start) = .ok a) :
    start + length a ≤ r.bytes.size ∧ ∀ data', AgreeBelow (start + length a) r.bytes data' →
      (start + length a ≤ data'.size → measure ((r.withBytes data').tail start) = .ok a) ∧
      (start ≤ data'.size → data'.size < start + length a →
        ∃ e, measure ((r.withBytes data').tail start) = .error e) := by
  obtain ⟨within, agreeing⟩ := delimits _ a run
  rw [size_tail] at within
  refine ⟨by omega, fun data' agree => ?_⟩
  have size' : ((r.withBytes data').tail start).size = data'.size - start := size_tail _ start
  have rest := agreeing _ (tail_agree agree)
  exact ⟨fun reach => rest.1 (by omega), fun early short => rest.2 (by omega)⟩

/-! ## Framed steps -/

/-- A step of the reader is framed when a successful step from inside the buffer moves forward,
stays inside, keeps the buffer and reads nothing at or past where it leaves the reader: on a
buffer that agrees below that point and reaches it the step gives the same answer, and on one
that ends between the two positions it fails. -/
def StepFramed {α : Type} (step : BlockReader → Except Error (α × BlockReader)) : Prop :=
  ∀ r a r', r.pos ≤ r.bytes.size → step r = .ok (a, r') →
    r.pos ≤ r'.pos ∧ r'.pos ≤ r.bytes.size ∧ r'.bytes = r.bytes ∧
    ∀ data', AgreeBelow r'.pos r.bytes data' →
      (r'.pos ≤ data'.size → step (r.withBytes data') = .ok (a, r'.withBytes data')) ∧
      (r.pos ≤ data'.size → data'.size < r'.pos → ∃ e, step (r.withBytes data') = .error e)

/-- Changing the answer of a framed step keeps it framed. -/
theorem StepFramed.map {α β : Type} {step : BlockReader → Except Error (α × BlockReader)}
    (f : α → β) (framed : StepFramed step) :
    StepFramed (fun r => (step r).map fun p => (f p.1, p.2)) := by
  intro r b r' inside run
  obtain ⟨⟨a, r''⟩, ran, same⟩ := except_map_eq_ok run
  cases same
  obtain ⟨forward, within, kept, agreeing⟩ := framed r a r'' inside ran
  refine ⟨forward, within, kept, fun data' agree =>
    ⟨fun reach => ?_, fun early short => ?_⟩⟩
  · dsimp only
    rw [(agreeing data' agree).1 reach]
    rfl
  · obtain ⟨e, failed⟩ := (agreeing data' agree).2 early short
    refine ⟨e, ?_⟩
    dsimp only
    rw [failed]
    rfl

/-- A step that opens the next column as type `t`, measures its rows with `measure` and answers
with what `build` makes of them, moving past the bytes measured. Each typed reader is one. -/
def measuredStep {α β : Type} (t : ColumnType) (measure : ByteArray → Nat → Except Error α)
    (length : α → Nat) (build : String → ByteArray → Nat → α → β) (r : BlockReader) :
    Except Error (β × BlockReader) := do
  let opened ← r.openColumn t
  let data := r.tail opened.2
  let x ← Except.within (columnPlace opened.1) (measure data r.rows)
  pure (build opened.1 data r.rows x, r.advance opened.2 (length x))

/-- A typed reader whose measure is self-delimiting and whose answer depends only on the bytes
measured is framed. -/
theorem measuredStep_framed {α β : Type} {t : ColumnType}
    {measure : ByteArray → Nat → Except Error α} {length : α → Nat}
    {build : String → ByteArray → Nat → α → β}
    (delimits : ∀ rows, SelfDelimiting (measure · rows) length)
    (built : ∀ name data data' rows x, AgreeBelow (length x) data data' →
      length x ≤ data.size → length x ≤ data'.size →
        build name data' rows x = build name data rows x) :
    StepFramed (measuredStep t measure length build) := by
  intro r b r' inside run
  obtain ⟨⟨name, start⟩, opened, rest⟩ := except_bind_eq_ok run
  obtain ⟨x, measured, done⟩ := except_bind_eq_ok rest
  cases done
  replace measured := Except.within_eq_ok.mp measured
  obtain ⟨forward, within, header⟩ := openColumn_framed inside opened
  obtain ⟨within', rows⟩ := measure_tail (delimits r.rows) within measured
  refine ⟨by simp only [pos_advance]; omega, by simpa only [pos_advance] using within', rfl,
    fun data' agree => ?_⟩
  simp only [pos_advance] at agree
  have header' := header data' (agree.mono (Nat.le_add_right _ _))
  have rows' := rows data' agree
  refine ⟨fun reach => ?_, fun early short => ?_⟩
  · rw [pos_advance] at reach
    have same := built name (r.tail start) ((r.withBytes data').tail start) r.rows x
      (tail_agree agree) (by rw [size_tail]; omega)
      (by rw [size_tail, bytes_withBytes]; omega)
    simp only [measuredStep, header'.1 (by omega), rows_withBytes, rows'.1 reach,
      Except.within_ok, same, advance_withBytes, bind, Except.bind, pure, Except.pure]
  · -- The buffer ends either inside the header or inside the rows.
    rw [pos_advance] at short
    by_cases headerShort : data'.size < start
    · obtain ⟨e, failed⟩ := header'.2 early headerShort
      exact ⟨e, by simp only [measuredStep, failed, bind, Except.bind]⟩
    · obtain ⟨e, failed⟩ := rows'.2 (by omega) short
      exact ⟨e.within (columnPlace name), by
        simp only [measuredStep, header'.1 (by omega), rows_withBytes, failed,
          Except.within_error, bind, Except.bind]⟩

theorem nextColumn_eq_measuredStep (c : Codec) :
    (·.nextColumn c) = measuredStep c.columnType (Codec.span c) id
      (fun name data rows span => (⟨name, data.extract 0 span, 0, rows, 0⟩ : ValueCursor c)) := by
  funext r
  rw [nextColumn_eq]
  rfl

theorem nextNullable_eq_measuredStep (c : Codec) :
    (·.nextNullable c) = measuredStep (.nullable c.columnType)
      (fun data rows => do
        let mask ← Codec.fixedSpan data rows 1
        let values ← Codec.span c (data.extract mask data.size) rows
        pure (mask, values))
      (fun p => p.1 + p.2)
      (fun name data rows p => (⟨name, data.extract 0 p.1, data.extract p.1 (p.1 + p.2), 0, rows,
        0⟩ : NullableCursor c)) := by
  funext r
  rw [nextNullable_eq]
  rfl

theorem nextDictionary_eq_measuredStep :
    nextDictionary = measuredStep (.lowCardinality .string) Dictionary.decode
      Dictionary.Decoded.consumed
      (fun name _ rows d =>
        (⟨name, d.dictionary, d.keys, d.keyWidth, rows, 0⟩ : DictionaryCursor)) := by
  funext r
  rw [nextDictionary_eq]
  rfl

/-- Reading a column of values looks at nothing past its rows. -/
theorem nextColumn_framed (c : Codec) : StepFramed (·.nextColumn c) := by
  rw [nextColumn_eq_measuredStep]
  refine measuredStep_framed (Codec.span_selfDelimiting c) ?_
  intro name data data' rows span agree reach reach'
  simp only [id] at agree reach reach'
  rw [agree.extract_eq (Nat.le_refl _) reach reach']

/-- Reading a `Nullable` column looks at nothing past its mask and its values. -/
theorem nextNullable_framed (c : Codec) : StepFramed (·.nextNullable c) := by
  rw [nextNullable_eq_measuredStep]
  refine measuredStep_framed
    (fun rows => SelfDelimiting.pair (Codec.fixedSpan_selfDelimiting rows 1)
      (Codec.span_selfDelimiting c rows)) ?_
  rintro name data data' rows ⟨mask, values⟩ agree reach reach'
  dsimp only at agree reach reach' ⊢
  rw [agree.extract_eq (Nat.le_add_right _ _) (by omega) (by omega),
    agree.extract_eq (Nat.le_refl _) reach reach']

/-- Reading a dictionary column looks at nothing past its dictionary and keys. -/
theorem nextDictionary_framed : StepFramed nextDictionary := by
  rw [nextDictionary_eq_measuredStep]
  exact measuredStep_framed Dictionary.decode_selfDelimiting fun _ _ _ _ _ _ _ _ => rfl

/-- Skipping a column looks at nothing past its rows, measured by the type its header declares. -/
theorem skip_framed : StepFramed skip := by
  intro r h r' inside run
  obtain ⟨start, t, span, read, declared, measured, rfl⟩ := skip_eq_ok_iff.mp run
  obtain ⟨forward, within, header⟩ := readHeader_framed inside read
  obtain ⟨within', rows⟩ :=
    measure_tail (ColumnType.span_selfDelimiting r.rows t) within measured
  simp only [id] at within' rows
  refine ⟨by simp only [pos_advance]; omega, by simpa only [pos_advance] using within', rfl,
    fun data' agree => ?_⟩
  simp only [pos_advance] at agree
  have header' := header data' (agree.mono (Nat.le_add_right _ _))
  have rows' := rows data' agree
  refine ⟨fun reach => ?_, fun early short => ?_⟩
  · rw [pos_advance] at reach
    exact skip_eq_ok_iff.mpr
      ⟨start, t, span, header'.1 (by omega), declared, rows'.1 reach, rfl⟩
  · -- The buffer ends either inside the header or inside the rows.
    rw [pos_advance] at short
    by_cases headerShort : data'.size < start
    · obtain ⟨e, failed⟩ := header'.2 early headerShort
      exact ⟨e, by simp only [skip_eq, failed, bind, Except.bind]⟩
    · obtain ⟨e, failed⟩ := rows'.2 (by omega) short
      exact ⟨e.within (columnPlace h.name), by
        simp only [skip_eq, header'.1 (by omega), declared, rows_withBytes, failed,
          Except.within_error, bind, Except.bind]⟩

/-! ## Columns in order -/

theorem takeCursor_framed (spec : ColumnSpec) : StepFramed ((takeCursor spec).result ·) := by
  cases spec with
  | value c =>
    simp only [result_takeCursor_value]
    exact (nextColumn_framed c).map _
  | nullable c =>
    simp only [result_takeCursor_nullable]
    exact (nextNullable_framed c).map _
  | dictionary =>
    simp only [result_takeCursor_dictionary]
    exact nextDictionary_framed.map _

/-- A column a layout's reader takes can be skipped instead, to the same place. -/
theorem skip_of_takeCursor {spec : ColumnSpec} {cur : OpenCursor}
    (run : (takeCursor spec).result r = .ok (cur, r')) : ∃ h, r.skip = .ok (h, r') := by
  cases spec with
  | value c =>
    rw [result_takeCursor_value] at run
    obtain ⟨⟨cur', r''⟩, ran, same⟩ := except_map_eq_ok run
    cases same
    exact skip_of_nextColumn ran
  | nullable c =>
    rw [result_takeCursor_nullable] at run
    obtain ⟨⟨cur', r''⟩, ran, same⟩ := except_map_eq_ok run
    cases same
    exact skip_of_nextNullable ran
  | dictionary =>
    rw [result_takeCursor_dictionary] at run
    obtain ⟨⟨cur', r''⟩, ran, same⟩ := except_map_eq_ok run
    cases same
    exact skip_of_nextDictionary ran

end BlockReader

/-- Reading columns in order from a fresh session takes the first column, then reads the rest
from a fresh session on the reader it leaves. -/
theorem readColumns_start (r : BlockReader) (spec : ColumnSpec) (specs : List ColumnSpec) :
    readColumns (.start r) (spec :: specs) = (do
      let (cur, r') ← (BlockReader.takeCursor spec).result r
      let curs ← readColumns (.start r') specs
      pure (cur :: curs)) := by
  rw [readColumns, ReadSession.openCursor]
  simp only [ReadSession.start]
  cases (BlockReader.takeCursor spec).result r <;> rfl

theorem BlockReader.takeCursor_of_openCursor {r r' : BlockReader} {spec : ColumnSpec}
    {cur : OpenCursor} (opened : (ReadSession.start r).openCursor spec = .ok (cur, .start r')) :
    (takeCursor spec).result r = .ok (cur, r') := by
  rw [ReadSession.openCursor] at opened
  obtain ⟨⟨cur', r''⟩, took, same⟩ := except_map_eq_ok opened
  cases same
  exact took

def BlockReader.skipColumns (r : BlockReader) : Nat → Except Error BlockReader
  | 0 => .ok r
  | n + 1 => do
    let (_, r) ← r.skip
    r.skipColumns n

/-! ## Blocks extended -/

namespace BlockReader

variable {r : BlockReader}

/-- The block's counts are read from the bytes before its first column only. -/
theorem new_framed {bytes : ByteArray} (run : new bytes = .ok r) :
    r.bytes = bytes ∧ r.pos ≤ bytes.size ∧ ∀ data', AgreeBelow r.pos bytes data' →
      (r.pos ≤ data'.size → new data' = .ok (r.withBytes data')) ∧
      (data'.size < r.pos → ∃ e, new data' = .error e) := by
  unfold new at run
  split at run
  · cases run
  rename_i columns pos columnsRead
  obtain ⟨forward, within, agreeing⟩ :=
    Wire.readUVarint_framed bytes 0 columns pos (Nat.zero_le _) columnsRead
  split at run
  · cases run
  rename_i rows pos' rowsRead
  obtain ⟨forward', within', agreeing'⟩ :=
    Wire.readUVarint_framed bytes pos rows pos' within rowsRead
  cases run
  refine ⟨rfl, within', fun data' agree => ⟨fun reach => ?_, fun short => ?_⟩⟩
  · have columnsRead' := (agreeing data' (agree.mono forward')).1 (by simp at reach; omega)
    have rowsRead' := (agreeing' data' agree).1 reach
    simp only [new, columnsRead', rowsRead']
    rfl
  · by_cases early : data'.size < pos
    · obtain ⟨e, s, failed⟩ := (agreeing data' (agree.mono forward')).2 (Nat.zero_le _) early
      exact ⟨e.within "block column count", by simp only [new, failed]⟩
    · have columnsRead' := (agreeing data' (agree.mono forward')).1 (Nat.le_of_not_lt early)
      obtain ⟨e, s, failed⟩ := (agreeing' data' agree).2 (Nat.le_of_not_lt early) short
      exact ⟨e.within "block row count", by simp only [new, columnsRead', failed]⟩

/-- Reading columns in order from a reader inside its buffer looks at no byte past the buffer:
on a buffer that holds all of it, and maybe more, the same cursors come back. -/
theorem readColumns_extend {specs : List ColumnSpec} :
    ∀ {r : BlockReader} {curs : List OpenCursor}, r.pos ≤ r.bytes.size →
      readColumns (.start r) specs = .ok curs →
      ∀ data', AgreeBelow r.bytes.size r.bytes data' → r.bytes.size ≤ data'.size →
        readColumns (.start (r.withBytes data')) specs = .ok curs := by
  induction specs with
  | nil =>
    intro r curs _ run _ _ _
    exact run
  | cons spec specs ih =>
    intro r curs inside run data' agree long
    rw [readColumns_start] at run ⊢
    obtain ⟨⟨cur, r'⟩, took, rest⟩ := except_bind_eq_ok run
    obtain ⟨curs', restRun, done⟩ := except_bind_eq_ok rest
    cases done
    obtain ⟨forward, within, kept, agreeing⟩ := takeCursor_framed spec r cur r' inside took
    beta_reduce at agreeing
    have took' := (agreeing data' (agree.mono within)).1 (by omega)
    have restRun' := ih (by rw [kept]; omega) restRun data' (by rw [kept]; exact agree)
      (by rw [kept]; exact long)
    simp only [took', restRun', bind, Except.bind, pure, Except.pure]

end BlockReader

/-- Bytes appended to a block change nothing its columns read to: the same counts, and the same
cursors for the columns read in order. -/
theorem readColumns_append {bytes : ByteArray} {r : BlockReader} {specs : List ColumnSpec}
    {curs : List OpenCursor} (extra : ByteArray) (opened : BlockReader.new bytes = .ok r)
    (run : readColumns (.start r) specs = .ok curs) :
    BlockReader.new (bytes ++ extra) = .ok (r.withBytes (bytes ++ extra)) ∧
      readColumns (.start (r.withBytes (bytes ++ extra))) specs = .ok curs := by
  obtain ⟨rfl, inside, agreeing⟩ := BlockReader.new_framed opened
  have agree := agreeBelow_append extra (Nat.le_refl r.bytes.size)
  have long : r.bytes.size ≤ (r.bytes ++ extra).size := by
    rw [ByteArray.size_append]
    omega
  exact ⟨(agreeing _ (agree.mono inside)).1 (by omega),
    BlockReader.readColumns_extend inside run _ agree long⟩

/-! ## Blocks cut short -/

/-- From a reader at the first of the laid segments of a block, on a buffer that agrees with the
block and ends inside the segments, reading the columns in order fails, and so does skipping
them. -/
theorem readColumns_cut {cols : List ColumnData} {segments : List ByteArray}
    (laid : List.Forall₂ ColumnData.Laid cols segments) :
    ∀ {r : BlockReader}, (∀ col ∈ cols, col.length = r.rows) →
      r.columnsRead + cols.length ≤ r.columns → Placed r.bytes r.pos (joinBytes segments) →
      r.pos + (joinBytes segments).size = r.bytes.size → r.bytes.size < 2 ^ 64 →
      ∀ data', AgreeBelow r.bytes.size r.bytes data' → r.pos ≤ data'.size →
        data'.size < r.bytes.size →
        (∃ e, readColumns (.start (r.withBytes data')) (cols.map (·.spec)) = .error e) ∧
        ∃ e, (r.withBytes data').skipColumns cols.length = .error e := by
  induction laid with
  | nil =>
    intro r _ _ _ ends _ data' _ early short
    simp only [joinBytes_nil, ByteArray.size_empty, Nat.add_zero] at ends
    omega
  | @cons col segment cols segments first _ ih =>
    intro r counts left placed ends fits data' agree early short
    rw [joinBytes_cons] at placed ends
    rw [ByteArray.size_append] at ends
    simp only [List.length_cons] at left
    obtain ⟨cur, opened, -⟩ := ColumnData.openCursor_laid (by omega)
      (counts col (List.mem_cons_self ..)) first placed.left fits
    have took := BlockReader.takeCursor_of_openCursor opened
    obtain ⟨h, skipped⟩ := BlockReader.skip_of_takeCursor took
    have inside : r.pos ≤ r.bytes.size := by omega
    obtain ⟨-, within, -, agreeing⟩ := BlockReader.takeCursor_framed col.spec r cur _ inside took
    beta_reduce at agreeing
    obtain ⟨-, -, -, skipAgreeing⟩ := BlockReader.skip_framed r h _ inside skipped
    have agree' := agree.mono within
    by_cases inSegment : data'.size < r.pos + segment.size
    · -- The buffer ends inside this column's segment, so taking or skipping it fails.
      obtain ⟨e, failed⟩ := (agreeing data' agree').2 early inSegment
      obtain ⟨e', skipFailed⟩ := (skipAgreeing data' agree').2 early inSegment
      refine ⟨⟨e, ?_⟩, ⟨e', ?_⟩⟩
      · rw [List.map_cons, readColumns_start, failed]
        rfl
      · rw [List.length_cons, BlockReader.skipColumns, skipFailed]
        rfl
    · -- This column is read whole, and the buffer ends inside a later one.
      have took' := (agreeing data' agree').1 (by simp only [BlockReader.pos_advance]; omega)
      have skipped' := (skipAgreeing data' agree').1 (by simp only [BlockReader.pos_advance]; omega)
      obtain ⟨⟨e, failed⟩, ⟨e', skipFailed⟩⟩ := ih (r := r.advance r.pos segment.size)
        (fun col mem => counts col (List.mem_cons_of_mem _ mem))
        (by simp only [BlockReader.advance]; omega) placed.right
        (by simp only [BlockReader.pos_advance, BlockReader.bytes_advance]; omega) fits data' agree
        (by simp only [BlockReader.pos_advance]; omega) short
      refine ⟨⟨e, ?_⟩, ⟨e', ?_⟩⟩
      · rw [List.map_cons, readColumns_start, took']
        simp only [bind, Except.bind, failed]
      · rw [List.length_cons, BlockReader.skipColumns, skipped']
        exact skipFailed

/-- Every strict prefix of a block the writer produced fails when its declared columns are read in
order with the readers for their layouts, and also when they are skipped: either its counts
cannot be read, or a column runs past its end. -/
theorem writeBlock_prefix_fails {ws : Workspace} {rows : Nat} {cols : List ColumnData}
    {bytes : ByteArray} (rowsFit : rows < 2 ^ 64) (countFits : cols.length < 2 ^ 64)
    (encodes : ∀ col ∈ cols, col.length = rows ∧ col.Encodes)
    (written : writeBlock ws rows cols = .ok bytes) (fits : bytes.size < 2 ^ 64) {k : Nat}
    (cut : k < bytes.size) {r : BlockReader}
    (opened : BlockReader.new (bytes.extract 0 k) = .ok r) :
    (∃ e, readColumns (.start r) (cols.map (·.spec)) = .error e) ∧
      ∃ e, r.skipColumns cols.length = .error e := by
  obtain ⟨segments, laid, written'⟩ := writeBlock_eq_ok ws rows encodes
  rw [written'] at written
  cases written
  have prefixSize :
      ((BlockWriter.header cols.length rows ++ joinBytes segments).extract 0 k).size = k := by
    simp only [ByteArray.size_extract]
    omega
  have full : BlockReader.new (BlockWriter.header cols.length rows ++ joinBytes segments) =
      .ok ⟨_, _, cols.length, rows, 0⟩ := new_header countFits rowsFit
  obtain ⟨-, -, agreeing⟩ := BlockReader.new_framed full
  have agree := agreeBelow_extract (BlockWriter.header cols.length rows).size k
    (BlockWriter.header cols.length rows ++ joinBytes segments)
  by_cases early : k < (BlockWriter.header cols.length rows).size
  · -- The prefix ends inside the counts.
    obtain ⟨e, failed⟩ := (agreeing _ agree).2 (by rw [prefixSize]; exact early)
    rw [failed] at opened
    cases opened
  · -- The counts are read, and the prefix ends inside the columns' segments.
    rw [(agreeing _ agree).1 (by rw [prefixSize]; exact Nat.le_of_not_lt early)] at opened
    cases opened
    have placed := (Placed.whole (joinBytes segments)).after (BlockWriter.header cols.length rows)
    rw [Nat.add_zero] at placed
    exact readColumns_cut laid (r := ⟨_, _, cols.length, rows, 0⟩)
      (fun col mem => (encodes col mem).1) (by simp) placed
      ByteArray.size_append.symm fits _ (agreeBelow_extract _ k _)
      (by rw [prefixSize]; exact Nat.le_of_not_lt early) (by rw [prefixSize]; exact cut)

/-- Column spans are self-delimiting. Every measure of a column's rows (by codec, by declared
type, and a dictionary column's dictionary and keys) counts only bytes in the buffer, gives the
same answer on every buffer that agrees with those bytes and holds them, and fails on every one
that ends before them; decoding a row is framed the same way. So each step of the block reader
gives the same cursor (the same values, dictionary and keys) on such a buffer and fails on one
cut short. Hence bytes appended to a block change nothing its columns read to, and every strict
prefix of a block the writer produced fails when its declared columns are read in order with the
readers for their layouts, and also when they are skipped. -/
theorem columns_self_delimiting :
    (∀ (c : Codec) rows, SelfDelimiting (fun data => Codec.span c data rows) id) ∧
    (∀ rows t, SelfDelimiting (fun data => ColumnType.span data rows t) id) ∧
    (∀ rows, SelfDelimiting (fun data => Dictionary.decode data rows)
      Dictionary.Decoded.consumed) ∧
    (∀ c : Codec, Framed (Codec.decode c)) ∧
    (∀ c : Codec, BlockReader.StepFramed (·.nextColumn c)) ∧
    (∀ c : Codec, BlockReader.StepFramed (·.nextNullable c)) ∧
    BlockReader.StepFramed BlockReader.nextDictionary ∧
    BlockReader.StepFramed BlockReader.skip ∧
    (∀ bytes extra r specs curs, BlockReader.new bytes = .ok r →
      readColumns (.start r) specs = .ok curs →
      ∃ r', BlockReader.new (bytes ++ extra) = .ok r' ∧
        readColumns (.start r') specs = .ok curs) ∧
    (∀ ws rows (cols : List ColumnData) bytes, rows < 2 ^ 64 → cols.length < 2 ^ 64 →
      (∀ col ∈ cols, col.length = rows ∧ col.Encodes) →
      writeBlock ws rows cols = .ok bytes → bytes.size < 2 ^ 64 →
      ∀ k < bytes.size, ∀ r, BlockReader.new (bytes.extract 0 k) = .ok r →
        (∃ e, readColumns (.start r) (cols.map (·.spec)) = .error e) ∧
        ∃ e, r.skipColumns cols.length = .error e) :=
  ⟨Codec.span_selfDelimiting, ColumnType.span_selfDelimiting, Dictionary.decode_selfDelimiting,
    Codec.decode_framed, BlockReader.nextColumn_framed, BlockReader.nextNullable_framed,
    BlockReader.nextDictionary_framed, BlockReader.skip_framed,
    fun _ extra _ _ _ opened run => ⟨_, readColumns_append extra opened run⟩,
    fun _ _ _ _ rowsFit countFits encodes written fits _ cut _ opened =>
      writeBlock_prefix_fails rowsFit countFits encodes written fits cut opened⟩

end NativeBlock
