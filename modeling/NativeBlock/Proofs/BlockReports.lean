import NativeBlock.Proofs.ErrorKinds
import NativeBlock.Inspect.Report

/-!
# Block reports

A report walks a block's columns one turn each (`reportColumns_succ`, `columnReport`): it peeks at
the next header, reads the declared type, and reads the column with the reader that type calls for
(`columnValues`). Three things make it read every block.

* The loop is given one turn per declared column, and a turn moves on by exactly one column, as
  skipping it does (`columnReport_eq_ok`); so more turns change nothing (`reportColumns_add`).
* The codec built for a type reads and writes that very type, the zone of a `DateTime64` included
  (`Codec.columnType_of_ofColumnType`, `Zone.name_of_parse`); so the reader picked for a header
  never finds a type mismatch (`columnValues_noMismatch`, `BlockReport.ofBytes_noMismatch`).
* Each layout a writer lays out is read by the reader its type picks, and every row it hands out
  is a value (`columnReport_laid`, `reportColumns_laid`), when its codec is one that a type builds:
  every codec but a `DateTime64` one whose zone is not the table's zone of its name
  (`Codec.built_iff`).

A report that succeeds describes, in block order, the columns that skipping walks through
(`BlockReport.ofBytes_eq_ok`). Main statement: `BlockReport.ofBytes_reads_every_block`.
-/

namespace NativeBlock

open BlockReader

/-- A zone is found under the name it was looked up by. -/
theorem Zone.name_of_parse {name : String} {z : Zone} (found : Zone.parse name = .ok z) :
    z.name = name := by
  unfold Zone.parse at found
  split at found
  · rename_i z' lookup
    cases found
    unfold Zone.find? at lookup
    obtain ⟨line, -, chosen⟩ := List.exists_of_findSome?_eq_some lookup
    dsimp only at chosen
    split at chosen
    · unfold Zone.decodeLine at chosen
      split at chosen
      · cases chosen
        rfl
      · cases chosen
    · cases chosen
  · cases found

namespace Codec

/-- The codec built for a type reads and writes that type. -/
theorem columnType_of_ofColumnType {t : ColumnType} {c : Codec} (built : ofColumnType t = .ok c) :
    c.columnType = t := by
  cases t with
  | fixedString n =>
    simp only [ofColumnType, fixedString?] at built
    split at built
    · split at built
      · cases built
        rfl
      · cases built
    · cases built
  | dateTime64 s tz =>
    simp only [ofColumnType, dateTime64?] at built
    split at built
    · split at built
      · cases built
        rfl
      · split at built
        · split at built
          · cases built
            simp only [columnType, Option.map_some, Zone.name_of_parse ‹_›]
          · cases built
        · cases built
    · cases built
  | decimal p s =>
    obtain ⟨w, -, made⟩ := except_bind_eq_ok built
    unfold decimal? at made
    split at made
    · cases made
    · split at made
      · cases made
      · split at made
        · cases made
          rfl
        · cases made
  | nullable _ | lowCardinality _ => cases built
  | _ =>
    cases built
    rfl

/-- A codec that some column type builds is the one its own type builds. -/
theorem ofColumnType_columnType {c : Codec} (built : ∃ t, ofColumnType t = .ok c) :
    ofColumnType c.columnType = .ok c := by
  obtain ⟨t, made⟩ := built
  rw [columnType_of_ofColumnType made]
  exact made

/-- Every codec is built by some column type but a `DateTime64` one whose zone is not the table's
zone of its name. -/
theorem built_iff (c : Codec) :
    (∃ t, ofColumnType t = .ok c) ↔
      ∀ s z le quotable, c = .dateTime64 s (some z) le quotable → Zone.parse z.name = .ok z := by
  refine ⟨fun built => ?_, fun zones => ⟨c.columnType, ?_⟩⟩
  · rintro s z le quotable rfl
    have made := ofColumnType_columnType built
    simp only [columnType, Option.map_some, ofColumnType, dateTime64?, dif_pos le] at made
    split at made
    · rename_i z' found
      split at made
      · cases made
        exact found
      · cases made
    · cases made
  · cases c with
    | unsigned w => cases w <;> rfl
    | signed w => cases w <;> rfl
    | fixedString n pos fits => simp [columnType, ofColumnType, fixedString?, pos, fits]
    | dateTime64 s zone le quotable =>
      cases zone with
      | none => simp [columnType, ofColumnType, dateTime64?, le]
      | some z =>
        have found := zones s z le quotable rfl
        have named : Zone.NameQuotable z.name := quotable z rfl
        simp [columnType, ofColumnType, dateTime64?, le, found, named]
    | decimal storage p s width scale_le =>
      simp only [columnType, ofColumnType, width, bind, Except.bind]
      unfold decimal?
      split
      · rename_i e failed
        rw [width] at failed
        cases failed
      · rename_i w found
        rw [width] at found
        cases found
        simp [Nat.not_lt.mpr scale_le]
    | _ => rfl

end Codec

/-- The codec of a column, if its layout has one, is one that a column type builds. -/
def ColumnData.Built (col : ColumnData) : Prop :=
  ∀ c, (col.spec = .value c ∨ col.spec = .nullable c) → ∃ t, Codec.ofColumnType t = .ok c

/-! ## A column's first values -/

/-- A traversal that may fail succeeds exactly when each element gives its result. -/
theorem mapM_ok_iff {α β ε : Type} (f : α → Except ε β) (l : List α) (out : List β) :
    l.mapM f = .ok out ↔ List.Forall₂ (fun a b => f a = .ok b) l out := by
  induction l generalizing out with
  | nil => cases out <;> simp [pure, Except.pure]
  | cons a l ih =>
    rw [List.mapM_cons]
    cases first : f a with
    | error e => cases out <;> simp [bind, Except.bind, first]
    | ok b =>
      cases rest : l.mapM f with
      | error e => cases out <;> simp [bind, Except.bind, ← ih, rest, first]
      | ok bs => cases out <;> simp [bind, Except.bind, pure, Except.pure, ← ih, rest, first]

/-- Answers that all hand out a row give their first rows, rendered. -/
theorem firstValues_map_ok {α : Type} (vs : List α) (limit : Nat) (render : α → JsonValue) :
    firstValues (vs.map .ok) limit render = .ok ((vs.take limit).map render) := by
  rw [firstValues, ← List.map_take, mapM_ok_iff, List.forall₂_map_left_iff,
    List.forall₂_map_right_iff]
  exact List.forall₂_same.mpr fun _ _ => rfl

/-- Answers related one by one to rows, each of them a row handed out, are rows handed out. -/
theorem exists_map_ok_of_forall₂ {γ α : Type} {R : γ → Except Error α → Prop}
    (ok : ∀ c a, R c a → ∃ v, a = .ok v) {rows : List γ} {answers : List (Except Error α)}
    (each : List.Forall₂ R rows answers) : ∃ vs : List α, answers = vs.map .ok := by
  induction each with
  | nil => exact ⟨[], rfl⟩
  | cons related _ ih =>
    obtain ⟨v, rfl⟩ := ok _ _ related
    obtain ⟨vs, rfl⟩ := ih
    exact ⟨v :: vs, rfl⟩

/-- The first values of a cursor's answers that hand out rows and then at most one failure, when
none of them fails, are as many as the limit allows of its `n` rows. -/
theorem firstValues_length {α : Type} {answers : List (Except Error α)} {n limit : Nat}
    {render : α → JsonValue} {out : List JsonValue}
    (shape : ∃ vs : List α, (answers = vs.map .ok ∧ vs.length = n) ∨
      ∃ e, answers = vs.map .ok ++ [.error e] ∧ vs.length < n)
    (run : firstValues answers limit render = .ok out) : out.length = min n limit := by
  have each := (mapM_ok_iff _ _ _).mp run
  rw [← each.length_eq, List.length_take]
  obtain ⟨vs, ⟨rfl, counted⟩ | ⟨e, rfl, short⟩⟩ := shape
  · rw [List.length_map, counted, Nat.min_comm]
  · by_cases within : limit ≤ vs.length
    · rw [List.length_append, List.length_map, List.length_singleton]
      omega
    · -- The failure is among the first values, and the values fail with it.
      rw [List.take_of_length_le (by simp; omega), ← List.forall₂_reverse_iff, List.reverse_append,
        List.reverse_singleton, List.singleton_append, List.forall₂_cons_left_iff] at each
      obtain ⟨b, -, rendered, -, -⟩ := each
      cases rendered

/-! ## One column of the report -/

section OneColumn

variable {r r' : BlockReader} {t : ColumnType} {limit : Nat} {values : List JsonValue}

/-- A column read for the report moves the reader where skipping the column does, and gives as
many values as the limit allows of the block's rows. -/
theorem columnValues_eq_ok (run : columnValues r t limit = .ok (values, r')) :
    (∃ h, r.skip = .ok (h, r')) ∧ values.length = min r.rows limit := by
  unfold columnValues at run
  split at run
  · -- `LowCardinality(String)`: the dictionary reader.
    obtain ⟨⟨cur, r''⟩, taken, rest⟩ := except_bind_eq_ok run
    obtain ⟨vs, first, done⟩ := except_bind_eq_ok rest
    cases done
    obtain ⟨name, start, d, -, -, -, rfl⟩ := nextDictionary_eq_ok taken
    exact ⟨skip_of_nextDictionary taken, firstValues_length
      (DictionaryCursor.requests.drain_shape DictionaryCursor.drain_eq _ _ (Nat.sub_zero _)) first⟩
  · cases run
  · cases run
  · cases run
  · -- `Nullable(T)`: the nullable reader of the inner type's codec.
    obtain ⟨codec, -, rest⟩ := except_bind_eq_ok run
    obtain ⟨⟨cur, r''⟩, taken, rest⟩ := except_bind_eq_ok rest
    obtain ⟨vs, first, done⟩ := except_bind_eq_ok rest
    cases done
    obtain ⟨name, start, mask, vals, -, -, -, -, rfl⟩ := nextNullable_eq_ok taken
    exact ⟨skip_of_nextNullable taken, firstValues_length
      (NullableCursor.requests.drain_shape NullableCursor.drain_eq _ _ (Nat.sub_zero _)) first⟩
  · -- Any other type: the reader of its codec.
    obtain ⟨codec, -, rest⟩ := except_bind_eq_ok run
    obtain ⟨⟨cur, r''⟩, taken, rest⟩ := except_bind_eq_ok rest
    obtain ⟨vs, first, done⟩ := except_bind_eq_ok rest
    cases done
    obtain ⟨name, start, span, -, -, -, rfl⟩ := nextColumn_eq_ok taken
    exact ⟨skip_of_nextColumn taken, firstValues_length
      (ValueCursor.requests.drain_shape ValueCursor.drain_eq _ _ (Nat.sub_zero _)) first⟩

theorem firstValues_noMismatch {α : Type} {answers : List (Except Error α)}
    (each : ∀ a ∈ answers, NoMismatch a) (limit : Nat) (render : α → JsonValue) :
    NoMismatch (firstValues answers limit render) :=
  NoMismatch.mapM fun a mem => (each a (List.mem_of_mem_take mem)).map render

/-- A column read for the type its header declares fails with no type mismatch: the reader picked
for every type asks for that very type. -/
theorem columnValues_noMismatch {h : ColumnHeader} {start : Nat}
    (read : r.readHeader = .ok (h, start)) (parsed : ColumnType.parse h.typeName = .ok t) :
    NoMismatch (columnValues r t limit) := by
  have declares : ∀ expected, expected = t → ∀ h' start', r.readHeader = .ok (h', start') →
      ColumnType.parse h'.typeName = .ok expected := by
    rintro expected rfl h' start' read'
    rw [read] at read'
    cases read'
    exact parsed
  unfold columnValues
  split
  · refine NoMismatch.bind (nextDictionary_noMismatch (declares _ rfl)) fun taken _ => ?_
    exact NoMismatch.bind (firstValues_noMismatch (DictionaryCursor.drain_noMismatch _) _ _)
      fun _ _ => NoMismatch.ok _
  · exact NoMismatch.error (by simp [noReader, Error.kind])
  · exact NoMismatch.error (by simp [noReader, Error.kind])
  · exact NoMismatch.error (by simp [noReader, Error.kind])
  · refine NoMismatch.bind (Codec.ofColumnType_noMismatch _) fun codec built => ?_
    have same := Codec.columnType_of_ofColumnType built
    refine NoMismatch.bind (nextNullable_noMismatch (declares _ (by rw [same]))) fun taken _ => ?_
    exact NoMismatch.bind (firstValues_noMismatch (NullableCursor.drain_noMismatch _) _ _)
      fun _ _ => NoMismatch.ok _
  · refine NoMismatch.bind (Codec.ofColumnType_noMismatch _) fun codec built => ?_
    have same := Codec.columnType_of_ofColumnType built
    refine NoMismatch.bind (nextColumn_noMismatch (declares _ same)) fun taken _ => ?_
    exact NoMismatch.bind (firstValues_noMismatch (ValueCursor.drain_noMismatch _) _ _)
      fun _ _ => NoMismatch.ok _

/-- A column of a codec, opened by that codec's reader and handing out every row, is read. -/
theorem columnValues_value {c : Codec} {cur : ValueCursor c}
    (built : Codec.ofColumnType c.columnType = .ok c) (opened : r.nextColumn c = .ok (cur, r'))
    (drained : ∃ vs : List c.Value, cur.drain = vs.map .ok) :
    ∃ values, columnValues r c.columnType limit = .ok (values, r') := by
  obtain ⟨vs, answers⟩ := drained
  have plain := ColumnType.isWrapper_columnType c
  generalize c.columnType = t at built plain ⊢
  unfold columnValues
  split
  · cases plain
  · cases plain
  · cases plain
  · cases plain
  · cases plain
  · simp only [built, opened, answers, firstValues_map_ok, bind, Except.bind, pure, Except.pure]
    exact ⟨_, rfl⟩

/-- A `Nullable` column of a codec, opened by the nullable reader of that codec and handing out
every row, is read. -/
theorem columnValues_nullable {c : Codec} {cur : NullableCursor c}
    (built : Codec.ofColumnType c.columnType = .ok c) (opened : r.nextNullable c = .ok (cur, r'))
    (drained : ∃ os : List (Option c.Value), cur.drain = os.map .ok) :
    ∃ values, columnValues r (.nullable c.columnType) limit = .ok (values, r') := by
  obtain ⟨os, answers⟩ := drained
  have plain := ColumnType.isWrapper_columnType c
  generalize c.columnType = t at built plain ⊢
  unfold columnValues
  -- The matched type is a `Nullable`, so each other arm has an equation that fails.
  split
  · rename_i same
    cases same
  · rename_i same
    cases same
  · rename_i same
    cases same
    cases plain
  · rename_i same
    cases same
    cases plain
  · rename_i same
    cases same
    simp only [built, opened, answers, firstValues_map_ok, bind, Except.bind, pure, Except.pure]
    exact ⟨_, rfl⟩
  · rename_i notNullable
    exact absurd rfl (notNullable t)

/-- A `LowCardinality(String)` column, opened by the dictionary reader and handing out every row,
is read. -/
theorem columnValues_dictionary {cur : DictionaryCursor} (opened : r.nextDictionary = .ok (cur, r'))
    (drained : ∃ vs : List String, cur.drain = vs.map .ok) :
    ∃ values, columnValues r (.lowCardinality .string) limit = .ok (values, r') := by
  obtain ⟨vs, answers⟩ := drained
  simp only [columnValues, opened, answers, firstValues_map_ok, bind, Except.bind, pure, Except.pure]
  exact ⟨_, rfl⟩

end OneColumn

/-- One turn of the report's loop: the next column's header, its declared type read, and the
column read for that type, with the reader after it. -/
def columnReport (r : BlockReader) (limit : Nat) : Except Error (ColumnReport × BlockReader) := do
  let h ← r.peek
  let t ← h.columnType
  let read ← columnValues r t limit
  pure (⟨h.name, h.typeName, read.1⟩, read.2)

theorem reportColumns_succ (fuel : Nat) (r : BlockReader) (limit : Nat) (acc : Array ColumnReport) :
    reportColumns (fuel + 1) r limit acc =
      if r.isFinished then .ok acc
      else columnReport r limit >>= fun step => reportColumns fuel step.2 limit (acc.push step.1) := by
  rw [reportColumns]
  split
  · rfl
  · simp only [columnReport, bind_assoc, pure_bind]

section Turn

variable {r r' : BlockReader} {limit : Nat}

/-- Skipping a column moves on by one column and keeps the counts. -/
theorem skip_advances {h : ColumnHeader} (run : r.skip = .ok (h, r')) :
    r'.columns = r.columns ∧ r'.rows = r.rows ∧ r'.columnsRead = r.columnsRead + 1 := by
  obtain ⟨start, t, span, -, -, -, rfl⟩ := skip_eq_ok_iff.mp run
  exact ⟨rfl, rfl, rfl⟩

/-- A turn reports the next column under the header that skipping it reads, and leaves the reader
where skipping it does. -/
theorem columnReport_eq_ok {c : ColumnReport} (run : columnReport r limit = .ok (c, r')) :
    ∃ h, r.skip = .ok (h, r') ∧ c.name = h.name ∧ c.typeName = h.typeName ∧
      c.values.length = min r.rows limit := by
  unfold columnReport at run
  obtain ⟨h, peeked, rest⟩ := except_bind_eq_ok run
  obtain ⟨t, -, rest⟩ := except_bind_eq_ok rest
  obtain ⟨⟨values, r''⟩, read, done⟩ := except_bind_eq_ok rest
  cases done
  obtain ⟨⟨h', skipped⟩, counted⟩ := columnValues_eq_ok read
  -- Peeking and skipping read the same header.
  obtain ⟨start, -, -, header, -, -, -⟩ := skip_eq_ok_iff.mp skipped
  rw [peek, header] at peeked
  cases peeked
  exact ⟨h', skipped, rfl, rfl, counted⟩

/-- A column laid out by its writer at the reader's position, in a block of fewer than `2 ^ 64`
bytes, is reported under its name and the text of its type, and the reader moves past it. -/
theorem columnReport_laid (limit : Nat) {col : ColumnData} {segment : ByteArray}
    (left : r.columnsRead < r.columns) (counted : col.length = r.rows) (writable : col.Writable)
    (built : col.Built) (laid : col.Laid segment) (placed : Placed r.bytes r.pos segment)
    (fits : r.bytes.size < 2 ^ 64) :
    ∃ values, columnReport r limit =
      .ok (⟨col.name, col.spec.columnType.render, values⟩, r.advance r.pos segment.size) := by
  have header : r.peek = .ok ⟨col.name, col.spec.columnType.render⟩ := by
    obtain ⟨payload, rfl, -⟩ := laid
    rw [peek, readHeader_placed left placed fits]
    rfl
  have typed : ColumnHeader.columnType ⟨col.name, col.spec.columnType.render⟩ =
      .ok col.spec.columnType := by
    rw [ColumnHeader.columnType, ColumnSpec.parse_render]
    rfl
  -- Each layout is read by its own reader, which hands out every row written.
  obtain ⟨values, read⟩ : ∃ values, columnValues r col.spec.columnType limit =
      .ok (values, r.advance r.pos segment.size) := by
    cases col with
    | value name c vs =>
      obtain ⟨cur, opened, -, rows⟩ := r.nextColumn_laid left counted laid placed fits
      exact columnValues_value (Codec.ofColumnType_columnType (built c (.inl rfl))) opened
        (exists_map_ok_of_forall₂ (fun _ _ found => found.imp fun _ => And.left)
          (rows fun v mem => (writable v mem).2))
    | nullable name c os =>
      obtain ⟨cur, opened, -, rows⟩ := r.nextNullable_laid left counted laid placed fits
      exact columnValues_nullable (Codec.ofColumnType_columnType (built c (.inr rfl))) opened
        (exists_map_ok_of_forall₂ (fun _ _ found => found.imp fun _ => And.left)
          (rows fun o mem v some => (writable o mem v some).2))
    | dictionary name vs =>
      obtain ⟨cur, opened, -, drained⟩ := r.nextDictionary_laid left counted laid placed fits
      exact columnValues_dictionary opened ⟨vs, drained⟩
  refine ⟨values, ?_⟩
  simp only [columnReport, header, typed, read, bind, Except.bind, pure, Except.pure]

theorem columnReport_noMismatch (r : BlockReader) (limit : Nat) :
    NoMismatch (columnReport r limit) := by
  unfold columnReport
  refine NoMismatch.bind (peek_noMismatch r) fun h peeked => ?_
  obtain ⟨⟨h', start⟩, read, rfl⟩ := except_map_eq_ok peeked
  refine NoMismatch.bind (ColumnHeader.columnType_noMismatch _) fun t typed => ?_
  exact NoMismatch.bind (columnValues_noMismatch read (Except.within_eq_ok.mp typed))
    fun _ _ => NoMismatch.ok _

end Turn

/-! ## The loop -/

/-- A block's reader starts with no column taken. -/
theorem new_columnsRead {bytes : ByteArray} {r : BlockReader} (run : new bytes = .ok r) :
    r.columnsRead = 0 := by
  unfold new at run
  split at run
  · cases run
  · split at run
    · cases run
    · cases run
      rfl

/-- The headers of the next `n` columns, each found by skipping the columns before it. -/
def BlockReader.headers : Nat → BlockReader → Except Error (List ColumnHeader)
  | 0, _ => .ok []
  | n + 1, r => do
    let skipped ← r.skip
    let rest ← headers n skipped.2
    pure (skipped.1 :: rest)

theorem headers_length (n : Nat) :
    ∀ {r : BlockReader} {hs : List ColumnHeader}, r.headers n = .ok hs → hs.length = n := by
  induction n with
  | zero =>
    intro r hs run
    cases run
    rfl
  | succ n ih =>
    intro r hs run
    obtain ⟨skipped, -, rest⟩ := except_bind_eq_ok run
    obtain ⟨others, walked, done⟩ := except_bind_eq_ok rest
    cases done
    rw [List.length_cons, ih walked]

/-- What the report says of a column whose header is `h`: its name, its type as written, and as
many values as the limit allows of the block's `rows` rows. -/
def ColumnReport.Describes (rows limit : Nat) (c : ColumnReport) (h : ColumnHeader) : Prop :=
  c.name = h.name ∧ c.typeName = h.typeName ∧ c.values.length = min rows limit

section Loop

variable (limit : Nat)

/-- More fuel than columns left changes nothing: the loop ends at the end of the block or at a
failure, never for want of fuel. -/
theorem reportColumns_add : ∀ (fuel : Nat) (r : BlockReader) (acc : Array ColumnReport) (k : Nat),
    r.columns - r.columnsRead ≤ fuel →
      reportColumns (fuel + k) r limit acc = reportColumns fuel r limit acc := by
  intro fuel
  -- On the fuel, which a turn lowers by one as it moves on by one column.
  induction fuel with
  | zero =>
    intro r acc k left
    cases k with
    | zero => rfl
    | succ k =>
      have finished : r.isFinished = true := by
        simp only [isFinished, decide_eq_true_eq]
        omega
      rw [Nat.zero_add, reportColumns_succ, if_pos finished, reportColumns]
  | succ fuel ih =>
    intro r acc k left
    rw [show fuel + 1 + k = fuel + k + 1 by omega, reportColumns_succ, reportColumns_succ]
    split
    · rfl
    · cases step : columnReport r limit with
      | error e => rfl
      | ok turn =>
        obtain ⟨c, r'⟩ := turn
        obtain ⟨h, skipped, -⟩ := columnReport_eq_ok step
        obtain ⟨columns, -, read⟩ := skip_advances skipped
        exact ih r' (acc.push c) k (by omega)

/-- A report that succeeds lists, after what it had, one entry for each column left, in block
order: the column that skipping the ones before it reaches. -/
theorem reportColumns_eq_ok : ∀ (fuel : Nat) (r : BlockReader) (acc data : Array ColumnReport),
    r.columns - r.columnsRead ≤ fuel → reportColumns fuel r limit acc = .ok data →
      ∃ hs entries, r.headers (r.columns - r.columnsRead) = .ok hs ∧
        data.toList = acc.toList ++ entries ∧
        List.Forall₂ (ColumnReport.Describes r.rows limit) entries hs := by
  intro fuel
  induction fuel with
  | zero =>
    intro r acc data left run
    cases run
    rw [show r.columns - r.columnsRead = 0 by omega]
    exact ⟨[], [], rfl, by simp, .nil⟩
  | succ fuel ih =>
    intro r acc data left run
    rw [reportColumns_succ] at run
    split at run
    · rename_i finished
      cases run
      simp only [isFinished, decide_eq_true_eq] at finished
      rw [show r.columns - r.columnsRead = 0 by omega]
      exact ⟨[], [], rfl, by simp, .nil⟩
    · rename_i more
      simp only [isFinished, decide_eq_true_eq] at more
      obtain ⟨⟨c, r'⟩, step, rest⟩ := except_bind_eq_ok run
      obtain ⟨h, skipped, named, typed, counted⟩ := columnReport_eq_ok step
      obtain ⟨columns, rows, read⟩ := skip_advances skipped
      obtain ⟨hs, entries, walked, listed, described⟩ := ih r' (acc.push c) data (by omega) rest
      refine ⟨h :: hs, c :: entries, ?_, ?_, .cons ⟨named, typed, counted⟩ (by rwa [rows] at described)⟩
      · rw [show r.columns - r.columnsRead = r'.columns - r'.columnsRead + 1 by omega, headers,
          skipped]
        simp only [bind, Except.bind, walked, pure, Except.pure]
      · rw [listed, Array.toList_push, List.append_assoc, List.singleton_append]

theorem reportColumns_noMismatch (fuel : Nat) :
    ∀ (r : BlockReader) (acc : Array ColumnReport), NoMismatch (reportColumns fuel r limit acc) := by
  induction fuel with
  | zero => exact fun _ _ => NoMismatch.ok _
  | succ fuel ih =>
    intro r acc
    rw [reportColumns_succ]
    exact NoMismatch.ite (NoMismatch.ok _) (NoMismatch.bind (columnReport_noMismatch r limit)
      fun step _ => ih step.2 (acc.push step.1))

/-- From a reader at the first of the segments, the columns laid out in them are reported in
order, each under its name and the text of its type. -/
theorem reportColumns_laid {cols : List ColumnData} {segments : List ByteArray}
    (laid : List.Forall₂ ColumnData.Laid cols segments) :
    ∀ {r : BlockReader} (acc : Array ColumnReport),
      (∀ col ∈ cols, col.length = r.rows ∧ col.Writable ∧ col.Built) →
      r.columnsRead + cols.length ≤ r.columns → Placed r.bytes r.pos (joinBytes segments) →
      r.bytes.size < 2 ^ 64 →
      ∃ data entries, reportColumns cols.length r limit acc = .ok data ∧
        data.toList = acc.toList ++ entries ∧
        List.Forall₂ (fun c col => c.name = col.name ∧ c.typeName = col.spec.columnType.render)
          entries cols := by
  induction laid with
  | nil =>
    intro r acc _ _ _ _
    exact ⟨acc, [], rfl, by simp, .nil⟩
  | @cons col segment cols segments first _ ih =>
    intro r acc writable left placed fits
    rw [joinBytes_cons] at placed
    simp only [List.length_cons] at left
    obtain ⟨counted, takes, built⟩ := writable col (List.mem_cons_self ..)
    obtain ⟨values, turn⟩ :=
      columnReport_laid limit (by omega) counted takes built first placed.left fits
    obtain ⟨data, entries, rest, listed, described⟩ := ih (r := r.advance r.pos segment.size)
      (acc.push ⟨col.name, col.spec.columnType.render, values⟩)
      (fun col mem => writable col (List.mem_cons_of_mem _ mem))
      (by simp [BlockReader.advance]; omega) placed.right fits
    refine ⟨data, ⟨col.name, col.spec.columnType.render, values⟩ :: entries, ?_, ?_,
      .cons ⟨rfl, rfl⟩ described⟩
    · rw [List.length_cons, reportColumns_succ, if_neg (by simp [isFinished]; omega), turn]
      exact rest
    · rw [listed, Array.toList_push, List.append_assoc, List.singleton_append]

end Loop

/-! ## The report of a block -/

namespace BlockReport

variable {bytes : ByteArray} {limit : Nat}

/-- A report lists the block's size and counts and, in block order, one entry for each column
the block declares, describing it. -/
theorem ofBytes_eq_ok {rep : BlockReport} (run : ofBytes bytes limit = .ok rep) :
    ∃ r hs, new bytes = .ok r ∧ rep.bytes = bytes.size ∧ rep.columns = r.columns ∧
      rep.rows = r.rows ∧ rep.data.length = r.columns ∧ r.headers r.columns = .ok hs ∧
      List.Forall₂ (ColumnReport.Describes r.rows limit) rep.data hs := by
  unfold ofBytes at run
  obtain ⟨r, made, rest⟩ := except_bind_eq_ok run
  obtain ⟨data, reported, done⟩ := except_bind_eq_ok rest
  cases done
  obtain ⟨hs, entries, walked, listed, described⟩ :=
    reportColumns_eq_ok limit r.columns r #[] data (Nat.sub_le _ _) reported
  rw [new_columnsRead made, Nat.sub_zero] at walked
  have entriesEq : data.toList = entries := by simpa using listed
  refine ⟨r, hs, made, rfl, rfl, rfl, ?_, walked, ?_⟩
  · rw [entriesEq, described.length_eq, headers_length _ walked]
  · rw [entriesEq]
    exact described

theorem ofBytes_noMismatch (bytes : ByteArray) (limit : Nat) : NoMismatch (ofBytes bytes limit) := by
  unfold ofBytes
  exact NoMismatch.bind (new_noMismatch bytes) fun r _ =>
    NoMismatch.bind (reportColumns_noMismatch limit r.columns r #[]) fun _ _ => NoMismatch.ok _

/-- A block written from columns whose codecs some column type builds is reported: one entry for
each column, in order, under its name and the text of its type. -/
theorem ofBytes_writeBlock (ws : Workspace) (rows : Nat) (cols : List ColumnData) (limit : Nat)
    (rowsFit : rows < 2 ^ 64) (countFits : cols.length < 2 ^ 64)
    (writable : ∀ col ∈ cols, col.length = rows ∧ col.Writable ∧ col.Built) :
    ∃ bytes, writeBlock ws rows cols = .ok bytes ∧
      (bytes.size < 2 ^ 64 → ∃ rep, ofBytes bytes limit = .ok rep ∧
        List.Forall₂ (fun c col => c.name = col.name ∧ c.typeName = col.spec.columnType.render)
          rep.data cols) := by
  obtain ⟨segments, laid, written⟩ :=
    writeBlock_eq_ok ws rows fun col mem => ⟨(writable col mem).1, (writable col mem).2.1.encodes⟩
  refine ⟨_, written, fun fits => ?_⟩
  -- The segments stand right behind the header.
  have placed := (Placed.whole (joinBytes segments)).after (BlockWriter.header cols.length rows)
  rw [Nat.add_zero] at placed
  obtain ⟨data, entries, reported, listed, described⟩ := reportColumns_laid limit laid
    (r := ⟨_, (BlockWriter.header cols.length rows).size, cols.length, rows, 0⟩) #[] writable
    (by simp) placed fits
  have entriesEq : data.toList = entries := by simpa using listed
  refine ⟨⟨(BlockWriter.header cols.length rows ++ joinBytes segments).size, cols.length, rows,
    data.toList⟩, ?_, by rw [entriesEq]; exact described⟩
  simp only [ofBytes, new_header countFits rowsFit, reported, bind, Except.bind, pure, Except.pure]

/-- Reports read every block. The loop over a block's columns never runs out of turns: any more
than one per column left gives the same report. The codec built for a declared type reads and
writes that very type, the zone of a `DateTime64` type included, so a report never fails with a
type mismatch. A report that succeeds lists the block's size and counts and, in block order, one
entry per declared column with its header's name, its type as written and as many values as the
limit allows of the block's rows. And a block written from columns whose codecs some column type
builds, which is every codec but a `DateTime64` one whose zone is not the table's zone of its name,
is reported, each column under its name and the text of its type. -/
theorem ofBytes_reads_every_block :
    (∀ (r : BlockReader) limit acc fuel k, r.columns - r.columnsRead ≤ fuel →
      reportColumns (fuel + k) r limit acc = reportColumns fuel r limit acc) ∧
    (∀ t c, Codec.ofColumnType t = .ok c → c.columnType = t) ∧
    (∀ name z, Zone.parse name = .ok z → z.name = name) ∧
    (∀ c : Codec, (∃ t, Codec.ofColumnType t = .ok c) ↔
      ∀ s z le quotable, c = .dateTime64 s (some z) le quotable → Zone.parse z.name = .ok z) ∧
    (∀ bytes limit e, ofBytes bytes limit = .error e → e.kind ≠ "TypeMismatch") ∧
    (∀ bytes limit rep, ofBytes bytes limit = .ok rep →
      ∃ r hs, new bytes = .ok r ∧ rep.bytes = bytes.size ∧ rep.columns = r.columns ∧
        rep.rows = r.rows ∧ rep.data.length = r.columns ∧ r.headers r.columns = .ok hs ∧
        List.Forall₂ (ColumnReport.Describes r.rows limit) rep.data hs) ∧
    (∀ ws rows (cols : List ColumnData) limit, rows < 2 ^ 64 → cols.length < 2 ^ 64 →
      (∀ col ∈ cols, col.length = rows ∧ col.Writable ∧ col.Built) →
      ∃ bytes, writeBlock ws rows cols = .ok bytes ∧
        (bytes.size < 2 ^ 64 → ∃ rep, ofBytes bytes limit = .ok rep ∧
          List.Forall₂ (fun c col => c.name = col.name ∧ c.typeName = col.spec.columnType.render)
            rep.data cols)) :=
  ⟨fun r limit acc fuel k => reportColumns_add limit fuel r acc k,
    fun _ _ => Codec.columnType_of_ofColumnType, fun _ _ => Zone.name_of_parse, Codec.built_iff,
    fun bytes limit => ofBytes_noMismatch bytes limit, fun _ _ _ => ofBytes_eq_ok,
    fun ws rows cols limit => ofBytes_writeBlock ws rows cols limit⟩

end BlockReport

end NativeBlock
