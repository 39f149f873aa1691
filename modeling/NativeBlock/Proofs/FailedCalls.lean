import NativeBlock.Proofs.Calls

/-!
# Failed calls change nothing

A reader commits a column only as the last step of a call: the header is read, its type checked,
the codec built and the rows measured before the reader moves. A column writer checks that a row
is left before it writes anything; a text is checked before it is appended, and a slot grown for
any other value is cut back when the codec refuses the value. So a call that fails, at whichever
of those points, leaves the reader or the writer as it was, and a later call behaves as if the
failed one had not been made.

* `BlockReader.call_of_error`: a failed reader call leaves the reader it was made on;
  `BlockReader.call_moves`: a successful one moves it past one column or not at all.
* `WriteSession.call_write_of_failed`: a failed write leaves the session, hence the open
  column's bytes, row count and dictionary scratch, as they were.
* `WriteSession.call_create_of_failed`: a failed create drops the open column, as every create
  does first, and touches nothing else.

Main statements: `failed_reads_change_nothing` and `failed_writes_change_nothing`.
-/

namespace NativeBlock

/-- Every reader call commits last: its steps before the commit only look at the reader. -/
theorem ReadCall.op_commitsLast : (c : ReadCall) → ReadOp.CommitsLast c.op
  | .peek => ReadOp.CommitsLast.bind ReadOp.keeps_get fun r =>
    ((ReadOp.keeps_ofExcept r.peek).map _).commitsLast
  | .skip => BlockReader.skipColumn_commitsLast.map _
  | .take spec =>
    (ReadOp.CommitsLast.bind (ReadOp.keeps_ofExcept spec) BlockReader.takeCursor_commitsLast).map _

namespace BlockReader

variable {r : BlockReader}

/-- A reader call that fails leaves the reader it was made on. -/
theorem call_of_error {c : ReadCall} {e : Error} (failed : (r.call c).1 = .error e) :
    (r.call c).2 = r :=
  c.op_commitsLast.state_of_error failed

/-- A reader call either leaves the reader where it was or moves it past one column: the only
change it makes is the commit of a column's span. -/
theorem call_moves (c : ReadCall) :
    (r.call c).2 = r ∨ ∃ start span, (r.call c).2 = r.advance start span := by
  rcases c.op_commitsLast r with same | ⟨a, start, span, ran⟩
  · exact .inl same
  · exact .inr ⟨start, span, by rw [call, ran]⟩

end BlockReader

/-- Reader failures are atomic. Whatever the buffer and wherever the reader stands, a call that
fails (on the column count, a header cut short, a declared type that does not match, a codec's
constructor, a measure of the rows, or a dictionary's layout) leaves the reader exactly as it
was, its position, columns read, column count and row count included. A call that succeeds
moves the reader past one column by committing that column's span, or, for a peek, not at all.
So a failed call can be struck from any sequence of calls: every later call answers as it would
have, and the reader ends where it would have. -/
theorem failed_reads_change_nothing :
    (∀ (r : BlockReader) (c : ReadCall) (e : Error), (r.call c).1 = .error e → (r.call c).2 = r) ∧
    (∀ (r : BlockReader) (c : ReadCall),
      (r.call c).2 = r ∨ ∃ start span, (r.call c).2 = r.advance start span) ∧
    (∀ (r : BlockReader) (c : ReadCall) (e : Error) (later : List ReadCall),
      (r.call c).1 = .error e →
        runCalls BlockReader.call r (c :: later) =
          (.error e :: (runCalls BlockReader.call r later).1,
            (runCalls BlockReader.call r later).2)) := by
  refine ⟨fun r c e failed => BlockReader.call_of_error failed,
    fun r c => BlockReader.call_moves c, fun r c e later failed => ?_⟩
  rw [runCalls_of_unchanged BlockReader.call (BlockReader.call_of_error failed), failed]

namespace WriteSession

variable {s : WriteSession}

/-- Dropping the open column hands its buffer back to the workspace and changes nothing else in
the block. -/
theorem closeColumn_writer (s : WriteSession) :
    s.closeColumn.writer = { s.writer with ws := s.closeColumn.writer.ws } := by
  unfold closeColumn
  split <;> rfl

@[simp] theorem started_closeColumn (s : WriteSession) :
    s.closeColumn.writer.started = s.writer.started := by
  rw [closeColumn_writer]

@[simp] theorem committed_closeColumn (s : WriteSession) :
    s.closeColumn.writer.committed = s.writer.committed := by
  rw [closeColumn_writer]

@[simp] theorem segments_closeColumn (s : WriteSession) :
    s.closeColumn.writer.segments = s.writer.segments := by
  rw [closeColumn_writer]
  rfl

@[simp] theorem writer_setColumn (o : OpenColumn) : (s.setColumn o).writer = s.writer := rfl

theorem setColumn_of_column {o : OpenColumn} (open_ : s.column = some o) : s.setColumn o = s := by
  cases s
  simp_all [setColumn]

/-- A row that fails leaves the session as it was: the open column's bytes and count of rows
written, and a dictionary column's scratch. -/
theorem writeRow_of_failed {o : OpenColumn} {v : o.spec.Input} {e : Error}
    (open_ : s.column = some o) (failed : (s.writeRow o v).1 = .error e) : (s.writeRow o v).2 = s := by
  cases o with
  | value c w =>
    have kept := ValueWriter.write_of_failed (v := v) failed
    show s.setColumn (.value c (w.write v).2) = s
    rw [kept, setColumn_of_column open_]
  | nullable c w =>
    have kept := NullableWriter.write_of_failed (o := v) failed
    show s.setColumn (.nullable c (w.write v).2) = s
    rw [kept, setColumn_of_column open_]
  | dictionary w =>
    have kept := DictionaryWriter.write_of_failed (d := s.writer.ws.scratch) (v := v) failed
    show { s with writer := s.writer.withScratch (w.write s.writer.ws.scratch v).2.2,
                  column := some (.dictionary (w.write s.writer.ws.scratch v).2.1) } = s
    rw [kept, ← open_]
    rfl

/-- A write that fails leaves the session as it was. -/
theorem call_write_of_failed {row : (spec : ColumnSpec) → spec.Input} {e : Error}
    (failed : (s.call (.write row)).1 = .failed e) : (s.call (.write row)).2 = s := by
  cases open_ : s.column with
  | none =>
    rw [call_write_none row open_] at failed
    cases failed
  | some o =>
    rw [call_write row open_] at failed ⊢
    cases ran : (s.writeRow o (row o.spec)).1 with
    | ok u =>
      rw [ran] at failed
      cases failed
    | error e' => exact writeRow_of_failed open_ ran

/-- A create that fails leaves the session as dropping its open column does. -/
theorem call_create_of_failed {name : String} {spec : Except Error ColumnSpec} {e : Error}
    (failed : (s.call (.create name spec)).1 = .failed e) :
    (s.call (.create name spec)).2 = s.closeColumn := by
  rw [call_create] at failed ⊢
  split at failed
  · cases failed
  · rfl

end WriteSession

/-- Writer failures are atomic. A column writer's write that fails (the column already holds every
row, or its codec refuses the value: a text too long for its `FixedString`, a date out of range,
an instant whose ticks overflow, a decimal of the wrong scale or precision) leaves the writer as
it was: its buffer, every byte of a slot grown for the value cut back, and its count of rows
written; a dictionary column's scratch is untouched. So a failed write leaves the session as it
was, and can be struck from any sequence of calls: every later call answers as it would have, the
block's bytes included, and the session ends where it would have. A create that fails (a codec's
constructor refused its parameters, the block is finished, or no column is left) only drops the
open column, as every create does before opening one, and leaves the columns started, the columns
finished and the segments as they were. -/
theorem failed_writes_change_nothing :
    (∀ (c : Codec) (cw : ValueWriter c) v (e : Error), (cw.write v).1 = .error e →
      (cw.write v).2 = cw) ∧
    (∀ (c : Codec) (cw : NullableWriter c) o (e : Error), (cw.write o).1 = .error e →
      (cw.write o).2 = cw) ∧
    (∀ (cw : DictionaryWriter) d v (e : Error), (cw.write d v).1 = .error e →
      (cw.write d v).2 = (cw, d)) ∧
    (∀ (s : WriteSession) row (e : Error), (s.call (.write row)).1 = .failed e →
      (s.call (.write row)).2 = s) ∧
    (∀ (s : WriteSession) row (e : Error) (later : List WriteCall),
      (s.call (.write row)).1 = .failed e →
        runCalls WriteSession.call s (.write row :: later) =
          (.failed e :: (runCalls WriteSession.call s later).1,
            (runCalls WriteSession.call s later).2)) ∧
    (∀ (s : WriteSession) name spec (e : Error), (s.call (.create name spec)).1 = .failed e →
      (s.call (.create name spec)).2 = s.closeColumn ∧
      (s.call (.create name spec)).2.writer.started = s.writer.started ∧
      (s.call (.create name spec)).2.writer.committed = s.writer.committed ∧
      (s.call (.create name spec)).2.writer.segments = s.writer.segments) := by
  refine ⟨fun c cw v e failed => ValueWriter.write_of_failed failed,
    fun c cw o e failed => NullableWriter.write_of_failed failed,
    fun cw d v e failed => DictionaryWriter.write_of_failed failed,
    fun s row e failed => WriteSession.call_write_of_failed failed,
    fun s row e later failed => ?_, fun s name spec e failed => ?_⟩
  · rw [runCalls_of_unchanged WriteSession.call (WriteSession.call_write_of_failed failed), failed]
  · rw [WriteSession.call_create_of_failed failed]
    exact ⟨rfl, WriteSession.started_closeColumn s, WriteSession.committed_closeColumn s,
      WriteSession.segments_closeColumn s⟩

end NativeBlock
