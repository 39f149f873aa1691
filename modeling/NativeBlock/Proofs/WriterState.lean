import NativeBlock.Proofs.FailedCalls

/-!
# The states a block writer goes through

Whatever calls a caller makes on a block being written, in whatever order, the session stays
`Sound`:

* no more columns are committed than started, and no more started than the block declares;
* until the block is finished its segments are the block header followed by one segment per
  committed column (`BlockWriter.Laid`): the column's name and canonical type, each with its
  length, then its rows; a finished block keeps no segment and has no open column;
* the open column was started and not yet committed, its buffer starts with the header naming
  it and its type, and it holds no more rows than the block declares (`OpenColumn.Sound`); a
  nullable column's mask lies behind the header, and the workspace's scratch holds a dictionary
  column's texts with every key pointing among them, so that finishing it cannot fail once every
  row is written.

From this, each call does what the block's contract says: a column commits exactly when it has
every row, and its segment goes after those committed before it; a create fails with a bounds
error once every declared column was started; finishing succeeds exactly when every declared
column was committed, gives the segments joined in order, and leaves a finished block, on which
every later create and finish fails.

Main statement: `writer_states_sound`.
-/

namespace NativeBlock

/-- A column's segment: its name and the canonical text of its type, each with its length, then
its payload. -/
def columnSegment (name : String) (t : ColumnType) (payload : ByteArray) : ByteArray :=
  ColumnHeader.bytes ⟨name, t.render⟩ ++ payload

/-- Setting a byte past a segment's header leaves the header in front. -/
theorem set!_columnSegment {name : String} {t : ColumnType} (payload : ByteArray) {i : Nat}
    (past : (ColumnHeader.bytes ⟨name, t.render⟩).size ≤ i) (x : UInt8) :
    (columnSegment name t payload).set! i x =
      columnSegment name t (payload.set! (i - (ColumnHeader.bytes ⟨name, t.render⟩).size) x) :=
  set!_append_right _ _ past x

/-! ## Open columns -/

namespace OpenColumn

variable {o : OpenColumn} {rows : Nat} {d : DictionaryScratch}

/-- What a column keeps beside its header: a nullable column's mask lies behind the header, and
the scratch `d` holds a dictionary column's texts. -/
def Inner : OpenColumn → DictionaryScratch → Prop
  | .value .., _ => True
  | .nullable c w, _ =>
    (ColumnHeader.bytes ⟨w.slot.name, (ColumnType.nullable c.columnType).render⟩).size ≤ w.maskStart
  | .dictionary _, d => ∃ texts, d.Holds texts

/-- A column as its block opened it and its writes left it: its buffer starts with the header
naming it and its type, it takes the block's row count and holds no more rows than that, and
what it keeps beside the header is in order. -/
structure Sound (o : OpenColumn) (rows : Nat) (d : DictionaryScratch) : Prop where
  header : ∃ rest, o.slot.buf.bytes = columnSegment o.name o.spec.columnType rest
  rows_eq : o.slot.rows = rows
  written_le : o.written ≤ rows
  inner : o.Inner d

/-- A column opened on a slot holding the header the block wrote for it is sound, with the
scratch its opening left. -/
theorem sound_fresh (name : String) (rows cap : Nat) (spec : ColumnSpec) (ws : Workspace) :
    (fresh ⟨name, rows, ⟨ColumnHeader.bytes ⟨name, spec.columnType.render⟩, cap⟩⟩ rows
      spec).Sound rows (ws.preparedFor spec).scratch := by
  cases spec with
  | value c =>
    exact ⟨⟨ByteArray.empty, by simp [columnSegment, ByteArray.append_empty]; rfl⟩, rfl,
      Nat.zero_le _, trivial⟩
  | nullable c => exact ⟨⟨_, rfl⟩, rfl, Nat.zero_le _, Nat.le_refl _⟩
  | dictionary =>
    exact ⟨⟨ByteArray.empty, by simp [columnSegment, ByteArray.append_empty]; rfl⟩, rfl,
      Nat.zero_le _, [], DictionaryScratch.holds_empty⟩

end OpenColumn

/-! ## The block writer -/

namespace BlockWriter

variable {w w' : BlockWriter}

/-- Until the block is finished, its segments are its header followed by one segment per
committed column, each the column's name and canonical type, then its payload. -/
def Laid (w : BlockWriter) : Prop :=
  ∃ parts : List (String × ColumnType × ByteArray), parts.length = w.committed ∧
    w.segments = header w.columns w.rows :: parts.map fun (name, t, payload) =>
      columnSegment name t payload

/-- Committing a column's buffer puts its bytes after the segments committed before it. -/
theorem Laid.commit {name : String} {t : ColumnType} {payload : ByteArray} {buf : Buffer}
    (laid : w.Laid) (bytes : buf.bytes = columnSegment name t payload) :
    { w with buffers := w.buffers ++ [buf], committed := w.committed + 1 }.Laid := by
  obtain ⟨parts, counted, segments⟩ := laid
  refine ⟨parts ++ [(name, t, payload)], by simp [counted], ?_⟩
  simp only [BlockWriter.segments, List.map_append] at segments ⊢
  simp [segments, bytes]

/-- Finishing checks that the block is not finished and that every declared column was
committed. -/
theorem checkComplete_eq_ok_iff : w.checkComplete = .ok () ↔ w.sealed = false ∧ w.committed = w.columns := by
  unfold checkComplete
  by_cases sealed : w.sealed = true
  · rw [if_pos sealed]
    simp [sealed]
  · rw [if_neg sealed]
    by_cases complete : w.committed = w.columns
    · simp [complete, sealed]
    · rw [if_neg complete]
      simp [complete]

theorem checkComplete_sealed (sealed : w.sealed = true) : w.checkComplete = .error alreadyFinished := by
  simp [checkComplete, sealed]

/-- Finishing in place either fails and keeps the writer, or gives the segments joined in order
and seals the block. -/
theorem finish_cases (w : BlockWriter) :
    (∃ e, w.checkComplete = .error e ∧ w.finish = (.error e, w)) ∨
      (w.checkComplete = .ok () ∧ w.finish = (.ok (joinBytes w.segments), w.markSealed)) := by
  unfold finish
  split
  · rename_i e failed
    exact .inl ⟨e, failed, rfl⟩
  · rename_i complete
    exact .inr ⟨complete, rfl⟩

/-- A compressed finish either fails and keeps the writer, or seals the block. -/
theorem finishCompressed_cases (w : BlockWriter) (c : Compression) :
    (∃ e, w.finishCompressed c = (.error e, w)) ∨
      (w.checkComplete = .ok () ∧ ∃ out, w.finishCompressed c = (.ok out, w.markSealed)) := by
  unfold finishCompressed
  split
  · exact .inl ⟨_, rfl⟩
  · rename_i complete
    split
    · exact .inl ⟨_, rfl⟩
    · exact .inr ⟨complete, _, rfl⟩

end BlockWriter

/-! ## Sessions -/

namespace WriteSession

variable {s : WriteSession}

@[simp] theorem sealed_closeColumn (s : WriteSession) :
    s.closeColumn.writer.sealed = s.writer.sealed := by
  rw [closeColumn_writer]

@[simp] theorem columns_closeColumn (s : WriteSession) :
    s.closeColumn.writer.columns = s.writer.columns := by
  rw [closeColumn_writer]

@[simp] theorem rows_closeColumn (s : WriteSession) : s.closeColumn.writer.rows = s.writer.rows := by
  rw [closeColumn_writer]

/-- Finishing in place runs on the block once its open column is dropped. -/
theorem finish_none (s : WriteSession) :
    s.finish none = (s.closeColumn.writer.finish.1,
      { s.closeColumn with writer := s.closeColumn.writer.finish.2 }) := rfl

theorem finish_some (s : WriteSession) (c : Compression) :
    s.finish (some c) = ((s.closeColumn.writer.finishCompressed c).1,
      { s.closeColumn with writer := (s.closeColumn.writer.finishCompressed c).2 }) := rfl

/-- The invariant of a block being written. -/
structure Sound (s : WriteSession) : Prop where
  committed_le : s.writer.committed ≤ s.writer.started
  started_le : s.writer.started ≤ s.writer.columns
  laid : s.writer.sealed = false → s.writer.Laid
  sealed : s.writer.sealed = true → s.writer.segments = []
  column : ∀ o ∈ s.column, s.writer.sealed = false ∧ s.writer.committed < s.writer.started ∧
    o.Sound s.writer.rows s.writer.ws.scratch

/-- A new block's writer, with no column open, is sound, whatever workspace it draws from and
whatever workspace an earlier writer handed back. -/
theorem sound_new (ws : Workspace) (columns rows : Nat) (handedBack : Option Workspace) :
    (⟨BlockWriter.new ws columns rows, none, handedBack⟩ : WriteSession).Sound where
  committed_le := Nat.le_refl 0
  started_le := Nat.zero_le columns
  laid _ := ⟨[], rfl, rfl⟩
  sealed sealed := by cases sealed
  column o mem := by cases mem

/-- Closing the open column keeps a session sound, whatever becomes of the workspace. -/
theorem Sound.close (sound : s.Sound) (ws : Workspace) :
    (⟨{ s.writer with ws := ws }, none, s.handedBack⟩ : WriteSession).Sound := by
  refine ⟨sound.committed_le, sound.started_le, sound.laid, sound.sealed, ?_⟩
  intro o mem
  cases mem

/-- Dropping the open column keeps the block as it is. -/
theorem Sound.closeColumn (sound : s.Sound) : s.closeColumn.Sound := by
  unfold WriteSession.closeColumn
  split
  · exact sound.close _
  · exact sound

/-- A sealed block with no open column is sound as long as its counts are. -/
theorem sound_markSealed {w : BlockWriter} {handedBack : Option Workspace}
    (sound : (⟨w, none, handedBack⟩ : WriteSession).Sound) :
    (⟨w.markSealed, none, handedBack⟩ : WriteSession).Sound := by
  refine ⟨sound.committed_le, sound.started_le, ?_, fun _ => rfl, ?_⟩
  · intro unsealed
    cases unsealed
  · intro o mem
    cases mem

/-- Opening a column succeeds only on an unfinished block with a column left to start; the
session then holds the block with one more column started and the new column open on a buffer
drawn for it, holding the header the block wrote for it. -/
theorem create_ok {name : String} {spec : ColumnSpec} {s' : WriteSession}
    (run : s.create name spec = .ok s') :
    s.writer.sealed = false ∧ s.writer.started < s.writer.columns ∧ ∃ (cap : Nat) (ws : Workspace),
      s' = { s.closeColumn with
        writer := { s.closeColumn.writer with
          ws := ws.preparedFor spec, started := s.closeColumn.writer.started + 1 },
        column := some (.fresh ⟨name, s.closeColumn.writer.rows,
          ⟨ColumnHeader.bytes ⟨name, spec.columnType.render⟩, cap⟩⟩ s.closeColumn.writer.rows spec) } := by
  rw [create_eq] at run
  obtain ⟨opened, run', rfl⟩ := except_map_eq_ok run
  rcases BlockWriter.openColumn_cases s.closeColumn.writer name spec.columnType
      (spec.hint s.closeColumn.writer.rows) with ⟨-, failed⟩ | ⟨-, -, msg, failed⟩ | ⟨unsealed, left, ok⟩
  · rw [failed] at run'
    cases run'
  · rw [failed] at run'
    cases run'
  · rw [ok] at run'
    cases run'
    exact ⟨by simpa using unsealed, by simpa using left, _, _, rfl⟩

theorem Sound.create (sound : s.Sound) (name : String) (spec : Except Error ColumnSpec) :
    (s.call (.create name spec)).2.Sound := by
  have closed := sound.closeColumn
  rw [call_create]
  split
  · rename_i s' created
    obtain ⟨spec', _, opened⟩ := except_bind_eq_ok created
    obtain ⟨unsealed, left, cap, ws, rfl⟩ := create_ok opened
    have unsealed' : s.closeColumn.writer.sealed = false := by simpa using unsealed
    -- The column is started, not committed, and the block's segments are untouched.
    refine ⟨Nat.le_succ_of_le closed.committed_le, by simpa using left,
      fun _ => closed.laid unsealed', fun sealed => ?_, ?_⟩
    · simp [unsealed] at sealed
    · intro o mem
      cases mem
      exact ⟨unsealed', Nat.lt_succ_of_le closed.committed_le,
        OpenColumn.sound_fresh name _ cap spec' ws⟩
  · exact closed

/-- A row keeps the open column sound: a failed write changes nothing, and a written row keeps
the header in front, takes one row more within the count, and keeps a dictionary column's texts
held by the scratch. -/
theorem Sound.writeRow (sound : s.Sound) {o : OpenColumn} (open_ : s.column = some o)
    (v : o.spec.Input) : (s.writeRow o v).2.Sound := by
  obtain ⟨unsealed, started, ⟨⟨rest, header⟩, rowsEq, writtenLe, inner⟩⟩ := sound.column o open_
  cases o with
  | value c w =>
    show (s.setColumn (.value c (w.write v).2)).Sound
    rcases ValueWriter.write_cases w v with kept | ⟨room, bytes, wrote⟩
    · rw [kept, setColumn_of_column open_]
      exact sound
    · rw [wrote]
      refine ⟨sound.committed_le, sound.started_le, sound.laid, sound.sealed, ?_⟩
      intro o mem
      cases mem
      refine ⟨unsealed, started, ⟨rest ++ bytes, ?_⟩, rowsEq, ?_, trivial⟩
      · simp [OpenColumn.slot, OpenColumn.name, OpenColumn.spec, columnSegment] at header ⊢
        rw [header, ByteArray.append_assoc]
      · simp only [OpenColumn.written, OpenColumn.slot, writer_setColumn] at rowsEq writtenLe ⊢
        omega
  | nullable c w =>
    show (s.setColumn (.nullable c (w.write v).2)).Sound
    rcases NullableWriter.write_cases w v with kept | ⟨room, bytes, wrote⟩
    · rw [kept, setColumn_of_column open_]
      exact sound
    · rw [wrote]
      refine ⟨sound.committed_le, sound.started_le, sound.laid, sound.sealed, ?_⟩
      intro o mem
      cases mem
      -- A null's mask byte lies behind the header, so the header stays in front.
      have marked : ∀ x : Bool, ∃ rest', (if x then w.slot.buf.bytes.set! (w.maskStart + w.written) 1
          else w.slot.buf.bytes) = columnSegment w.slot.name (ColumnType.nullable c.columnType) rest' := by
        intro x
        simp only [OpenColumn.slot, OpenColumn.name, OpenColumn.spec, ColumnSpec.columnType]
          at header
        cases x
        · exact ⟨rest, header⟩
        · simp only [if_true, header]
          exact ⟨_, set!_columnSegment rest (by simp only [OpenColumn.Inner] at inner; omega) 1⟩
      obtain ⟨rest', marked'⟩ := marked v.isNone
      refine ⟨unsealed, started, ⟨rest' ++ bytes, ?_⟩, rowsEq, ?_, inner⟩
      · simp only [OpenColumn.slot, OpenColumn.name, OpenColumn.spec, ColumnSpec.columnType,
          ColumnSlot.bytes_setBytes, ColumnSlot.name_setBytes, marked', columnSegment,
          ByteArray.append_assoc]
      · simp only [OpenColumn.written, OpenColumn.slot, writer_setColumn] at rowsEq writtenLe ⊢
        omega
  | dictionary w =>
    show ({ s with writer := s.writer.withScratch (w.write s.writer.ws.scratch v).2.2,
                   column := some (.dictionary (w.write s.writer.ws.scratch v).2.1) } :
      WriteSession).Sound
    rcases DictionaryWriter.write_cases w s.writer.ws.scratch v with kept | ⟨room, wrote⟩
    · rw [kept, ← open_]
      exact sound
    · rw [wrote]
      obtain ⟨texts, holds⟩ := inner
      refine ⟨sound.committed_le, sound.started_le, sound.laid, sound.sealed, ?_⟩
      intro o mem
      cases mem
      refine ⟨unsealed, started, ⟨rest, header⟩, rowsEq, ?_, texts ++ [show String from v],
        holds.add v⟩
      change w.slot.rows = s.writer.rows at rowsEq
      show w.written + 1 ≤ s.writer.rows
      omega

/-- Committing a sound open column succeeds exactly when it has every row: its buffer, the
header then the rows, goes after the block's segments. Otherwise the column fails to finish and
only the workspace changes. Either way the column is closed. -/
theorem commitColumn_cases (sound : s.Sound) {o : OpenColumn} (open_ : s.column = some o) :
    (o.written = s.writer.rows ∧ ∃ buf payload,
      buf.bytes = columnSegment o.name o.spec.columnType payload ∧
      s.commitColumn o = (.ok (), { s with
        writer := { s.writer with buffers := s.writer.buffers ++ [buf],
                                  committed := s.writer.committed + 1 },
        column := none })) ∨
    (o.written ≠ s.writer.rows ∧ ∃ e ws,
      s.commitColumn o = (.error e, { s with writer := { s.writer with ws := ws }, column := none })) := by
  obtain ⟨-, -, ⟨⟨rest, header⟩, rowsEq, -, inner⟩⟩ := sound.column o open_
  by_cases all : o.written = s.writer.rows
  · refine .inl ⟨all, ?_⟩
    cases o with
    | value c w =>
      refine ⟨w.slot.buf, rest, header, ?_⟩
      show ((s.writer.commit w.slot w.written).1,
        { s with writer := (s.writer.commit w.slot w.written).2, column := none }) = _
      rw [BlockWriter.commit_of_rows (show w.written = s.writer.rows from all)]
    | nullable c w =>
      refine ⟨w.slot.buf, rest, header, ?_⟩
      show ((s.writer.commit w.slot w.written).1,
        { s with writer := (s.writer.commit w.slot w.written).2, column := none }) = _
      rw [BlockWriter.commit_of_rows (show w.written = s.writer.rows from all)]
    | dictionary w =>
      obtain ⟨texts, holds⟩ := inner
      obtain ⟨payload, -, finished⟩ :=
        BlockWriter.finishDictionary_of_holds (w := s.writer) (c := w) holds all
      rw [BlockWriter.withScratch_self] at finished
      refine ⟨(w.slot.setBytes (w.slot.buf.bytes ++ payload)).buf, rest ++ payload, ?_, ?_⟩
      · simp only [OpenColumn.slot, OpenColumn.name, OpenColumn.spec] at header ⊢
        simp [ColumnSlot.setBytes, Buffer.setBytes, header, columnSegment, ByteArray.append_assoc]
      · show ((s.writer.finishDictionary w).1,
          { s with writer := (s.writer.finishDictionary w).2, column := none }) = _
        rw [finished]
  · refine .inr ⟨all, ?_⟩
    cases o with
    | value c w =>
      refine ⟨columnShort w.slot.name w.written s.writer.rows, s.writer.ws.release w.slot.buf, ?_⟩
      show ((s.writer.commit w.slot w.written).1,
        { s with writer := (s.writer.commit w.slot w.written).2, column := none }) = _
      rw [BlockWriter.commit_of_short (show w.written ≠ s.writer.rows from all)]
      rfl
    | nullable c w =>
      refine ⟨columnShort w.slot.name w.written s.writer.rows, s.writer.ws.release w.slot.buf, ?_⟩
      show ((s.writer.commit w.slot w.written).1,
        { s with writer := (s.writer.commit w.slot w.written).2, column := none }) = _
      rw [BlockWriter.commit_of_short (show w.written ≠ s.writer.rows from all)]
      rfl
    | dictionary w =>
      refine ⟨columnShort w.slot.name w.written s.writer.rows, s.writer.ws.release w.slot.buf, ?_⟩
      show ((s.writer.finishDictionary w).1,
        { s with writer := (s.writer.finishDictionary w).2, column := none }) = _
      rw [BlockWriter.finishDictionary_of_short (show w.written ≠ s.writer.rows from all)]
      rfl

theorem Sound.write (sound : s.Sound) (row : (spec : ColumnSpec) → spec.Input) :
    (s.call (.write row)).2.Sound := by
  cases open_ : s.column with
  | none =>
    rw [call_write_none row open_]
    exact sound
  | some o =>
    rw [call_write row open_]
    exact sound.writeRow open_ _

theorem Sound.finishColumn (sound : s.Sound) : (s.call .finishColumn).2.Sound := by
  cases open_ : s.column with
  | none =>
    rw [call_finishColumn_none open_]
    exact sound
  | some o =>
    obtain ⟨unsealed, started, -⟩ := sound.column o open_
    rw [call_finishColumn open_]
    rcases commitColumn_cases sound open_ with ⟨-, buf, payload, bytes, committed⟩ | ⟨-, e, ws, failed⟩
    · -- The committed buffer goes after the others, and the column is closed.
      rw [committed]
      refine ⟨started, sound.started_le, fun _ => (sound.laid unsealed).commit bytes, ?_, ?_⟩
      · intro sealed
        simp [unsealed] at sealed
      · intro o mem
        cases mem
    · rw [failed]
      exact sound.close ws

theorem Sound.dropColumn (sound : s.Sound) : (s.call .dropColumn).2.Sound := by
  cases open_ : s.column with
  | none =>
    rw [call_dropColumn_none open_]
    exact sound
  | some o =>
    rw [call_dropColumn open_]
    exact sound.closeColumn

theorem Sound.finish (sound : s.Sound) (c : Option Compression) : (s.call (.finish c)).2.Sound := by
  have closed := sound.closeColumn
  have sealed : (⟨s.closeColumn.writer.markSealed, none, s.closeColumn.handedBack⟩ :
      WriteSession).Sound := by
    apply sound_markSealed
    rw [← column_closeColumn s]
    exact closed
  rw [← column_closeColumn s] at sealed
  rw [call_finish]
  -- A finish either fails and keeps the closed session, or seals its block.
  cases c with
  | none =>
    rw [finish_none]
    rcases BlockWriter.finish_cases s.closeColumn.writer with ⟨e, _, kept⟩ | ⟨_, done⟩
    · rw [kept]
      exact closed
    · rw [done]
      exact sealed
  | some c =>
    rw [finish_some]
    rcases BlockWriter.finishCompressed_cases s.closeColumn.writer c with kept | ⟨_, out, done⟩
    · obtain ⟨e, kept⟩ := kept
      rw [kept]
      exact closed
    · rw [done]
      exact sealed

theorem Sound.finishOwned (s : WriteSession) : (s.call .finishOwned).2.Sound :=
  sound_new Workspace.default 0 0 _

/-- Every call keeps a session sound. -/
theorem Sound.call (sound : s.Sound) (c : WriteCall) : (s.call c).2.Sound := by
  cases c with
  | create name spec => exact sound.create name spec
  | write row => exact sound.write row
  | finishColumn => exact sound.finishColumn
  | dropColumn => exact sound.dropColumn
  | finish c => exact sound.finish c
  | finishOwned => exact Sound.finishOwned s

/-- Every session a run of calls reaches from a new block is sound. -/
theorem sound_runCalls (ws : Workspace) (columns rows : Nat) (calls : List WriteCall) :
    (runCalls WriteSession.call (start ws columns rows) calls).2.Sound :=
  runCalls_invariant WriteSession.call (fun _ c sound => sound.call c) _ calls
    (sound_new ws columns rows none)

/-! ## What each call does -/

/-- Once every declared column was started, an unfinished block refuses every create of a
codec's column with a bounds error. -/
theorem call_create_full (unsealed : s.writer.sealed = false)
    (full : s.writer.started = s.writer.columns) (name : String) (spec : ColumnSpec) :
    ∃ msg, (s.call (.create name (.ok spec))).1 = .failed (.bounds msg) := by
  rcases BlockWriter.openColumn_cases s.closeColumn.writer name spec.columnType
      (spec.hint s.closeColumn.writer.rows) with ⟨sealed, -⟩ | ⟨-, -, msg, failed⟩ | ⟨-, left, -⟩
  · simp [unsealed] at sealed
  · refine ⟨msg, ?_⟩
    rw [call_create_ok, create_eq, failed]
    rfl
  · simp only [started_closeColumn, columns_closeColumn] at left
    omega

/-- A finished block refuses every create of a codec's column. -/
theorem call_create_sealed (sealed : s.writer.sealed = true) (name : String) (spec : ColumnSpec) :
    (s.call (.create name (.ok spec))).1 = .failed BlockWriter.alreadyFinished := by
  rcases BlockWriter.openColumn_cases s.closeColumn.writer name spec.columnType
      (spec.hint s.closeColumn.writer.rows) with ⟨-, failed⟩ | ⟨unsealed, -⟩ | ⟨unsealed, -⟩
  · rw [call_create_ok, create_eq, failed]
    rfl
  · simp [sealed] at unsealed
  · simp [sealed] at unsealed

/-- A sound open column commits exactly when it has every row. -/
theorem call_finishColumn_done_iff (sound : s.Sound) {o : OpenColumn} (open_ : s.column = some o) :
    (s.call .finishColumn).1 = .done ↔ o.written = s.writer.rows := by
  rw [call_finishColumn open_]
  rcases commitColumn_cases sound open_ with ⟨all, _, _, _, committed⟩ | ⟨short, e, ws, failed⟩
  · rw [committed]
    exact ⟨fun _ => all, fun _ => rfl⟩
  · rw [failed]
    exact ⟨fun answered => (by cases answered), fun all => absurd all short⟩

/-- A committed column's segment goes after every segment before it: its name and type, then its
rows. -/
theorem call_finishColumn_segments (sound : s.Sound) {o : OpenColumn} (open_ : s.column = some o)
    (done : (s.call .finishColumn).1 = .done) :
    ∃ payload, (s.call .finishColumn).2.writer.segments =
      s.writer.segments ++ [columnSegment o.name o.spec.columnType payload] := by
  rw [call_finishColumn open_] at done ⊢
  rcases commitColumn_cases sound open_ with ⟨-, buf, payload, bytes, committed⟩ | ⟨-, e, ws, failed⟩
  · rw [committed]
    refine ⟨payload, ?_⟩
    simp [BlockWriter.segments, bytes]
  · rw [failed] at done
    cases done

/-- Finishing a block in place succeeds exactly when it is not yet finished and every declared
column was committed. -/
theorem call_finish_block_iff :
    (∃ out, (s.call (.finish none)).1 = .block out) ↔
      s.writer.sealed = false ∧ s.writer.committed = s.writer.columns := by
  rw [call_finish, finish_none]
  have complete := BlockWriter.checkComplete_eq_ok_iff (w := s.closeColumn.writer)
  simp only [sealed_closeColumn, committed_closeColumn, columns_closeColumn] at complete
  rw [← complete]
  rcases BlockWriter.finish_cases s.closeColumn.writer with ⟨e, failed, kept⟩ | ⟨ok, done⟩
  · rw [kept, failed]
    constructor
    · rintro ⟨_, answer⟩
      cases answer
    · intro ok
      cases ok
  · rw [done, ok]
    exact ⟨fun _ => rfl, fun _ => ⟨_, rfl⟩⟩

/-- A block finished in place is its segments joined in order. -/
theorem call_finish_out {out : ByteArray} (finished : (s.call (.finish none)).1 = .block out) :
    out = joinBytes s.writer.segments := by
  rw [call_finish, finish_none] at finished
  rw [← segments_closeColumn]
  rcases BlockWriter.finish_cases s.closeColumn.writer with ⟨e, _, kept⟩ | ⟨_, done⟩
  · rw [kept] at finished
    cases finished
  · rw [done] at finished
    cases finished
    rfl

/-- A finish that succeeds leaves the block finished. -/
theorem call_finish_sealed {c : Option Compression} {out : ByteArray}
    (finished : (s.call (.finish c)).1 = .block out) : (s.call (.finish c)).2.writer.sealed = true := by
  rw [call_finish] at finished ⊢
  cases c with
  | none =>
    rw [finish_none] at finished ⊢
    rcases BlockWriter.finish_cases s.closeColumn.writer with ⟨e, _, kept⟩ | ⟨_, done⟩
    · rw [kept] at finished
      cases finished
    · rw [done]
      rfl
  | some c =>
    rw [finish_some] at finished ⊢
    rcases BlockWriter.finishCompressed_cases s.closeColumn.writer c with ⟨e, kept⟩ | ⟨_, _, done⟩
    · rw [kept] at finished
      cases finished
    · rw [done]
      rfl

/-- A finished block refuses every further finish. -/
theorem call_finish_of_sealed (sealed : s.writer.sealed = true) (c : Option Compression) :
    (s.call (.finish c)).1 = .failed BlockWriter.alreadyFinished := by
  have refused := BlockWriter.checkComplete_sealed (w := s.closeColumn.writer) (by simp [sealed])
  rw [call_finish]
  cases c with
  | none => simp only [finish_none, BlockWriter.finish, refused, WriteAnswer.ofBlock]
  | some c => simp only [finish_some, BlockWriter.finishCompressed, refused, WriteAnswer.ofBlock]

end WriteSession

/-- The block writer's state machine. Whatever calls a caller makes on a block of any declared
column and row counts, drawing from any workspace (creating columns of any codec, writing rows,
finishing or dropping columns, finishing the block in place, compressed or not, or by consuming
the writer), every session it reaches is `Sound`: the columns committed are no more than those
started, and those no more than declared; until the block is finished its segments are the header
of the two counts and then one segment per committed column, its name, canonical type and
payload; the open column's buffer starts with its header, it has no more rows than declared, and
a dictionary column's keys lie among the scratch's texts. From any such session: once every
column was started, a create fails with a bounds error; the open column commits exactly when it
has every row, its segment going after those committed before; finishing in place succeeds
exactly when the block is unfinished and every column committed, and gives the segments joined in
order; a finish that succeeds leaves the block finished; and a finished block refuses every create
and every finish. -/
theorem writer_states_sound (ws : Workspace) (columns rows : Nat) (calls : List WriteCall) :
    let s := (runCalls WriteSession.call (WriteSession.start ws columns rows) calls).2
    s.Sound ∧
    (s.writer.sealed = false → s.writer.started = s.writer.columns →
      ∀ name spec, ∃ msg, (s.call (.create name (.ok spec))).1 = .failed (.bounds msg)) ∧
    (∀ o, s.column = some o → ((s.call .finishColumn).1 = .done ↔ o.written = s.writer.rows)) ∧
    (∀ o, s.column = some o → (s.call .finishColumn).1 = .done →
      ∃ payload, (s.call .finishColumn).2.writer.segments =
        s.writer.segments ++ [columnSegment o.name o.spec.columnType payload]) ∧
    ((∃ out, (s.call (.finish none)).1 = .block out) ↔
      s.writer.sealed = false ∧ s.writer.committed = s.writer.columns) ∧
    (∀ out, (s.call (.finish none)).1 = .block out → out = joinBytes s.writer.segments) ∧
    (∀ c out, (s.call (.finish c)).1 = .block out → (s.call (.finish c)).2.writer.sealed = true) ∧
    (s.writer.sealed = true →
      (∀ name spec, (s.call (.create name (.ok spec))).1 = .failed BlockWriter.alreadyFinished) ∧
      ∀ c, (s.call (.finish c)).1 = .failed BlockWriter.alreadyFinished) := by
  intro s
  have sound : s.Sound := WriteSession.sound_runCalls ws columns rows calls
  refine ⟨sound, fun unsealed full name spec => WriteSession.call_create_full unsealed full name spec,
    fun o open_ => WriteSession.call_finishColumn_done_iff sound open_,
    fun o open_ done => WriteSession.call_finishColumn_segments sound open_ done,
    WriteSession.call_finish_block_iff, fun out finished => WriteSession.call_finish_out finished,
    fun c out finished => WriteSession.call_finish_sealed finished, fun sealed => ?_⟩
  exact ⟨fun name spec => WriteSession.call_create_sealed sealed name spec,
    fun c => WriteSession.call_finish_of_sealed sealed c⟩

end NativeBlock
