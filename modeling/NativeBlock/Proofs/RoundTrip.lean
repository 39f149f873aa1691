import NativeBlock.Proofs.ColumnRead

/-!
# Blocks read back as written

A block is written by opening its columns in order, writing every row of each, finishing each
column into the block and finishing the block. Read with the reader for each column's layout,
in the same order, it gives back the declared counts, every column's name and every row, each
as what its codec keeps of it: FixedString texts lose their trailing NULs, DateTime64 instants
are cut to the column's precision, decimals are rescaled to the column's scale, and everything
else comes back unchanged.

The written block is the header and then one segment per column (`writeBlock_eq_ok`); the
reader walks the segments one after another (`readColumns_laid`), each read by
`ColumnData.openCursor_laid`.

Main statement: `block_round_trip`.
-/

namespace NativeBlock

open Wire

/-- Writes a block of `rows` rows holding the columns in order: each column is opened, written,
finished and committed, then the block is finished. -/
def writeBlock (ws : Workspace) (rows : Nat) (cols : List ColumnData) :
    Except Error ByteArray := do
  let w ← cols.foldlM ColumnData.write (BlockWriter.new ws cols.length rows)
  w.finish.1

/-- Opens every column in order with the reader for its layout. -/
def readColumns (s : ReadSession) : List ColumnSpec → Except Error (List OpenCursor)
  | [] => .ok []
  | spec :: specs => do
    let (cur, s) ← s.openCursor spec
    let curs ← readColumns s specs
    pure (cur :: curs)

/-! ## Writing -/

namespace BlockWriter

/-- A new writer holds the block header and nothing else. -/
theorem segments_new (ws : Workspace) (columns rows : Nat) :
    (new ws columns rows).segments = [header columns rows] := rfl

/-- A writer with room for `cols`, whose columns each have its row count and rows that encode,
commits them one segment each, every segment laid out for its column. -/
theorem foldlM_write {cols : List ColumnData} :
    ∀ {w : BlockWriter}, w.sealed = false → w.started + cols.length ≤ w.columns →
      (∀ col ∈ cols, col.length = w.rows ∧ col.Encodes) →
      ∃ segments w', List.Forall₂ ColumnData.Laid cols segments ∧
        cols.foldlM ColumnData.write w = .ok w' ∧ w'.sealed = false ∧ w'.columns = w.columns ∧
        w'.committed = w.committed + cols.length ∧ w'.segments = w.segments ++ segments := by
  induction cols with
  | nil =>
    intro w unsealed _ _
    exact ⟨[], w, .nil, rfl, unsealed, rfl, rfl, by simp⟩
  | cons col cols ih =>
    intro w unsealed room writable
    simp only [List.length_cons] at room
    obtain ⟨counted, encodes⟩ := writable col (List.mem_cons_self ..)
    obtain ⟨ws, buf, run, laid⟩ :=
      ColumnData.write_eq_ok unsealed (by omega) counted encodes
    obtain ⟨segments, w', rest, runs, unsealed', columns, committed, segmentsEq⟩ :=
      ih (w := w.committedWith ws buf) unsealed (by simp [committedWith]; omega)
        (fun col mem => writable col (List.mem_cons_of_mem _ mem))
    refine ⟨buf.bytes :: segments, w', .cons laid rest, ?_, unsealed', columns, ?_, ?_⟩
    · rw [List.foldlM_cons, run]
      exact runs
    · simp only [committed, committedWith, List.length_cons]
      omega
    · simp [segmentsEq]

end BlockWriter

/-- The block header: the column count's varint, then the row count's. -/
theorem header_eq (columns rows : Nat) :
    BlockWriter.header columns rows =
      (encodeUVarint columns).toByteArray ++ (encodeUVarint rows).toByteArray := by
  simp [BlockWriter.header, writeUVarint, ByteArray.empty_append]

/-- Columns of the block's row count whose rows encode are written as the header, then one
segment per column, whatever the workspace. -/
theorem writeBlock_eq_ok (ws : Workspace) (rows : Nat) {cols : List ColumnData}
    (writable : ∀ col ∈ cols, col.length = rows ∧ col.Encodes) :
    ∃ segments, List.Forall₂ ColumnData.Laid cols segments ∧
      writeBlock ws rows cols =
        .ok (BlockWriter.header cols.length rows ++ joinBytes segments) := by
  obtain ⟨segments, w, laid, run, unsealed, columns, committed, segmentsEq⟩ :=
    BlockWriter.foldlM_write (w := BlockWriter.new ws cols.length rows) rfl
      (by simp [BlockWriter.new]) writable
  refine ⟨segments, laid, ?_⟩
  have complete : w.checkComplete = .ok () := by
    unfold BlockWriter.checkComplete
    rw [if_neg (by simp [unsealed]), if_pos (by rw [committed, columns]; simp [BlockWriter.new])]
  simp only [writeBlock, run, bind, Except.bind, BlockWriter.finish, complete, segmentsEq,
    BlockWriter.segments_new]
  rw [List.foldl_append, foldl_append_eq]
  rfl

/-! ## Reading -/

/-- The reader of a block that starts with the header of the counts it declares. -/
theorem new_header {columns rows : Nat} {rest : ByteArray} (columnsFit : columns < 2 ^ 64)
    (rowsFit : rows < 2 ^ 64) :
    BlockReader.new (BlockWriter.header columns rows ++ rest) =
      .ok ⟨BlockWriter.header columns rows ++ rest, (BlockWriter.header columns rows).size,
        columns, rows, 0⟩ := by
  have placed := Placed.front (BlockWriter.header columns rows) rest
  rw [header_eq] at placed ⊢
  have columnsRead := readUVarint_placed columnsFit placed.left
  have rowsRead := readUVarint_placed rowsFit placed.right
  simp only [Nat.zero_add, List.size_toByteArray, length_encodeUVarint] at columnsRead rowsRead
  unfold BlockReader.new
  rw [columnsRead]
  dsimp only
  rw [rowsRead]
  simp

/-- From a reader at the first of the segments, the columns laid out in them are opened in order,
each giving back its name and every row. -/
theorem readColumns_laid {cols : List ColumnData} {segments : List ByteArray}
    (laid : List.Forall₂ ColumnData.Laid cols segments) :
    ∀ {r : BlockReader}, (∀ col ∈ cols, col.length = r.rows ∧ col.Writable) →
      r.columnsRead + cols.length ≤ r.columns → Placed r.bytes r.pos (joinBytes segments) →
      r.bytes.size < 2 ^ 64 →
      ∃ curs, readColumns (.start r) (cols.map (·.spec)) = .ok curs ∧
        List.Forall₂ ColumnData.ReadBackBy cols curs := by
  induction laid with
  | nil =>
    intro r _ _ _ _
    exact ⟨[], rfl, .nil⟩
  | @cons col segment cols segments first _ ih =>
    intro r writable left placed fits
    rw [joinBytes_cons] at placed
    simp only [List.length_cons] at left
    obtain ⟨counted, takes⟩ := writable col (List.mem_cons_self ..)
    obtain ⟨cur, opened, back⟩ :=
      ColumnData.openCursor_laid (by omega) counted first placed.left fits
    obtain ⟨curs, rest, kept⟩ := ih (r := r.advance r.pos segment.size)
      (fun col mem => writable col (List.mem_cons_of_mem _ mem))
      (by simp [BlockReader.advance]; omega) placed.right fits
    refine ⟨cur :: curs, ?_, .cons (back takes) kept⟩
    simp only [List.map_cons, readColumns, opened, rest, bind, Except.bind, pure, Except.pure]

/-- Block round trip. Columns of `rows` rows whose every row the writer takes are written into a
block; read back with the reader for each column's layout, in order, the block declares as many
columns as were written and `rows` rows, and every column comes back with its name and every
row, each as what its codec keeps of it. The counts and the block's size are 64-bit lengths. -/
theorem block_round_trip (ws : Workspace) (rows : Nat) (cols : List ColumnData)
    (rowsFit : rows < 2 ^ 64) (countFits : cols.length < 2 ^ 64)
    (writable : ∀ col ∈ cols, col.length = rows ∧ col.Writable) :
    ∃ bytes, writeBlock ws rows cols = .ok bytes ∧
      (bytes.size < 2 ^ 64 →
        ∃ r curs, BlockReader.new bytes = .ok r ∧ r.columns = cols.length ∧ r.rows = rows ∧
          readColumns (.start r) (cols.map (·.spec)) = .ok curs ∧
          List.Forall₂ ColumnData.ReadBackBy cols curs) := by
  obtain ⟨segments, laid, written⟩ :=
    writeBlock_eq_ok ws rows fun col mem => ⟨(writable col mem).1, (writable col mem).2.encodes⟩
  refine ⟨_, written, fun fits => ?_⟩
  -- The segments stand right behind the header.
  have placed := (Placed.whole (joinBytes segments)).after (BlockWriter.header cols.length rows)
  rw [Nat.add_zero] at placed
  obtain ⟨curs, read, kept⟩ := readColumns_laid laid (r := ⟨_, _, cols.length, rows, 0⟩) writable
    (by simp) placed fits
  exact ⟨_, curs, new_header countFits rowsFit, rfl, rfl, read, kept⟩

/-- The round trip applies to a block of two rows in three columns: 32-bit numbers, nullable
texts and dictionary texts. -/
theorem block_round_trip_three_columns :
    let cols := [ColumnData.value "id" (.unsigned .w32) [5, 7],
      .nullable "note" .string [some "x", none], .dictionary "tag" ["a", "a"]]
    (2 < 2 ^ 64 ∧ cols.length < 2 ^ 64 ∧ ∀ col ∈ cols, col.length = 2 ∧ col.Writable) ∧
    ∃ bytes, writeBlock Workspace.default 2 cols = .ok bytes ∧
      (bytes.size < 2 ^ 64 →
        ∃ r curs, BlockReader.new bytes = .ok r ∧ r.columns = cols.length ∧ r.rows = 2 ∧
          readColumns (.start r) (cols.map (·.spec)) = .ok curs ∧
          List.Forall₂ ColumnData.ReadBackBy cols curs) := by
  intro cols
  have writable : ∀ col ∈ cols, col.length = 2 ∧ col.Writable := by
    intro col mem
    simp only [cols, List.mem_cons, List.not_mem_nil, or_false] at mem
    rcases mem with rfl | rfl | rfl
    · exact ⟨rfl, fun v _ => ⟨⟨_, rfl⟩, trivial⟩⟩
    · exact ⟨rfl, fun o _ v _ => ⟨⟨_, rfl⟩, trivial⟩⟩
    · exact ⟨rfl, trivial⟩
  exact ⟨⟨by decide, by decide, writable⟩,
    block_round_trip Workspace.default 2 cols (by decide) (by decide) writable⟩

end NativeBlock
