import NativeBlock.Block.Writer

/-!
# Writing a block step by step

A `WriteSession` is what a sequence of write steps works on: the block writer, the column that
is open (at most one), and the workspace that a consuming finish handed back, if one did.

A column is open from the step that creates it until it is committed or dropped. Any other step
drops it first (`closeColumn`), which hands its buffer back. A consuming finish ends the writer:
its workspace is handed back once, the first time, and later steps act on a new empty writer of no
columns, with a workspace of its own.
-/

namespace NativeBlock

/-- A column being written: plain values of a codec, values that may be missing, or the texts of
a dictionary-encoded column. -/
inductive OpenColumn where
  | value (c : Codec) (w : ValueWriter c)
  | nullable (c : Codec) (w : NullableWriter c)
  | dictionary (w : DictionaryWriter)

namespace OpenColumn

/-- The column's slot: its name, row count and buffer. -/
def slot : OpenColumn → ColumnSlot
  | .value _ w => w.slot
  | .nullable _ w => w.slot
  | .dictionary w => w.slot

def name (o : OpenColumn) : String := o.slot.name

def written : OpenColumn → Nat
  | .value _ w => w.written
  | .nullable _ w => w.written
  | .dictionary w => w.written

def remaining (o : OpenColumn) : Nat := o.slot.rows - o.written

def spec : OpenColumn → ColumnSpec
  | .value c _ => .value c
  | .nullable c _ => .nullable c
  | .dictionary _ => .dictionary

end OpenColumn

/-- The state that a block's write steps work on. -/
structure WriteSession where
  writer : BlockWriter
  column : Option OpenColumn
  /-- The workspace handed back by the first consuming finish. -/
  handedBack : Option Workspace

namespace WriteSession

def start (ws : Workspace) (columns rows : Nat) : WriteSession :=
  ⟨BlockWriter.new ws columns rows, none, none⟩

/-- Drops the open column, if any, unfinished. -/
def closeColumn (s : WriteSession) : WriteSession :=
  match s.column with
  | some o => { s with writer := s.writer.abandon o.slot, column := none }
  | none => s

def setColumn (s : WriteSession) (o : OpenColumn) : WriteSession := { s with column := some o }

/-- Opens a column of layout `spec`, after dropping the one open. On failure no column is open. -/
def create (s : WriteSession) (name : String) (spec : ColumnSpec) : Except Error WriteSession :=
  let s := s.closeColumn
  let opened : Except Error (OpenColumn × BlockWriter) := match spec with
    | .value c => (s.writer.createColumn name c).map fun (w, b) => (.value c w, b)
    | .nullable c => (s.writer.createNullable name c).map fun (w, b) => (.nullable c w, b)
    | .dictionary => (s.writer.createDictionary name).map fun (w, b) => (.dictionary w, b)
  opened.map fun (o, w) => { s with writer := w, column := some o }

/-- The number of distinct texts of the open column, when it is a dictionary column. -/
def cardinality (s : WriteSession) : Option Nat :=
  match s.column with
  | some (.dictionary _) => some s.writer.ws.scratch.cardinality
  | _ => none

/-- Writes one row to the open column `o`: the answer, and the session after the write, whether
it succeeded or not. A dictionary column writes into the workspace's scratch. -/
def writeRow (s : WriteSession) : (o : OpenColumn) → o.spec.Input → Except Error Unit × WriteSession
  | .value c w, v =>
    let ran := w.write v
    (ran.1, s.setColumn (.value c ran.2))
  | .nullable c w, v =>
    let ran := w.write v
    (ran.1, s.setColumn (.nullable c ran.2))
  | .dictionary w, v =>
    let ran := w.write s.writer.ws.scratch v
    (ran.1, { s with writer := s.writer.withScratch ran.2.2, column := some (.dictionary ran.2.1) })

/-- Finishes the column `o` and commits it into the block; the column is closed either way. -/
def commitColumn (s : WriteSession) (o : OpenColumn) : Except Error Unit × WriteSession :=
  let ran := match o with
    | .value _ c => s.writer.commit c.slot c.written
    | .nullable _ c => s.writer.commit c.slot c.written
    | .dictionary c => s.writer.finishDictionary c
  (ran.1, { s with writer := ran.2, column := none })

/-- Finishes the block, compressed if `c` names a compression. -/
def finish (s : WriteSession) (c : Option Compression) : Except Error ByteArray × WriteSession :=
  let s := s.closeColumn
  let (r, w) := match c with
    | some c => s.writer.finishCompressed c
    | none => s.writer.finish
  (r, { s with writer := w })

/-- Finishes the block and ends its writer; later steps act on a new empty writer. -/
def finishOwned (s : WriteSession) : Except Error ByteArray × WriteSession :=
  let s := s.closeColumn
  let (r, ws) := s.writer.finishOwned
  (r, ⟨BlockWriter.new Workspace.default 0 0, none, some (s.handedBack.getD ws)⟩)

/-- The workspace once the session ends: the one handed back, else the writer's once it and its
open column are dropped. -/
def dropped (s : WriteSession) : Workspace :=
  match s.handedBack with
  | some ws => ws
  | none => s.closeColumn.writer.drop

theorem column_closeColumn (s : WriteSession) : s.closeColumn.column = none := by
  unfold closeColumn
  split <;> simp_all

theorem column_commitColumn (s : WriteSession) (o : OpenColumn) :
    (s.commitColumn o).2.column = none := rfl

theorem closeColumn_of_column_eq_none {s : WriteSession} (h : s.column = none) :
    s.closeColumn = s := by
  simp [closeColumn, h]

theorem closeColumn_closeColumn (s : WriteSession) : s.closeColumn.closeColumn = s.closeColumn :=
  closeColumn_of_column_eq_none (column_closeColumn s)

end WriteSession

end NativeBlock
