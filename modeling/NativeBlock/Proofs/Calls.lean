import NativeBlock.Block.WriteSession
import NativeBlock.Proofs.Prefixes

/-!
# Calls on readers and writers

A block reader, and a block being written, are used through a sequence of calls. Every call
gives an answer and leaves a state, whether it succeeded or failed. `runCalls` makes a list of
calls one after another and collects their answers in order.

* `ReadCall`, defined beside the reader, is a call on a block reader: a peek at the next header, a skip, or
  a read of the next column with the reader of a layout. A read whose codec has parameters names
  the layout its codec's constructor built, or that constructor's failure (`FixedString(0)`, a
  `DateTime64` scale above 9, a decimal precision outside its storage width).
* `WriteCall` is a call on a block being written: creating a column (again of a layout, or of a
  constructor's failure), writing a row to the open column, finishing or dropping that column,
  and finishing the block in place or by consuming the writer. A row is a value of the type the
  open column's layout takes (`ColumnSpec.Input`), as the caller holding that column's writer
  gives it.

The laws of runs are stated once for every state machine (`runCalls_invariant`,
`runCalls_answers_eq`, `runCalls_of_unchanged`), and every call gets its equations here, so later
proofs never unfold the readers and sessions again.
-/

namespace NativeBlock

/-- Makes calls one after another from a state, collecting their answers in order. -/
def runCalls {σ κ α : Type} (call : σ → κ → α × σ) : σ → List κ → List α × σ
  | s, [] => ([], s)
  | s, c :: cs =>
    let (a, s) := call s c
    let (as, s) := runCalls call s cs
    (a :: as, s)

section Runs

variable {σ κ α : Type} (call : σ → κ → α × σ)

@[simp] theorem runCalls_nil (s : σ) : runCalls call s [] = ([], s) := rfl

@[simp] theorem runCalls_cons (s : σ) (c : κ) (cs : List κ) :
    runCalls call s (c :: cs) =
      ((call s c).1 :: (runCalls call (call s c).2 cs).1, (runCalls call (call s c).2 cs).2) :=
  rfl

/-- A property that every call keeps holds after any run. -/
theorem runCalls_invariant {P : σ → Prop} (keep : ∀ s c, P s → P (call s c).2) :
    ∀ (s : σ) (cs : List κ), P s → (P (runCalls call s cs).2) := by
  intro s cs holds
  induction cs generalizing s with
  | nil => exact holds
  | cons c cs ih => exact ih _ (keep s c holds)

/-- Two states related by a relation that every call keeps, answering alike, answer alike over
any run. -/
theorem runCalls_answers_eq {R : σ → σ → Prop}
    (step : ∀ s t c, R s t → (call s c).1 = (call t c).1 ∧ R (call s c).2 (call t c).2) :
    ∀ (s t : σ) (cs : List κ), R s t → (runCalls call s cs).1 = (runCalls call t cs).1 := by
  intro s t cs related
  induction cs generalizing s t with
  | nil => rfl
  | cons c cs ih =>
    obtain ⟨same, next⟩ := step s t c related
    simp only [runCalls_cons, same, ih _ _ next]

/-- A call that leaves its state as it was can be struck from a run: every later call answers as
it would have without it, and the run ends where it would have. -/
theorem runCalls_of_unchanged {s : σ} {c : κ} (same : (call s c).2 = s) (later : List κ) :
    runCalls call s (c :: later) =
      ((call s c).1 :: (runCalls call s later).1, (runCalls call s later).2) := by
  rw [runCalls_cons, same]

end Runs

/-! ## Writer calls -/

/-- The bytes a column of the layout reserves for `rows` rows. -/
def ColumnSpec.hint (rows : Nat) : ColumnSpec → Nat
  | .value c => c.reserveHint rows
  | .nullable c => min (c.reserveHint rows + rows) Codec.maxLength
  | .dictionary => rows

/-- The column a layout's writer opens on a slot holding its header: no row yet, and for a
nullable column a null mask of one zero byte per row behind the header. -/
def OpenColumn.fresh (slot : ColumnSlot) (rows : Nat) : ColumnSpec → OpenColumn
  | .value c => .value c ⟨slot, 0⟩
  | .nullable c =>
    .nullable c ⟨slot.setBytes (slot.buf.bytes ++ ⟨Array.replicate rows 0⟩), slot.buf.bytes.size, 0⟩
  | .dictionary => .dictionary ⟨slot, 0⟩

/-- The workspace once a column of the layout is opened: a dictionary column clears the
scratch. -/
def Workspace.preparedFor (ws : Workspace) : ColumnSpec → Workspace
  | .dictionary => { ws with scratch := .empty }
  | _ => ws

/-- A call on a block being written. -/
inductive WriteCall where
  /-- Opens a column, after dropping the one open: of the layout asked for, or of the failure of
  the constructor that was to build its codec. -/
  | create (name : String) (spec : Except Error ColumnSpec)
  /-- Writes one row to the open column, a value of the type its layout takes. -/
  | write (row : (spec : ColumnSpec) → spec.Input)
  /-- Finishes the open column and commits it to the block. -/
  | finishColumn
  /-- Drops the open column unfinished. -/
  | dropColumn
  /-- Finishes the block into a buffer, compressed when a compression is named. -/
  | finish (compression : Option Compression)
  /-- Finishes the block and ends its writer. -/
  | finishOwned

/-- What a writer call answers. -/
inductive WriteAnswer where
  /-- It succeeded and returns nothing. -/
  | done
  | block (bytes : ByteArray)
  | failed (e : Error)
  /-- A call on the open column was made while none was open. -/
  | noColumn

namespace WriteAnswer

/-- The answer of a call that returns nothing when it succeeds. -/
def ofUnit : Except Error Unit → WriteAnswer
  | .ok () => .done
  | .error e => .failed e

/-- The answer of a call that returns the block when it succeeds. -/
def ofBlock : Except Error ByteArray → WriteAnswer
  | .ok bytes => .block bytes
  | .error e => .failed e

end WriteAnswer

namespace WriteSession

variable {s : WriteSession}

def call (s : WriteSession) : WriteCall → WriteAnswer × WriteSession
  | .create name spec =>
    match spec.bind (s.create name) with
    | .ok s' => (.done, s')
    | .error e => (.failed e, s.closeColumn)
  | .write row =>
    match s.column with
    | none => (.noColumn, s)
    | some o => (.ofUnit (s.writeRow o (row o.spec)).1, (s.writeRow o (row o.spec)).2)
  | .finishColumn =>
    match s.column with
    | none => (.noColumn, s)
    | some o => (.ofUnit (s.commitColumn o).1, (s.commitColumn o).2)
  | .dropColumn =>
    match s.column with
    | none => (.noColumn, s)
    | some _ => (.done, s.closeColumn)
  | .finish c => (.ofBlock (s.finish c).1, (s.finish c).2)
  | .finishOwned => (.ofBlock s.finishOwned.1, s.finishOwned.2)

/-- Opening a column drops the open one, opens the next column in the block and starts that
column's writer on the slot the block drew for it. -/
theorem create_eq (s : WriteSession) (name : String) (spec : ColumnSpec) :
    s.create name spec =
      (s.closeColumn.writer.openColumn name spec.columnType (spec.hint s.closeColumn.writer.rows)).map
        fun opened => { s.closeColumn with
          writer := { opened.2 with ws := opened.2.ws.preparedFor spec },
          column := some (.fresh opened.1 opened.2.rows spec) } := by
  cases spec <;>
    simp only [create, BlockWriter.createColumn, BlockWriter.createNullable,
      BlockWriter.createDictionary, ColumnSpec.columnType, ColumnSpec.hint] <;>
    cases s.closeColumn.writer.openColumn _ _ _ <;> rfl

theorem call_create (name : String) (spec : Except Error ColumnSpec) :
    s.call (.create name spec) = match spec.bind (s.create name) with
      | .ok s' => (.done, s')
      | .error e => (.failed e, s.closeColumn) := rfl

theorem call_create_error (name : String) (e : Error) :
    s.call (.create name (.error e)) = (.failed e, s.closeColumn) := rfl

theorem call_create_ok (name : String) (spec : ColumnSpec) :
    s.call (.create name (.ok spec)) = match s.create name spec with
      | .ok s' => (.done, s')
      | .error e => (.failed e, s.closeColumn) := rfl

theorem call_write_none (row : (spec : ColumnSpec) → spec.Input) (none : s.column = none) :
    s.call (.write row) = (.noColumn, s) := by
  simp only [call, none]

theorem call_write {o : OpenColumn} (row : (spec : ColumnSpec) → spec.Input)
    (open_ : s.column = some o) :
    s.call (.write row) = (.ofUnit (s.writeRow o (row o.spec)).1, (s.writeRow o (row o.spec)).2) := by
  simp only [call, open_]

theorem call_finishColumn_none (none : s.column = none) :
    s.call .finishColumn = (.noColumn, s) := by
  simp only [call, none]

theorem call_finishColumn {o : OpenColumn} (open_ : s.column = some o) :
    s.call .finishColumn = (.ofUnit (s.commitColumn o).1, (s.commitColumn o).2) := by
  simp only [call, open_]

theorem call_dropColumn_none (none : s.column = none) : s.call .dropColumn = (.noColumn, s) := by
  simp only [call, none]

theorem call_dropColumn {o : OpenColumn} (open_ : s.column = some o) :
    s.call .dropColumn = (.done, s.closeColumn) := by
  simp only [call, open_]

theorem call_finish (c : Option Compression) :
    s.call (.finish c) = (.ofBlock (s.finish c).1, (s.finish c).2) := rfl

theorem call_finishOwned : s.call .finishOwned = (.ofBlock s.finishOwned.1, s.finishOwned.2) := rfl

end WriteSession

end NativeBlock
