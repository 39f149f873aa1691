import NativeBlock.Block.Cursor
import NativeBlock.Schema.Parse

/-!
# Reading a block

A block starts with two varints, its column count and its row count, followed by each column:
its name and its type string, both length-prefixed, then its rows. `BlockReader` walks the
columns in order. Each call that takes a column checks its header against the type asked for,
measures its bytes and hands back a cursor over them.

The calls that take a column work on the reader in place. Each is a `ReadOp`, an operation that
fails or returns and leaves a reader either way, written as the same steps: read the header
(at a position of its own, so the reader is not touched), check its type, measure the rows, and
last `commit`, the one step that moves the reader. `nextColumn` and its siblings are what
these operations return, with the reader they leave, when they succeed.

A declared type matches a requested one when it is spelled exactly as the requested type's
canonical text, or when it reads as that type: `Decimal64(4)` and `Decimal(18,4)` both match
`Decimal(18, 4)`.
-/

namespace NativeBlock

/-- A column's name and declared type, as its header writes them. -/
structure ColumnHeader where
  name : String
  typeName : String
  deriving DecidableEq, Repr

def ColumnHeader.columnType (h : ColumnHeader) : Except Error ColumnType :=
  Except.within (columnPlace h.name) (ColumnType.parse h.typeName)

/-- The bytes `rows` rows of a column of type `t` take at the start of `data`. -/
def ColumnType.span (data : ByteArray) (rows : Nat) : ColumnType → Except Error Nat
  | .string => Codec.span .string data rows
  | .nullable inner => do
    let mask ← Codec.fixedSpan data rows 1
    let values ← ColumnType.span (data.extract mask data.size) rows inner
    pure (mask + values)
  | .lowCardinality .string => (Dictionary.decode data rows).map (·.consumed)
  | .lowCardinality inner => .error (.unsupported ("LowCardinality(" ++ inner.render ++ ")"))
  | t => match t.fixedWidth with
    | some w => Codec.fixedSpan data rows w
    | none =>
      let text := t.render
      .error (.unsupported s!"column type {text}")

/-- A reader positioned at the header of the next column. -/
structure BlockReader where
  bytes : ByteArray
  pos : Nat
  columns : Nat
  rows : Nat
  columnsRead : Nat

namespace BlockReader

/-- Reads the block's column and row counts. -/
def new (bytes : ByteArray) : Except Error BlockReader :=
  match Wire.readUVarint bytes 0 with
  | .error e _ => .error (e.within "block column count")
  | .ok columns pos =>
    match Wire.readUVarint bytes pos with
    | .error e _ => .error (e.within "block row count")
    | .ok rows pos => .ok ⟨bytes, pos, columns, rows, 0⟩

def isFinished (r : BlockReader) : Bool := r.columns ≤ r.columnsRead

/-- The next column's header and the position of its rows. -/
def readHeader (r : BlockReader) : Except Error (ColumnHeader × Nat) :=
  if r.columns ≤ r.columnsRead then
    let n := r.columns
    .error (.bounds s!"block declares {n} columns, all already read")
  else
    let read : EStateM Error Nat ColumnHeader := do
      let name ← Wire.readText r.bytes
      let typeName ← Wire.readText r.bytes
      pure ⟨name, typeName⟩
    let k := r.columnsRead
    match read r.pos with
    | .ok h pos => .ok (h, pos)
    | .error e _ => .error (e.within s!"column {k} header")

/-- The next column's header, without moving on. -/
def peek (r : BlockReader) : Except Error ColumnHeader := (r.readHeader).map (·.1)

/-- The next column's name and the position of its rows, if its declared type matches
`expected`. -/
def openColumn (r : BlockReader) (expected : ColumnType) : Except Error (String × Nat) := do
  let (h, start) ← r.readHeader
  let canonical := expected.render
  let reads : Bool := match ColumnType.parse h.typeName with
    | .ok t => t == expected
    | .error _ => false
  if h.typeName == canonical || reads then pure (h.name, start)
  else throw (.typeMismatch h.name canonical h.typeName)

/-- The reader after a column of `span` bytes whose rows start at `start`. -/
def advance (r : BlockReader) (start span : Nat) : BlockReader :=
  { r with pos := start + span, columnsRead := r.columnsRead + 1 }

def tail (r : BlockReader) (start : Nat) : ByteArray := r.bytes.extract start r.bytes.size

end BlockReader

/-- An operation on a block reader: it fails or returns a value, and leaves a reader either way. -/
abbrev ReadOp (α : Type) := EStateM Error BlockReader α

namespace ReadOp

variable {α : Type}

/-- Runs the operation on `r`: what it answers, and the reader it leaves. -/
def outcome (op : ReadOp α) (r : BlockReader) : Except Error α × BlockReader :=
  match op r with
  | .ok a r' => (.ok a, r')
  | .error e r' => (.error e, r')

/-- What the operation returns and the reader it leaves, when it succeeds. -/
def result (op : ReadOp α) (r : BlockReader) : Except Error (α × BlockReader) :=
  let ran := op.outcome r
  ran.1.map fun a => (a, ran.2)

end ReadOp

namespace BlockReader

def commit (start span : Nat) : ReadOp Unit := modify (·.advance start span)

def takeColumn (codec : Codec) : ReadOp (ValueCursor codec) := do
  let r ← get
  let opened ← MonadExcept.ofExcept (r.openColumn codec.columnType)
  let data := r.tail opened.2
  let span ← MonadExcept.ofExcept
    (Except.within (columnPlace opened.1) (Codec.span codec data r.rows))
  commit opened.2 span
  pure ⟨opened.1, data.extract 0 span, 0, r.rows, 0⟩

/-- Takes the next column, a `Nullable` of codec `codec`: its null mask and its values. -/
def takeNullable (codec : Codec) : ReadOp (NullableCursor codec) := do
  let r ← get
  let opened ← MonadExcept.ofExcept (r.openColumn (.nullable codec.columnType))
  let data := r.tail opened.2
  let split ← MonadExcept.ofExcept (Except.within (columnPlace opened.1) (do
    let mask ← Codec.fixedSpan data r.rows 1
    let values ← Codec.span codec (data.extract mask data.size) r.rows
    pure (mask, values)))
  commit opened.2 (split.1 + split.2)
  pure ⟨opened.1, data.extract 0 split.1, data.extract split.1 (split.1 + split.2), 0, r.rows, 0⟩

def takeDictionary : ReadOp DictionaryCursor := do
  let r ← get
  let opened ← MonadExcept.ofExcept (r.openColumn (.lowCardinality .string))
  let d ← MonadExcept.ofExcept
    (Except.within (columnPlace opened.1) (Dictionary.decode (r.tail opened.2) r.rows))
  commit opened.2 d.consumed
  pure ⟨opened.1, d.dictionary, d.keys, d.keyWidth, r.rows, 0⟩

/-- Moves past the next column without decoding its rows, measured by the type its header
declares. -/
def skipColumn : ReadOp ColumnHeader := do
  let r ← get
  let read ← MonadExcept.ofExcept r.readHeader
  let t ← MonadExcept.ofExcept read.1.columnType
  let span ← MonadExcept.ofExcept
    (Except.within (columnPlace read.1.name) (ColumnType.span (r.tail read.2) r.rows t))
  commit read.2 span
  pure read.1

/-- The column `takeColumn` takes, and the reader it leaves. -/
def nextColumn (r : BlockReader) (codec : Codec) : Except Error (ValueCursor codec × BlockReader) :=
  (takeColumn codec).result r

def nextNullable (r : BlockReader) (codec : Codec) :
    Except Error (NullableCursor codec × BlockReader) :=
  (takeNullable codec).result r

def nextDictionary (r : BlockReader) : Except Error (DictionaryCursor × BlockReader) :=
  takeDictionary.result r

/-- The header `skipColumn` passes, and the reader it leaves. -/
def skip (r : BlockReader) : Except Error (ColumnHeader × BlockReader) :=
  skipColumn.result r

end BlockReader

end NativeBlock
