import NativeBlock.Block.Reader

/-!
# Reading a block step by step

A `ReadSession` is what a sequence of read steps works on: the block reader and the cursors
opened so far. Every step takes one slot in the cursor list, holding the cursor the step opened
or nothing, so a cursor is named by the number of the step that opened it.

`OpenCursor` joins the three kinds of cursor, and `Cell` the rows they yield: a value of the
column's codec, a missing value, or a text of a dictionary column. A `ReadCall` is one call on
the reader, a peek, a skip or a read of a column with the reader of a layout, and runs as one
operation on it.
-/

namespace NativeBlock

/-- One row a cursor yields. -/
inductive Cell where
  | value (c : Codec) (v : c.Value)
  | null
  | text (s : String)

/-- The row of a column whose values may be missing. -/
def Cell.ofOption (c : Codec) : Option c.Value → Cell
  | some v => .value c v
  | none => .null

inductive OpenCursor where
  | value (c : Codec) (cur : ValueCursor c)
  | nullable (c : Codec) (cur : NullableCursor c)
  | dictionary (cur : DictionaryCursor)

namespace OpenCursor

def name : OpenCursor → String
  | .value _ c => c.name
  | .nullable _ c => c.name
  | .dictionary c => c.name

def rows : OpenCursor → Nat
  | .value _ c => c.rows
  | .nullable _ c => c.rows
  | .dictionary c => c.rows

def remaining : OpenCursor → Nat
  | .value _ c => c.remaining
  | .nullable _ c => c.remaining
  | .dictionary c => c.remaining

def next : OpenCursor → Except Error Cell × OpenCursor
  | .value k c => let (r, c) := c.next; (r.map (.value k), .value k c)
  | .nullable k c => let (r, c) := c.next; (r.map (Cell.ofOption k), .nullable k c)
  | .dictionary c => let (r, c) := c.next; (r.map .text, .dictionary c)

def drain : OpenCursor → List (Except Error Cell)
  | .value k c => c.drain.map (·.map (.value k))
  | .nullable k c => c.drain.map (·.map (Cell.ofOption k))
  | .dictionary c => c.drain.map (·.map .text)

def drained : OpenCursor → OpenCursor
  | .value k c => .value k c.drained
  | .nullable k c => .nullable k c.drained
  | .dictionary c => .dictionary c.drained

theorem rows_next (c : OpenCursor) : c.next.2.rows = c.rows := by
  cases c with
  | value k cur =>
    by_cases h : cur.index < cur.rows
    · simpa [next, rows] using (cur.next_progress h).2.1
    · simp [next, rows, ValueCursor.next, Nat.le_of_not_lt h]
  | nullable k cur =>
    by_cases h : cur.index < cur.rows
    · simpa [next, rows] using (cur.next_progress h).2.1
    · simp [next, rows, NullableCursor.next, Nat.le_of_not_lt h]
  | dictionary cur =>
    by_cases h : cur.index < cur.rows
    · simpa [next, rows] using (cur.next_progress h).2.1
    · simp [next, rows, DictionaryCursor.next, Nat.le_of_not_lt h]

end OpenCursor

namespace BlockReader

/-- Takes the next column with the reader of the layout `spec`. -/
def takeCursor : ColumnSpec → ReadOp OpenCursor
  | .value c => OpenCursor.value c <$> takeColumn c
  | .nullable c => OpenCursor.nullable c <$> takeNullable c
  | .dictionary => OpenCursor.dictionary <$> takeDictionary

end BlockReader

/-- A call on a block reader. -/
inductive ReadCall where
  /-- Reads the next column's header without moving on. -/
  | peek
  /-- Moves past the next column by the type its header declares. -/
  | skip
  /-- Takes the next column with the reader of a layout: the layout asked for, or the failure of
  the constructor that was to build its codec. -/
  | take (spec : Except Error ColumnSpec)

/-- What a reader call hands back: a column's header, or a cursor over its rows. -/
inductive ReadAnswer where
  | header (h : ColumnHeader)
  | cursor (c : OpenCursor)

def ReadCall.op : ReadCall → ReadOp ReadAnswer
  | .peek => do
    let r ← get
    ReadAnswer.header <$> MonadExcept.ofExcept r.peek
  | .skip => ReadAnswer.header <$> BlockReader.skipColumn
  | .take spec => ReadAnswer.cursor <$> (MonadExcept.ofExcept spec >>= BlockReader.takeCursor)

/-- Makes a call on the reader: its answer, and the reader it leaves. -/
def BlockReader.call (r : BlockReader) (c : ReadCall) : Except Error ReadAnswer × BlockReader :=
  c.op.outcome r

/-- The state that a block's read steps work on. -/
structure ReadSession where
  reader : BlockReader
  /-- Slot `i` holds the cursor that step `i` opened, if it opened one. -/
  cursors : Array (Option OpenCursor)

namespace ReadSession

/-- A session on a block whose header has been read. -/
def start (r : BlockReader) : ReadSession := ⟨r, #[]⟩

/-- The cursor that step `i` opened. -/
def cursor? (s : ReadSession) (i : Nat) : Option OpenCursor := s.cursors[i]?.bind id

def setCursor (s : ReadSession) (i : Nat) (c : OpenCursor) : ReadSession :=
  { s with cursors := s.cursors.setIfInBounds i (some c) }

def openCursor (s : ReadSession) (spec : ColumnSpec) : Except Error (OpenCursor × ReadSession) :=
  ((BlockReader.takeCursor spec).result s.reader).map fun (c, r) => (c, { s with reader := r })

def call (s : ReadSession) (c : ReadCall) : Except Error ReadAnswer × ReadSession :=
  let ran := s.reader.call c
  (ran.1, { s with reader := ran.2 })

/-- Ends a step that opened `opened`, giving it the next slot. -/
def endStep (s : ReadSession) (opened : Option OpenCursor) : ReadSession :=
  { s with cursors := s.cursors.push opened }

theorem cursor?_setCursor (s : ReadSession) (i : Nat) (c : OpenCursor) (h : i < s.cursors.size) :
    (s.setCursor i c).cursor? i = some c := by
  simp [setCursor, cursor?, h]

theorem cursor?_endStep (s : ReadSession) (opened : Option OpenCursor) :
    (s.endStep opened).cursor? s.cursors.size = opened := by
  simp [endStep, cursor?]

end ReadSession

end NativeBlock
