import NativeBlock.Codec.Rows
import NativeBlock.Codec.Dictionary
import NativeBlock.Block.Place

/-!
# Column cursors

A cursor hands out a column's values in row order. All three kinds keep the same protocol: the
row index only grows and never passes the row count; a value moves it on by one; the first
failure moves it to the end, after which every request is a bounds error. Failures name the
column and the row.

* `ValueCursor` decodes each row from the column's bytes; after the last row every byte must
  have been used.
* `NullableCursor` reads the null mask and decodes the value under every row, null or not, so
  that later rows stay aligned; a row whose mask byte is nonzero is `none`.
* `DictionaryCursor` looks each row's key up in the column's dictionary.

`drain` runs a cursor to its end and keeps every answer, the failure included. `next?` is the
iterator's step, which answers only while rows are left, and `sizeHint` its count of the items to
come.
-/

namespace NativeBlock

/-- The error for a request after the last row. -/
def exhausted (name : String) (rows : Nat) : Error :=
  .bounds s!"column `{name}` has {rows} rows, all already read"

/-- The iterator's step over a cursor with `index` of `rows` rows handed out and request `next`:
the request's answer while rows are left, and nothing, the cursor as it was, once every row is
out. -/
def iterStep {σ α : Type} (index rows : σ → Nat) (next : σ → α × σ) (c : σ) : Option α × σ :=
  if index c < rows c then (some (next c).1, (next c).2) else (none, c)

/-- The iterator's size hint with `n` rows left: `n` items, as lower and as upper bound. -/
def exactHint (n : Nat) : Nat × Option Nat := (n, some n)

structure ValueCursor (codec : Codec) where
  name : String
  data : ByteArray
  pos : Nat
  rows : Nat
  index : Nat

namespace ValueCursor

variable {codec : Codec}

def remaining (c : ValueCursor codec) : Nat := c.rows - c.index

def next (c : ValueCursor codec) : Except Error codec.Value × ValueCursor codec :=
  let row := c.index
  if c.rows ≤ row then (.error (exhausted c.name c.rows), c)
  else
    match Codec.decode codec c.data c.pos with
    | .ok v pos =>
      if row + 1 = c.rows ∧ pos ≠ c.data.size then
        let len := c.data.size
        (.error ((Error.framing s!"decoded {pos} of {len} column bytes").within
          (rowPlace c.name row)), { c with pos := pos, index := c.rows })
      else (.ok v, { c with pos := pos, index := row + 1 })
    | .error e pos => (.error (e.within (rowPlace c.name row)), { c with pos := pos, index := c.rows })

/-- A cursor with rows left moves on and keeps its row count. -/
theorem next_progress (c : ValueCursor codec) (h : c.index < c.rows) :
    c.index < (c.next).2.index ∧ (c.next).2.rows = c.rows ∧ (c.next).2.index ≤ c.rows := by
  unfold next
  simp only [Nat.not_le.mpr h, ↓reduceIte]
  split
  · split <;> simp <;> omega
  · simp; omega

/-- The answers for every row left, up to and including the first failure. -/
def drain (c : ValueCursor codec) : List (Except Error codec.Value) :=
  if c.index < c.rows then
    (c.next).1 :: drain (c.next).2
  else []
termination_by c.rows - c.index
decreasing_by have := next_progress c ‹_›; omega

def next? (c : ValueCursor codec) : Option (Except Error codec.Value) × ValueCursor codec :=
  iterStep index rows next c

def sizeHint (c : ValueCursor codec) : Nat × Option Nat := exactHint c.remaining

/-- The cursor once `drain` has run: every row has been handed out. -/
def drained (c : ValueCursor codec) : ValueCursor codec := { c with index := max c.index c.rows }

end ValueCursor

structure NullableCursor (codec : Codec) where
  name : String
  mask : ByteArray
  values : ByteArray
  pos : Nat
  rows : Nat
  index : Nat

namespace NullableCursor

variable {codec : Codec}

def remaining (c : NullableCursor codec) : Nat := c.rows - c.index

/-- Whether row `row` is null, when the mask has that row. -/
def isNull (mask : ByteArray) (row : Nat) : Except Error Bool :=
  match mask[row]? with
  | some b => .ok (b ≠ 0)
  | none => .error (.bounds s!"null mask has no row {row}")

/-- Decodes the next row; a null row is `none`, its placeholder decoded all the same. -/
def next (c : NullableCursor codec) : Except Error (Option codec.Value) × NullableCursor codec :=
  let row := c.index
  if c.rows ≤ row then (.error (exhausted c.name c.rows), c)
  else
    match isNull c.mask row with
    | .error e => (.error (e.within (rowPlace c.name row)), { c with index := c.rows })
    | .ok null =>
      match Codec.decode codec c.values c.pos with
      | .ok v pos => (.ok (if null then none else some v), { c with pos := pos, index := row + 1 })
      | .error e pos =>
        (.error (e.within (rowPlace c.name row)), { c with pos := pos, index := c.rows })

theorem next_progress (c : NullableCursor codec) (h : c.index < c.rows) :
    c.index < (c.next).2.index ∧ (c.next).2.rows = c.rows ∧ (c.next).2.index ≤ c.rows := by
  unfold next
  simp only [Nat.not_le.mpr h, ↓reduceIte]
  split
  · simp; omega
  · split <;> simp <;> omega

def drain (c : NullableCursor codec) : List (Except Error (Option codec.Value)) :=
  if c.index < c.rows then
    (c.next).1 :: drain (c.next).2
  else []
termination_by c.rows - c.index
decreasing_by have := next_progress c ‹_›; omega

def next? (c : NullableCursor codec) :
    Option (Except Error (Option codec.Value)) × NullableCursor codec :=
  iterStep index rows next c

def sizeHint (c : NullableCursor codec) : Nat × Option Nat := exactHint c.remaining

def drained (c : NullableCursor codec) : NullableCursor codec := { c with index := max c.index c.rows }

end NullableCursor

structure DictionaryCursor where
  name : String
  dictionary : Array String
  keys : ByteArray
  keyWidth : Dictionary.KeyWidth
  rows : Nat
  index : Nat

namespace DictionaryCursor

def remaining (c : DictionaryCursor) : Nat := c.rows - c.index

def next (c : DictionaryCursor) : Except Error String × DictionaryCursor :=
  let row := c.index
  if c.rows ≤ row then (.error (exhausted c.name c.rows), c)
  else
    let value : Except Error String :=
      match c.keyWidth.read c.keys row with
      | none => .error (.bounds "key array is shorter than the row count")
      | some key =>
        match c.dictionary[key]? with
        | some s => .ok s
        | none =>
          let len := c.dictionary.size
          .error (.bounds s!"key {key} outside dictionary of {len}")
    match value with
    | .ok s => (.ok s, { c with index := row + 1 })
    | .error e => (.error (e.within (rowPlace c.name row)), { c with index := c.rows })

theorem next_progress (c : DictionaryCursor) (h : c.index < c.rows) :
    c.index < (c.next).2.index ∧ (c.next).2.rows = c.rows ∧ (c.next).2.index ≤ c.rows := by
  unfold next
  simp only [Nat.not_le.mpr h, ↓reduceIte]
  split <;> simp <;> omega

def drain (c : DictionaryCursor) : List (Except Error String) :=
  if c.index < c.rows then
    (c.next).1 :: drain (c.next).2
  else []
termination_by c.rows - c.index
decreasing_by have := next_progress c ‹_›; omega

def next? (c : DictionaryCursor) : Option (Except Error String) × DictionaryCursor :=
  iterStep index rows next c

def sizeHint (c : DictionaryCursor) : Nat × Option Nat := exactHint c.remaining

def drained (c : DictionaryCursor) : DictionaryCursor := { c with index := max c.index c.rows }

end DictionaryCursor

end NativeBlock
