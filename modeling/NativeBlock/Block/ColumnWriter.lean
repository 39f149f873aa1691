import NativeBlock.Codec.Rows
import NativeBlock.Codec.Dictionary
import NativeBlock.Wire.Prefixed
import NativeBlock.Block.Place
import NativeBlock.Block.Workspace

/-!
# Column writers

A column writer takes exactly the block's row count of values, in order, into the buffer its
block drew for it, behind the column's header (name and type, both length-prefixed).

* `ValueWriter` encodes each value into the buffer as it arrives.
* `NullableWriter` starts with a null mask of one zero byte per row behind the header; a null row
  sets its mask byte and gets the codec's placeholder, so that later rows stay aligned.
* `DictionaryWriter` collects its rows in the workspace's dictionary scratch: the distinct texts
  in the order first seen, their entries, and every row's key. The dictionary layout goes into
  the buffer when the column finishes.

Every write answers and leaves a writer, whether it succeeded or not. It first checks that a row
is left. A value is encoded straight into the buffer; when the codec refuses it, the buffer is
cut back to where the row began.
-/

namespace NativeBlock

/-- The error for a write after the last row. -/
def columnFull (name : String) (rows : Nat) : Error :=
  .bounds s!"column `{name}` declares {rows} rows, cannot write another"

/-- The error for finishing a column that is missing rows. -/
def columnShort (name : String) (written rows : Nat) : Error :=
  .framing s!"column `{name}`: wrote {written} of {rows} rows"

/-- A column's buffer while it is written: its name, the block's row count, and the buffer,
holding the column's header and the rows so far. -/
structure ColumnSlot where
  name : String
  rows : Nat
  buf : Buffer

namespace ColumnSlot

def setBytes (s : ColumnSlot) (bytes : ByteArray) : ColumnSlot :=
  { s with buf := s.buf.setBytes bytes }

/-- Encodes `v` into the buffer as row `row`. When the codec refuses it, the buffer is cut back
to where the row began and the failure names the row. -/
def encodeRow (s : ColumnSlot) (codec : Codec) (v : codec.Value) (row : Nat) :
    Except Error Unit × ColumnSlot :=
  let start := s.buf.bytes.size
  let ran := codec.encodeInto v s.buf.bytes
  match ran.1 with
  | .ok _ => (.ok (), s.setBytes ran.2)
  | .error e => (.error (e.within (rowPlace s.name row)), s.setBytes (ran.2.extract 0 start))

end ColumnSlot

/-- Writes values one after another while the writes succeed: the writer after the last, or the
first failure. -/
def writeAll {σ α : Type} (write : σ → α → Except Error Unit × σ) (s : σ) : List α → Except Error σ
  | [] => .ok s
  | v :: vs => (write s v).1.bind fun _ => writeAll write (write s v).2 vs

structure ValueWriter (codec : Codec) where
  slot : ColumnSlot
  written : Nat

namespace ValueWriter

variable {codec : Codec}

def remaining (c : ValueWriter codec) : Nat := c.slot.rows - c.written

def write (c : ValueWriter codec) (v : codec.Value) : Except Error Unit × ValueWriter codec :=
  if c.slot.rows ≤ c.written then (.error (columnFull c.slot.name c.slot.rows), c)
  else
    match c.slot.encodeRow codec v c.written with
    | (.ok _, slot) => (.ok (), { c with slot := slot, written := c.written + 1 })
    | (.error e, slot) => (.error e, { c with slot := slot })

end ValueWriter

structure NullableWriter (codec : Codec) where
  slot : ColumnSlot
  /-- Where the null mask begins in the buffer. -/
  maskStart : Nat
  written : Nat

namespace NullableWriter

variable {codec : Codec}

def remaining (c : NullableWriter codec) : Nat := c.slot.rows - c.written

/-- Writes one row: a value, or a null, whose mask byte is set and whose slot is the codec's
placeholder. -/
def write (c : NullableWriter codec) (v : Option codec.Value) :
    Except Error Unit × NullableWriter codec :=
  if c.slot.rows ≤ c.written then (.error (columnFull c.slot.name c.slot.rows), c)
  else
    match v with
    | some v =>
      match c.slot.encodeRow codec v c.written with
      | (.ok _, slot) => (.ok (), { c with slot := slot, written := c.written + 1 })
      | (.error e, slot) => (.error e, { c with slot := slot })
    | none =>
      let marked := c.slot.buf.bytes.set! (c.maskStart + c.written) 1
      (.ok (), { c with slot := c.slot.setBytes (marked ++ codec.placeholder),
                        written := c.written + 1 })

end NullableWriter

/-- Accepts texts for a `LowCardinality(String)` column; its rows live in the workspace's
dictionary scratch until it finishes. -/
structure DictionaryWriter where
  slot : ColumnSlot
  written : Nat

namespace DictionaryWriter

def remaining (c : DictionaryWriter) : Nat := c.slot.rows - c.written

/-- Writes one text into the scratch `d`. -/
def write (c : DictionaryWriter) (d : DictionaryScratch) (v : String) :
    Except Error Unit × DictionaryWriter × DictionaryScratch :=
  if c.slot.rows ≤ c.written then (.error (columnFull c.slot.name c.slot.rows), c, d)
  else (.ok (), { c with written := c.written + 1 }, d.add v)

end DictionaryWriter

end NativeBlock
