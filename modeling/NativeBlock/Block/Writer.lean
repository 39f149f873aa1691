import NativeBlock.Block.ColumnWriter
import NativeBlock.Block.Workspace
import NativeBlock.Codec.Compression

/-!
# Writing a block

`BlockWriter` assembles a block of a declared number of columns, each of a declared number of
rows. It keeps the block header (the two counts as varints) and each finished column in buffers
of its own, in order, and joins them only when the block is finished.

At most one column is open at a time. Opening one checks that the block is not finished and that
a column is left to start, draws a buffer from the workspace and writes the column's header into
it. The column writer then lives on its own; `commit` takes it back once its rows are written,
its buffer becoming the next segment, and `abandon` stands for a column dropped unfinished. A
column's buffer goes back to the workspace unless it became a segment.

Finishing checks that every declared column was committed, joins the segments and hands all their
buffers back. A compressed finish that fails leaves the block as it was. The `Into` forms write
the block into a buffer the caller owns.
-/

namespace NativeBlock

structure BlockWriter where
  ws : Workspace
  columns : Nat
  rows : Nat
  /-- Columns opened so far. -/
  started : Nat
  /-- Columns committed so far. -/
  committed : Nat
  /-- The header's buffer, then one buffer per committed column; none once sealed. -/
  buffers : List Buffer
  sealed : Bool

namespace BlockWriter

/-- The bytes of the header, then of every committed column. -/
def segments (w : BlockWriter) : List ByteArray := w.buffers.map (·.bytes)

/-- The block header: the column count and the row count. -/
def header (columns rows : Nat) : ByteArray :=
  Wire.writeUVarint (Wire.writeUVarint ByteArray.empty columns) rows

/-- A writer for `columns` columns of `rows` rows, drawing its buffers from `ws`; the header's
buffer is drawn for its two varints. -/
def new (ws : Workspace) (columns rows : Nat) : BlockWriter :=
  let drawn := ws.acquire 20
  let head := Wire.writeUVarint (Wire.writeUVarint drawn.1.bytes columns) rows
  ⟨drawn.2, columns, rows, 0, 0, [drawn.1.setBytes head], false⟩

def alreadyFinished : Error := .framing "block already finished"

/-- The room a column's buffer is drawn for: its header's texts with room for their lengths,
then `hint` bytes of rows, at most the largest length. -/
def columnRoom (name : String) (ty : ColumnType) (hint : Nat) : Nat :=
  min (name.utf8ByteSize + ty.render.utf8ByteSize + 20 + hint) Codec.maxLength

/-- Opens the next column, of type `ty`, whose rows are expected to take about `hint` bytes: the
column's slot, its header written, and the writer after it. -/
def openColumn (w : BlockWriter) (name : String) (ty : ColumnType) (hint : Nat) :
    Except Error (ColumnSlot × BlockWriter) :=
  if w.sealed then .error alreadyFinished
  else if w.columns ≤ w.started then
    let n := w.columns
    .error (.bounds s!"block declares {n} columns, cannot add `{name}`")
  else
    let drawn := w.ws.acquire (columnRoom name ty hint)
    let head := Wire.writePrefixed (Wire.writePrefixed drawn.1.bytes name.toUTF8) ty.render.toUTF8
    .ok (⟨name, w.rows, drawn.1.setBytes head⟩, { w with ws := drawn.2, started := w.started + 1 })

def createColumn (w : BlockWriter) (name : String) (codec : Codec) :
    Except Error (ValueWriter codec × BlockWriter) :=
  (w.openColumn name codec.columnType (codec.reserveHint w.rows)).map fun (slot, w) =>
    (⟨slot, 0⟩, w)

/-- Opens the next column, a `Nullable` of codec `codec`, with a null mask of one zero byte per
row. -/
def createNullable (w : BlockWriter) (name : String) (codec : Codec) :
    Except Error (NullableWriter codec × BlockWriter) :=
  let hint := min (codec.reserveHint w.rows + w.rows) Codec.maxLength
  (w.openColumn name (.nullable codec.columnType) hint).map fun (slot, w) =>
    let mask : ByteArray := ⟨Array.replicate w.rows 0⟩
    (⟨slot.setBytes (slot.buf.bytes ++ mask), slot.buf.bytes.size, 0⟩, w)

def withScratch (w : BlockWriter) (d : DictionaryScratch) : BlockWriter :=
  { w with ws := { w.ws with scratch := d } }

/-- Opens the next column, a `LowCardinality(String)`, and clears the dictionary scratch. -/
def createDictionary (w : BlockWriter) (name : String) :
    Except Error (DictionaryWriter × BlockWriter) :=
  (w.openColumn name (.lowCardinality .string) w.rows).map fun (slot, w) =>
    (⟨slot, 0⟩, w.withScratch .empty)

/-- Takes back a column's slot with `written` rows in it. With every row written, its buffer
becomes the next segment and the slot keeps an empty buffer of no room; otherwise the column
fails to finish. Either way the slot is then dropped, handing back the buffer it keeps. -/
def commit (w : BlockWriter) (slot : ColumnSlot) (written : Nat) : Except Error Unit × BlockWriter :=
  if written = w.rows then
    (.ok (), { w with ws := w.ws.release Buffer.empty, buffers := w.buffers ++ [slot.buf],
                      committed := w.committed + 1 })
  else (.error (columnShort slot.name written w.rows), { w with ws := w.ws.release slot.buf })

def succeeded (ran : Except Error Unit × BlockWriter) : Except Error BlockWriter :=
  ran.1.map fun _ => ran.2

/-- A column's slot dropped unfinished: its buffer goes back to the workspace. -/
def abandon (w : BlockWriter) (slot : ColumnSlot) : BlockWriter :=
  { w with ws := w.ws.release slot.buf }

/-- Finishes a dictionary column: with every row written, its dictionary layout goes into its
buffer behind the header, and the column is committed. -/
def finishDictionary (w : BlockWriter) (c : DictionaryWriter) : Except Error Unit × BlockWriter :=
  if c.written = w.rows then
    let d := w.ws.scratch
    match Dictionary.encode d.entries d.cardinality d.keys.toList with
    | .ok payload => w.commit (c.slot.setBytes (c.slot.buf.bytes ++ payload)) c.written
    | .error e => (.error (e.within (columnPlace c.slot.name)), w.abandon c.slot)
  else w.commit c.slot c.written

def checkComplete (w : BlockWriter) : Except Error Unit :=
  if w.sealed then .error alreadyFinished
  else if w.committed = w.columns then .ok ()
  else
    let c := w.columns
    let f := w.committed
    .error (.framing s!"block declares {c} columns, {f} finished")

/-- The writer once its block is out: every segment's buffer back in the workspace. -/
def markSealed (w : BlockWriter) : BlockWriter :=
  { w with ws := w.ws.releaseAll w.buffers, buffers := [], sealed := true }

def finish (w : BlockWriter) : Except Error ByteArray × BlockWriter :=
  match w.checkComplete with
  | .error e => (.error e, w)
  | .ok () => (.ok (w.segments.foldl (· ++ ·) ByteArray.empty), w.markSealed)

/-- The finished block, compressed; on failure the writer is unchanged. -/
def finishCompressed (w : BlockWriter) (c : Compression) : Except Error ByteArray × BlockWriter :=
  match w.checkComplete with
  | .error e => (.error e, w)
  | .ok () =>
    match c.compress w.segments with
    | .error e => (.error e, w)
    | .ok out => (.ok out, w.markSealed)

/-- The finished block written into the caller's buffer `out`, replacing what it held; a block
that cannot be finished leaves `out` and the writer as they were. -/
def finishInto (w : BlockWriter) (out : ByteArray) : Except Error Unit × ByteArray × BlockWriter :=
  match w.checkComplete with
  | .error e => (.error e, out, w)
  | .ok () => (.ok (), w.segments.foldl (· ++ ·) ByteArray.empty, w.markSealed)

/-- The finished block compressed into the caller's buffer `out`. The block is sealed only once
the compressor has succeeded; when it fails, the writer is unchanged and `out` is as the
compressor left it. -/
def finishCompressedInto (w : BlockWriter) (out : ByteArray) (c : Compression) :
    Except Error Unit × ByteArray × BlockWriter :=
  match w.checkComplete with
  | .error e => (.error e, out, w)
  | .ok () =>
    match c.compressInto w.segments out with
    | (.ok (), out) => (.ok (), out, w.markSealed)
    | (.error e, out) => (.error e, out, w)

/-- The workspace once the writer is dropped: its remaining segments' buffers go back. -/
def drop (w : BlockWriter) : Workspace := w.ws.releaseAll w.buffers

/-- Finishes the block and drops the writer, whether or not finishing succeeded. -/
def finishOwned (w : BlockWriter) : Except Error ByteArray × Workspace :=
  let (r, w) := w.finish
  (r, w.drop)

end BlockWriter

end NativeBlock
