import NativeBlock.Block.Reader
import NativeBlock.Json.Value
import NativeBlock.Time.Rfc3339

/-!
# Block reports

A report lists a block's size, its column and row counts, and for every column its name, its
declared type as written, and its first values. Each column is read with the reader its declared
type calls for: `Nullable(T)` with the nullable reader of `T`, `LowCardinality(String)` with the
dictionary reader, any other type with the reader of its codec. `LowCardinality` of anything but
`String`, and a wrapper inside `Nullable`, have no reader. The first failure ends the report.

In a report, integers up to 64 bits, booleans and floats are JSON scalars, a null row is `null`,
and every other value is a string: 128-bit integers in decimal, dates, addresses and decimals as
their text, instants as RFC 3339 text in the column's zone.
-/

namespace NativeBlock

/-- A row's value in a report. -/
def Codec.reportValue : (c : Codec) → c.Value → JsonValue
  | .unsigned w, v => match w with
    | .w128 => .str (toString v.toNat)
    | _ => .int v.toNat
  | .signed w, v => match w with
    | .w128 => .str (toString v.toInt)
    | _ => .int v.toInt
  | .float32, v => .float (widenBits v)
  | .float64, v => .float v
  | .bool, v => .bool v
  | .date, v => .str v.render
  | .date32, v => .str v.render
  | .ipv4, v => .str v.render
  | .string, v => .str v
  | .fixedString .., v => .str v
  | .dateTime64 _ z .., v => .str (v.renderIn (z.getD Zone.utc))
  | .decimal .d32 .., v => .str (Decimal96.render v)
  | .decimal .d64 .., v => .str (Decimal96.render v)
  | .decimal .d128 .., v => .str (FixedDecimal.render v)
  | .decimal .d256 .., v => .str (FixedDecimal.render v)

structure ColumnReport where
  name : String
  typeName : String
  values : List JsonValue

/-- What a report says about a block. -/
structure BlockReport where
  bytes : Nat
  columns : Nat
  rows : Nat
  data : List ColumnReport

/-- The first `limit` answers of a cursor, rendered; a failure among them ends the column. -/
def firstValues {α : Type} (answers : List (Except Error α)) (limit : Nat) (render : α → JsonValue) :
    Except Error (List JsonValue) :=
  (answers.take limit).mapM fun r => r.map render

/-- The error for a column type that no reader takes. -/
def noReader (t : ColumnType) : Error :=
  let text := t.render
  .unsupported s!"column type {text}"

/-- Reads the next column, of declared type `t`: its first `limit` values and the reader after
it. -/
def columnValues (r : BlockReader) (t : ColumnType) (limit : Nat) :
    Except Error (List JsonValue × BlockReader) :=
  match t with
  | .lowCardinality .string => do
    let (c, r) ← r.nextDictionary
    pure (← firstValues c.drain limit .str, r)
  | .lowCardinality _ => .error (noReader t)
  | .nullable (.nullable _) | .nullable (.lowCardinality _) => .error (noReader t)
  | .nullable inner => do
    let codec ← Codec.ofColumnType inner
    let (c, r) ← r.nextNullable codec
    let render : Option codec.Value → JsonValue := fun
      | some v => codec.reportValue v
      | none => .null
    pure (← firstValues c.drain limit render, r)
  | _ => do
    let codec ← Codec.ofColumnType t
    let (c, r) ← r.nextColumn codec
    pure (← firstValues c.drain limit codec.reportValue, r)

/-- Reports the columns left, at most `fuel` of them; each column read takes one. -/
def reportColumns (fuel : Nat) (r : BlockReader) (limit : Nat) (acc : Array ColumnReport) :
    Except Error (Array ColumnReport) :=
  match fuel with
  | 0 => .ok acc
  | fuel + 1 =>
    if r.isFinished then .ok acc
    else do
      let h ← r.peek
      let t ← h.columnType
      let (values, r) ← columnValues r t limit
      reportColumns fuel r limit (acc.push ⟨h.name, h.typeName, values⟩)

namespace BlockReport

/-- The report of a block, with at most `limit` values a column. -/
def ofBytes (bytes : ByteArray) (limit : Nat) : Except Error BlockReport := do
  let r ← BlockReader.new bytes
  let data ← reportColumns r.columns r limit #[]
  pure ⟨bytes.size, r.columns, r.rows, data.toList⟩

/-- The report as a JSON document, fields in the order `bytes`, `columns`, `rows`, `data`. -/
def toJson (b : BlockReport) : JsonValue :=
  .obj [("bytes", .int b.bytes), ("columns", .int b.columns), ("rows", .int b.rows),
    ("data", .arr (b.data.map fun c =>
      .obj [("name", .str c.name), ("type", .str c.typeName), ("values", .arr c.values)]))]

end BlockReport

end NativeBlock
