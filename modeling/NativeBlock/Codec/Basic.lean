import NativeBlock.Schema.ColumnType
import NativeBlock.Decimal.Decimal96
import NativeBlock.Time.Instant
import NativeBlock.Time.Zone

/-!
# Column codecs

A `Codec` is the way one column stores a value per row: a fixed-width little-endian slot for
numbers, booleans, dates, addresses, instants and decimals, a length-prefixed text for `String`,
a zero-padded slot for `FixedString(N)`. `Codec.Value c` is the type of the values of codec `c`,
and `Codec.columnType` the column type it reads and writes.

Codecs with parameters are built by `Codec.fixedString?`, `Codec.dateTime64?` and
`Codec.decimal?`, which refuse a zero size, a scale above 9, an unknown zone, and a decimal whose
precision asks for another storage width. A codec keeps what these checks found as fields, so no
codec can be built that they would refuse: a size of a 64-bit length, a zone name that can stand
quoted in a type string, a decimal precision that calls for the codec's storage width.
-/

namespace NativeBlock

inductive IntWidth where
  | w8
  | w16
  | w32
  | w64
  | w128
  deriving DecidableEq, Repr

def IntWidth.bytes : IntWidth → Nat
  | .w8 => 1
  | .w16 => 2
  | .w32 => 4
  | .w64 => 8
  | .w128 => 16

/-- An IPv4 address as its 32-bit number, first octet most significant. -/
structure Ipv4Address where
  bits : BitVec 32
  deriving DecidableEq, Repr

def Ipv4Address.render (a : Ipv4Address) : String :=
  let n := a.bits.toNat
  s!"{n / Nat.pow 2 24}.{n / Nat.pow 2 16 % 256}.{n / Nat.pow 2 8 % 256}.{n % 256}"

/-- One octet of dotted-quad text: one to three digits, no leading zero unless it is `0`, and
at most 255. -/
def Ipv4Address.octet? (part : String) : Option Nat :=
  let ds := part.toList
  if ds.isEmpty || 3 < ds.length || !ds.all Char.isDigit then none
  else if ds.head? = some '0' && 1 < ds.length then none
  else
    let n := ds.foldl (fun acc d => acc * 10 + (d.toNat - '0'.toNat)) 0
    if n ≤ 255 then some n else none

/-- Reads dotted-quad text: exactly four octets separated by dots. -/
def Ipv4Address.ofDotted? (s : String) : Option Ipv4Address :=
  match (s.splitOn ".").mapM Ipv4Address.octet? with
  | some [a, b, c, d] => some ⟨BitVec.ofNat 32 (((a * 256 + b) * 256 + c) * 256 + d)⟩
  | _ => none

/-- How a column stores one value per row. -/
inductive Codec where
  | unsigned (w : IntWidth)
  | signed (w : IntWidth)
  | float32
  | float64
  | bool
  | date
  | date32
  | ipv4
  | string
  -- a size is a 64-bit length, below `2⁶⁴`
  | fixedString (size : Nat) (pos : 0 < size) (fits : size < 18446744073709551616)
  | dateTime64 (scale : Nat) (zone : Option Zone) (le : scale ≤ 9)
      (quotable : ∀ z ∈ zone, Zone.NameQuotable z.name)
  | decimal (storage : DecimalWidth) (precision scale : Nat)
      (width : DecimalWidth.ofPrecision precision = .ok storage) (scale_le : scale ≤ precision)
  deriving DecidableEq

namespace Codec

/-- The values of a decimal column of a storage width: 96-bit decimals for the two narrow
widths, fixed decimals of the width itself for the wide ones. -/
@[reducible] def DecimalValue : DecimalWidth → Type
  | .d32 => Decimal96
  | .d64 => Decimal96
  | .d128 => FixedDecimal .d128
  | .d256 => FixedDecimal .d256

@[reducible] def Value : Codec → Type
  | .unsigned w => BitVec (8 * w.bytes)
  | .signed w => BitVec (8 * w.bytes)
  | .float32 => BitVec 32
  | .float64 => BitVec 64
  | .bool => Bool
  | .date => Date
  | .date32 => Date
  | .ipv4 => Ipv4Address
  | .string => String
  | .fixedString .. => String
  | .dateTime64 .. => Instant
  | .decimal storage .. => DecimalValue storage

def columnType : Codec → ColumnType
  | .unsigned .w8 => .uint8
  | .unsigned .w16 => .uint16
  | .unsigned .w32 => .uint32
  | .unsigned .w64 => .uint64
  | .unsigned .w128 => .uint128
  | .signed .w8 => .int8
  | .signed .w16 => .int16
  | .signed .w32 => .int32
  | .signed .w64 => .int64
  | .signed .w128 => .int128
  | .float32 => .float32
  | .float64 => .float64
  | .bool => .bool
  | .date => .date
  | .date32 => .date32
  | .ipv4 => .ipv4
  | .string => .string
  | .fixedString n .. => .fixedString n
  | .dateTime64 s z .. => .dateTime64 s (z.map Zone.name)
  | .decimal _ p s .. => .decimal p s

/-- Bytes per row when they are constant; `String` rows have a length of their own. -/
def slotWidth : Codec → Option Nat
  | .unsigned w | .signed w => some w.bytes
  | .float32 => some 4
  | .float64 => some 8
  | .bool => some 1
  | .date => some 2
  | .date32 => some 4
  | .ipv4 => some 4
  | .string => none
  | .fixedString n .. => some n
  | .dateTime64 .. => some 8
  | .decimal storage .. => some storage.bytes

/-- The largest byte count a length can have, `2⁶⁴ - 1`. -/
def maxLength : Nat := 18446744073709551615

/-- Payload bytes worth reserving for `rows` rows: one per row for text, else the slots'
total, or nothing when that total has no 64-bit length. -/
def reserveHint (c : Codec) (rows : Nat) : Nat :=
  match c.slotWidth with
  | none => rows
  | some w => if rows * w ≤ maxLength then rows * w else 0

/-- The bytes that stand for a null row: an empty text, or a slot of zeros. -/
def placeholder (c : Codec) : ByteArray :=
  match c.slotWidth with
  | none => ⟨#[0]⟩
  | some w => ⟨Array.replicate w 0⟩

/-- A `FixedString(size)` codec; the size must be positive. A size is a 64-bit length, so a
larger one is refused as well. -/
def fixedString? (size : Nat) : Except Error Codec :=
  if h : 0 < size then
    if hs : size < 18446744073709551616 then .ok (.fixedString size h hs)
    else .error (.numericRange s!"FixedString size {size} exceeds 64 bits")
  else .error (.framing "FixedString size must be positive")

/-- A `DateTime64(scale[, zone])` codec; the scale is checked before the zone is looked up. A
zone whose name could not stand quoted in a type string counts as unknown; the table has none. -/
def dateTime64? (scale : Nat) (zone : Option String) : Except Error Codec :=
  if h : scale ≤ 9 then
    match zone with
    | none => .ok (.dateTime64 scale none h (by simp))
    | some name =>
      match Zone.parse name with
      | .ok z =>
        if hq : Zone.NameQuotable z.name then .ok (.dateTime64 scale (some z) h (by simpa using hq))
        else .error (.unsupported s!"unknown timezone '{name}'")
      | .error e => .error e
  else .error (.numericRange s!"DateTime64 scale {scale} exceeds 9")

/-- A decimal codec of storage width `storage` for `Decimal(precision, scale)`: the precision
must have a storage width and the scale must not exceed it, as for the column type, and the
width must be this one. -/
def decimal? (storage : DecimalWidth) (precision scale : Nat) : Except Error Codec :=
  match hw : DecimalWidth.ofPrecision precision with
  | .error e => .error e
  | .ok width =>
    if hs : precision < scale then
      .error (.numericRange s!"decimal scale {scale} exceeds precision {precision}")
    else if h : width = storage then
      .ok (.decimal storage precision scale (h ▸ hw) (Nat.le_of_not_lt hs))
    else
      let wb := width.bytes
      let sb := storage.bytes
      .error (.numericRange s!"Decimal({precision}, {scale}) is stored in {wb} bytes, not {sb}")

/-- The shorthand `DecimalN(scale)`: the widest precision of the storage width. -/
def decimalWithScale? (storage : DecimalWidth) (scale : Nat) : Except Error Codec :=
  decimal? storage storage.maxPrecision scale

/-- The codec of a column type without a wrapper, its parameters checked as the constructors
above check them; `Nullable` and `LowCardinality` have no codec of their own. -/
def ofColumnType : ColumnType → Except Error Codec
  | .uint8 => .ok (.unsigned .w8)
  | .uint16 => .ok (.unsigned .w16)
  | .uint32 => .ok (.unsigned .w32)
  | .uint64 => .ok (.unsigned .w64)
  | .uint128 => .ok (.unsigned .w128)
  | .int8 => .ok (.signed .w8)
  | .int16 => .ok (.signed .w16)
  | .int32 => .ok (.signed .w32)
  | .int64 => .ok (.signed .w64)
  | .int128 => .ok (.signed .w128)
  | .float32 => .ok .float32
  | .float64 => .ok .float64
  | .bool => .ok .bool
  | .date => .ok .date
  | .date32 => .ok .date32
  | .ipv4 => .ok .ipv4
  | .string => .ok .string
  | .fixedString n => fixedString? n
  | .dateTime64 s tz => dateTime64? s tz
  | .decimal p s => do decimal? (← DecimalWidth.ofPrecision p) p s
  | t@(.nullable _) | t@(.lowCardinality _) =>
    let text := t.render
    .error (.unsupported s!"column type {text}")

end Codec

/-- The layout of a column's rows: values of a codec, values of a codec that may be missing, or
texts stored through a dictionary. -/
inductive ColumnSpec where
  | value (c : Codec)
  | nullable (c : Codec)
  | dictionary

def ColumnSpec.columnType : ColumnSpec → ColumnType
  | .value c => c.columnType
  | .nullable c => .nullable c.columnType
  | .dictionary => .lowCardinality .string

/-- The value one row of a layout takes: a value of its codec, such a value or a null, or a
text. -/
@[reducible] def ColumnSpec.Input : ColumnSpec → Type
  | .value c => c.Value
  | .nullable c => Option c.Value
  | .dictionary => String

end NativeBlock
