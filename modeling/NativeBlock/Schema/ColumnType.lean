import NativeBlock.Schema.DecimalWidth

/-!
# Column types

The type language of a block's column headers: seventeen plain types, `FixedString(N)`,
`DateTime64(S[, 'tz'])`, `Decimal(P, S)` and the two wrappers `Nullable(T)` and
`LowCardinality(T)`. `ColumnType.render` writes the canonical spelling that the codec itself puts
into headers; `ColumnType.fixedWidth` is the byte width of one row where it is constant.
-/

namespace NativeBlock

inductive ColumnType where
  | uint8
  | uint16
  | uint32
  | uint64
  | uint128
  | int8
  | int16
  | int32
  | int64
  | int128
  | float32
  | float64
  | bool
  | date
  | date32
  | ipv4
  | string
  | fixedString (size : Nat)
  | dateTime64 (scale : Nat) (timezone : Option String)
  | decimal (precision scale : Nat)
  | nullable (inner : ColumnType)
  | lowCardinality (inner : ColumnType)
  deriving DecidableEq, Repr, Inhabited

namespace ColumnType

/-- The plain types with their names, in the order the type language lists them. -/
def plainNames : List (String × ColumnType) :=
  [("UInt8", .uint8), ("UInt16", .uint16), ("UInt32", .uint32), ("UInt64", .uint64),
   ("UInt128", .uint128), ("Int8", .int8), ("Int16", .int16), ("Int32", .int32),
   ("Int64", .int64), ("Int128", .int128), ("Float32", .float32), ("Float64", .float64),
   ("Bool", .bool), ("Date", .date), ("Date32", .date32), ("IPv4", .ipv4), ("String", .string)]

/-- The canonical spelling of a type. -/
def render : ColumnType → String
  | .uint8 => "UInt8"
  | .uint16 => "UInt16"
  | .uint32 => "UInt32"
  | .uint64 => "UInt64"
  | .uint128 => "UInt128"
  | .int8 => "Int8"
  | .int16 => "Int16"
  | .int32 => "Int32"
  | .int64 => "Int64"
  | .int128 => "Int128"
  | .float32 => "Float32"
  | .float64 => "Float64"
  | .bool => "Bool"
  | .date => "Date"
  | .date32 => "Date32"
  | .ipv4 => "IPv4"
  | .string => "String"
  | .fixedString n => s!"FixedString({n})"
  | .dateTime64 s (some tz) => s!"DateTime64({s}, '" ++ tz ++ "')"
  | .dateTime64 s none => s!"DateTime64({s})"
  | .decimal p s => s!"Decimal({p}, {s})"
  | .nullable t => "Nullable(" ++ t.render ++ ")"
  | .lowCardinality t => "LowCardinality(" ++ t.render ++ ")"

instance : ToString ColumnType := ⟨render⟩

/-- Bytes per row when every row has the same width; strings and wrappers have none. -/
def fixedWidth : ColumnType → Option Nat
  | .uint8 | .int8 | .bool => some 1
  | .uint16 | .int16 | .date => some 2
  | .uint32 | .int32 | .float32 | .date32 | .ipv4 => some 4
  | .uint64 | .int64 | .float64 | .dateTime64 .. => some 8
  | .uint128 | .int128 => some 16
  | .fixedString n => some n
  | .decimal p _ => match DecimalWidth.ofPrecision p with
    | .ok w => some w.bytes
    | .error _ => none
  | .string | .nullable _ | .lowCardinality _ => none

/-- A decimal column type, provided the precision has a storage width and the scale does not
exceed it. -/
def decimalOf (precision scale : Nat) : Except Error ColumnType := do
  let _ ← DecimalWidth.ofPrecision precision
  if precision < scale then
    throw (.numericRange s!"decimal scale {scale} exceeds precision {precision}")
  pure (.decimal precision scale)

/-- Whether a type is one of the two wrappers. -/
def isWrapper : ColumnType → Bool
  | .nullable _ | .lowCardinality _ => true
  | _ => false

end ColumnType

end NativeBlock
