import NativeBlock.Codec.Rows

/-!
# Dictionary-encoded text columns

A `LowCardinality(String)` column stores each distinct text once and a key per row. Its layout,
with every word a little-endian 64-bit integer:

* the version word `1`, which may be left out when the next word has bit 9 set;
* the flags word: the key width in the low byte (0 to 3 for 1, 2, 4 or 8 bytes), bit 9 (the
  column carries its own keys) set, bit 8 (a dictionary shared with the server) clear, and
  nothing but bit 10 besides;
* the dictionary size, then each entry as a length-prefixed text;
* the key count, which must equal the block's row count, then one key per row.

A block without rows carries no column bytes at all.
-/

namespace NativeBlock.Dictionary

open Wire

inductive KeyWidth where
  | u8
  | u16
  | u32
  | u64
  deriving DecidableEq, Repr

namespace KeyWidth

def bytes : KeyWidth → Nat
  | .u8 => 1
  | .u16 => 2
  | .u32 => 4
  | .u64 => 8

/-- The number the flags word uses for the width. -/
def id : KeyWidth → Nat
  | .u8 => 0
  | .u16 => 1
  | .u32 => 2
  | .u64 => 3

def name : KeyWidth → String
  | .u8 => "U8"
  | .u16 => "U16"
  | .u32 => "U32"
  | .u64 => "U64"

/-- The width a flags word names. -/
def ofId (n : Nat) : Except Error KeyWidth :=
  match n with
  | 0 => .ok .u8
  | 1 => .ok .u16
  | 2 => .ok .u32
  | 3 => .ok .u64
  | _ => .error (.framing s!"unknown LowCardinality key type {n}")

/-- The narrowest width whose keys index a dictionary of `cardinality` entries. -/
def forCardinality (cardinality : Nat) : KeyWidth :=
  if cardinality ≤ 256 then .u8
  else if cardinality ≤ 65536 then .u16
  else if cardinality ≤ 4294967296 then .u32
  else .u64

/-- The key of row `row`, if the key bytes reach that far. -/
def read (w : KeyWidth) (keys : ByteArray) (row : Nat) : Option Nat :=
  let start := row * w.bytes
  if start + w.bytes ≤ keys.size then
    some (decodeLE (keys.extract start (start + w.bytes)).toList)
  else none

end KeyWidth

/-- The version word of the one supported layout. -/
def version : Nat := 1
/-- Flag: the dictionary is shared with the server. -/
def needGlobal : Nat := 0x100
/-- Flag: the column carries its own dictionary. -/
def hasAdditional : Nat := 0x200
/-- Flag: the dictionary replaces any earlier one. -/
def needUpdate : Nat := 0x400
/-- Every bit a flags word may have. -/
def knownFlags : Nat := 0xFF ||| needGlobal ||| hasAdditional ||| needUpdate

/-- A column read from its bytes. -/
structure Decoded where
  dictionary : Array String
  keys : ByteArray
  keyWidth : KeyWidth
  consumed : Nat

def readWord (data : ByteArray) : EStateM Error Nat Nat := fun pos =>
  if pos + 8 ≤ data.size then .ok (decodeLE (data.extract pos (pos + 8)).toList) (pos + 8)
  else .error (.framing s!"truncated u64 at byte offset {pos}") pos

def readTexts (data : ByteArray) : Nat → Array String → EStateM Error Nat (Array String)
  | 0, acc => pure acc
  | n + 1, acc => do
    let s ← readText data
    readTexts data n (acc.push s)

/-- `n` in lower-case hexadecimal after `0x`. -/
def hexText (n : Nat) : String :=
  "0x" ++ String.ofList (Nat.toDigits 16 n)

/-- The layout's header: the flags word, after the version word when it is there. -/
def readFlags (data : ByteArray) : EStateM Error Nat Nat := do
  let first ← readWord data
  if first &&& hasAdditional ≠ 0 then pure first
  else if first = version then readWord data
  else throw (.framing s!"unknown LowCardinality serialization version {first}")

/-- Reads the layout up to the keys: the flags, the dictionary and the key count, which must
equal `rows`. Gives the dictionary and the key width. -/
def readDictionary (data : ByteArray) (rows : Nat) :
    EStateM Error Nat (Array String × KeyWidth) := do
  let flags ← readFlags data
  if flags &&& needGlobal ≠ 0 then
    throw (.unsupported "LowCardinality global dictionary (server-side shared state)")
  if flags &&& hasAdditional = 0 then
    throw (.unsupported "LowCardinality column without additional keys")
  if flags &&& (0xFFFFFFFFFFFFFFFF - knownFlags) ≠ 0 then
    let text := hexText flags
    throw (.framing s!"unknown LowCardinality flags {text}")
  let width ← match KeyWidth.ofId (flags &&& 0xFF) with
    | .ok w => pure w
    | .error e => throw e
  let size ← readWord data
  let dictionary ← readTexts data size #[]
  let keyRows ← readWord data
  if keyRows ≠ rows then
    throw (.framing s!"LowCardinality carries {keyRows} keys, block declares {rows} rows")
  pure (dictionary, width)

def decode (data : ByteArray) (rows : Nat) : Except Error Decoded :=
  if rows = 0 then .ok ⟨#[], ByteArray.empty, .u8, 0⟩
  else
    match readDictionary data rows 0 with
    | .error e _ => .error e
    | .ok (dictionary, width) pos =>
      match Codec.fixedSpan (data.extract pos data.size) rows width.bytes with
      | .error e => .error e
      | .ok keysLen => .ok ⟨dictionary, data.extract pos (pos + keysLen), width, pos + keysLen⟩

/-- The bytes of a column whose dictionary has `dictLen` entries, already written as
length-prefixed texts in `entries`, and whose rows have the keys `indices`. Without rows it is
empty; a key outside the dictionary is a bounds error. -/
def encode (entries : ByteArray) (dictLen : Nat) (indices : List Nat) : Except Error ByteArray :=
  let width := KeyWidth.forCardinality dictLen
  if indices.isEmpty then .ok ByteArray.empty
  else
    let header := (encodeLE 8 version ++ encodeLE 8 (width.id ||| hasAdditional ||| needUpdate) ++
      encodeLE 8 dictLen).toByteArray ++ entries ++ (encodeLE 8 indices.length).toByteArray
    indices.foldlM (fun out idx =>
      if idx < dictLen then .ok (out ++ (encodeLE width.bytes idx).toByteArray)
      else .error (.bounds s!"dictionary index {idx} outside dictionary of {dictLen}")) header

end NativeBlock.Dictionary
