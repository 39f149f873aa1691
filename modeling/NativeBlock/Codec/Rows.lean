import NativeBlock.Codec.Basic
import NativeBlock.Wire.Prefixed
import NativeBlock.Wire.LittleEndian

/-!
# Rows of a column

How a codec lays out its rows: `Codec.encode` gives the bytes of one value, `Codec.encodeInto`
writes them into a buffer as a column writer does, `Codec.decode` reads one value at the current
position, and `Codec.span` measures `rows` consecutive values at the start of a buffer without
decoding them.

A fixed-width codec reads a slot of its width; a slot past the end of the column is a bounds
error, and a slot whose value the type refuses (a date outside the calendar, invalid UTF-8)
leaves the position where it was. A text row is a length-prefixed UTF-8 payload.
-/

namespace NativeBlock.Codec

open Wire

/-- `rows` slots of `width` bytes, checked against the bytes present. -/
def fixedSpan (data : ByteArray) (rows width : Nat) : Except Error Nat :=
  let len := rows * width
  let remain := data.size
  if maxLength < len then .error (.bounds s!"{rows} rows of {width} bytes overflow")
  else if remain < len then
    .error (.bounds s!"{rows} rows of {width} bytes need {len} bytes, {remain} remain")
  else .ok len

/-- The length of `rows` consecutive length-prefixed texts, from row `row` at `pos` on. -/
def textSpanFrom (data : ByteArray) (rows : Nat) (row pos : Nat) : Except Error Nat :=
  if row < rows then
    match readUVarint data pos with
    | .error e _ => .error (e.within s!"row {row}")
    | .ok len next =>
      if next + len ≤ data.size then textSpanFrom data rows (row + 1) (next + len)
      else .error (.framing s!"row {row}: string of {len} bytes at byte offset {next} exceeds buffer")
  else .ok pos
termination_by rows - row

/-- The bytes that `rows` consecutive values of the codec take at the start of `data`. -/
def span (c : Codec) (data : ByteArray) (rows : Nat) : Except Error Nat :=
  match c.slotWidth with
  | some w => fixedSpan data rows w
  | none => textSpanFrom data rows 0 0

/-- Reads a slot of `width` bytes and interprets it with `f`. -/
def slot {α : Type} (data : ByteArray) (width : Nat) (f : List UInt8 → Except Error α) :
    EStateM Error Nat α := fun pos =>
  if pos + width ≤ data.size then
    match f (data.extract pos (pos + width)).toList with
    | .ok v => .ok v (pos + width)
    | .error e => .error e pos
  else .error (.bounds s!"slot at byte offset {pos} exceeds column") pos

/-- A slot's text: its bytes up to the last nonzero one, as UTF-8. -/
def slotText (at_ : Nat) (bs : List UInt8) : Except Error String :=
  let used := (bs.reverse.dropWhile (· = 0)).reverse
  match String.fromUTF8? used.toByteArray with
  | some s => .ok s
  | none => .error (.framing s!"invalid UTF-8 string at byte offset {at_}")

/-- The date `n` days after 1970-01-01. -/
def dateOfDays (n : Int) : Except Error Date :=
  match Date.ofDays? n with
  | some d => .ok d
  | none => .error (.numericRange s!"{n} days since epoch is not a valid date")

def fixedOfSlot (w : DecimalWidth) (scale : Nat) (bs : List UInt8) :
    Except Error (FixedDecimal w) :=
  match FixedDecimal.ofInt? w (toSigned w.bytes (decodeLE bs)) scale with
  | some d => .ok d
  | none => .error (.numericRange "decimal value exceeds its width")

/-- A 96-bit decimal from a slot of a narrow decimal column. -/
def decimal96OfSlot (w : DecimalWidth) (scale : Nat) (bs : List UInt8) : Except Error Decimal96 :=
  match Decimal96.ofInt (toSigned w.bytes (decodeLE bs)) scale with
  | .ok d => .ok d
  | .error reason => .error (.numericRange reason)

def decode (c : Codec) (data : ByteArray) : EStateM Error Nat c.Value :=
  match c with
  | .unsigned w => slot data w.bytes fun bs => .ok (BitVec.ofNat _ (decodeLE bs))
  | .signed w => slot data w.bytes fun bs => .ok (BitVec.ofNat _ (decodeLE bs))
  | .float32 => slot data 4 fun bs => .ok (BitVec.ofNat 32 (decodeLE bs))
  | .float64 => slot data 8 fun bs => .ok (BitVec.ofNat 64 (decodeLE bs))
  | .bool => slot data 1 fun bs => .ok (decodeLE bs ≠ 0)
  | .date => slot data 2 fun bs => dateOfDays (decodeLE bs)
  | .date32 => slot data 4 fun bs => dateOfDays (toSigned 4 (decodeLE bs))
  | .ipv4 => slot data 4 fun bs => .ok ⟨BitVec.ofNat 32 (decodeLE bs)⟩
  | .string => readText data
  | .fixedString n .. => fun pos => slot data n (slotText pos) pos
  | .dateTime64 s .. => slot data 8 fun bs => Instant.ofTicks (toSigned 8 (decodeLE bs)) s
  | .decimal .d32 _ s .. => slot data 4 (decimal96OfSlot .d32 s)
  | .decimal .d64 _ s .. => slot data 8 (decimal96OfSlot .d64 s)
  | .decimal .d128 _ s .. => slot data 16 (fixedOfSlot .d128 s)
  | .decimal .d256 _ s .. => slot data 32 (fixedOfSlot .d256 s)

def word (k n : Nat) : ByteArray := (encodeLE k n).toByteArray

/-- The slot of a decimal column's unscaled integer, if it is a word of the storage width. -/
def decimalSlot (storage : DecimalWidth) (text : String) (u : Int) : Except Error ByteArray :=
  if storage.Fits u then .ok (word storage.bytes (ofSigned storage.bytes u))
  else
    let bytes := storage.bytes
    .error (.numericRange s!"{text} does not fit {bytes} bytes")

def encode (c : Codec) (v : c.Value) : Except Error ByteArray :=
  match c, v with
  | .unsigned w, v => .ok (word w.bytes v.toNat)
  | .signed w, v => .ok (word w.bytes v.toNat)
  | .float32, v => .ok (word 4 v.toNat)
  | .float64, v => .ok (word 8 v.toNat)
  | .bool, b => .ok (word 1 (if b then 1 else 0))
  | .date, d =>
    if 0 ≤ d.days ∧ d.days < 65536 then .ok (word 2 d.days.toNat)
    else
      let text := d.render
      .error (.numericRange s!"{text} is outside the Date range")
  | .date32, d =>
    if -2147483648 ≤ d.days ∧ d.days < 2147483648 then .ok (word 4 (ofSigned 4 d.days))
    else
      let text := d.render
      .error (.numericRange s!"{text} is outside the Date32 range")
  | .ipv4, a => .ok (word 4 a.bits.toNat)
  | .string, s => .ok (writePrefixed ByteArray.empty s.toUTF8)
  | .fixedString n .., s =>
    let len := s.utf8ByteSize
    if n < len then .error (.numericRange s!"{len} bytes do not fit FixedString({n})")
    else .ok (s.toUTF8 ++ ⟨Array.replicate (n - len) 0⟩)
  | .dateTime64 s .., i => do
    let t ← i.toTicks s
    pure (word 8 (ofSigned 8 t))
  | .decimal .d32 p s .., (v : Decimal96) => do
    decimalSlot .d32 v.render (← v.toFixed.toColumn p s)
  | .decimal .d64 p s .., (v : Decimal96) => do
    decimalSlot .d64 v.render (← v.toFixed.toColumn p s)
  | .decimal .d128 p s .., (v : FixedDecimal .d128) => do
    decimalSlot .d128 v.render (← v.toColumn p s)
  | .decimal .d256 p s .., (v : FixedDecimal .d256) => do
    decimalSlot .d256 v.render (← v.toColumn p s)

/-- Whether the codec appends texts, rather than filling slots in place. -/
def writesText : Codec → Bool
  | .string | .fixedString .. => true
  | _ => false

/-- Appends `v`'s bytes to `out` and answers. A text is appended with its length, and a
fixed-length text is checked before anything is written. Any other codec grows `out` by a slot
of zeros and fills it; when it refuses the value, `out` is cut back to where the slot began. -/
def encodeInto (c : Codec) (v : c.Value) (out : ByteArray) : Except Error Unit × ByteArray :=
  if c.writesText then
    match c.encode v with
    | .ok bytes => (.ok (), out ++ bytes)
    | .error e => (.error e, out)
  else
    let grown := out ++ c.placeholder
    match c.encode v with
    | .ok slot => (.ok (), out ++ slot)
    | .error e => (.error e, grown.extract 0 out.size)

end NativeBlock.Codec
