import NativeBlock.Wire.Varint

/-!
# Length-prefixed payloads

Names, type strings and `String` values are written as a varint byte length followed by that
many bytes. A text payload must be valid UTF-8; a failure names the offset of its length prefix.
-/

namespace NativeBlock.Wire

/-- Appends `payload` to `out` behind its varint length. -/
def writePrefixed (out payload : ByteArray) : ByteArray :=
  writeUVarint out payload.size ++ payload

/-- Reads a varint length and that many bytes after it. On a short buffer the position stays
just past the length. -/
def readPrefixed (bytes : ByteArray) : EStateM Error Nat ByteArray := do
  let len ← readUVarint bytes
  let pos ← get
  if pos + len ≤ bytes.size then
    set (pos + len)
    pure (bytes.extract pos (pos + len))
  else
    throw (.framing s!"length-prefixed payload of {len} bytes at byte offset {pos} exceeds buffer")

/-- Reads a length-prefixed payload that must be UTF-8 text. -/
def readText (bytes : ByteArray) : EStateM Error Nat String := do
  let start ← get
  let raw ← readPrefixed bytes
  match String.fromUTF8? raw with
  | some s => pure s
  | none => throw (.framing s!"invalid UTF-8 string at byte offset {start}")

end NativeBlock.Wire
