import NativeBlock.Error

/-!
# Unsigned LEB128 varints

Counts and lengths in a block are unsigned 64-bit integers written seven bits at a time, least
significant group first; every byte but the last has its high bit set.

Reading runs in `EStateM Error Nat`: the state is the byte position, and it advances one byte
per byte read, so a failure reports where reading stopped. A tenth byte may carry only the one
bit that is left of 64, and nothing may follow it.
-/

namespace NativeBlock.Wire

/-- The bytes of `x` in unsigned LEB128, lowest seven-bit group first. -/
def encodeUVarint (x : Nat) : List UInt8 :=
  if x < 128 then [x.toUInt8] else (x % 128 + 128).toUInt8 :: encodeUVarint (x / 128)
termination_by x
decreasing_by omega

/-- The number of bytes `encodeUVarint x` has. -/
def uvarintLen (x : Nat) : Nat :=
  if x < 128 then 1 else uvarintLen (x / 128) + 1
termination_by x
decreasing_by omega

def writeUVarint (out : ByteArray) (x : Nat) : ByteArray :=
  out ++ (encodeUVarint x).toByteArray

/-- The most bytes a 64-bit varint takes. -/
def maxVarintLen : Nat := 10

/-- Reads the groups from the `i`-th on, the lower ones summing to `acc`. -/
def readGroups (bytes : ByteArray) (i acc : Nat) : EStateM Error Nat Nat := fun pos =>
  match bytes[pos]? with
  | none => .error (.framing s!"truncated varint at byte offset {pos}") pos
  | some b =>
    let lo := b.toNat % 128
    if i + 1 = maxVarintLen ∧ (128 ≤ b.toNat ∨ 1 < lo) then
      .error (.framing s!"varint overflow at byte offset {pos}") (pos + 1)
    else
      let acc := acc + lo * Nat.pow 2 (7 * i)
      if b.toNat < 128 then .ok acc (pos + 1)
      else if i + 1 < maxVarintLen then readGroups bytes (i + 1) acc (pos + 1)
      else .error (.framing "varint overflow") (pos + 1)
termination_by maxVarintLen - i

/-- Reads one varint at the current position and moves past it. -/
def readUVarint (bytes : ByteArray) : EStateM Error Nat Nat :=
  readGroups bytes 0 0

end NativeBlock.Wire
