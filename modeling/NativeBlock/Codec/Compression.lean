import NativeBlock.Error

/-!
# Block compression

A finished block may travel compressed with zstd (levels -7 to 22) or gzip (levels 0 to 9).
This library implements neither algorithm: it checks the level, and then answers that the
algorithm is not available. Without compression a block passes through unchanged, and reading
refuses a block longer than the caller's bound. Compressing into a caller's buffer
(`compressInto`) checks the level before it clears the buffer.
-/

namespace NativeBlock

/-- How a block is compressed on the wire. -/
inductive Compression where
  | none
  | zstd (level : Int)
  | gzip (level : Nat)
  deriving DecidableEq, Repr

namespace Compression

def name : Compression → String
  | .none => "none"
  | .zstd _ => "zstd"
  | .gzip _ => "gzip"

/-- Checks the level against the algorithm's range. -/
def validate : Compression → Except Error Unit
  | .zstd level =>
    if -7 ≤ level ∧ level ≤ 22 then .ok ()
    else .error (.numericRange s!"zstd level {level} outside -7..=22")
  | .gzip level =>
    if level ≤ 9 then .ok ()
    else .error (.numericRange s!"gzip level {level} outside 0..=9")
  | .none => .ok ()

/-- The error for an algorithm this library does not implement. -/
def unavailable (c : Compression) : Error :=
  let n := c.name
  .unsupported s!"{n} compression feature not enabled"

/-- Compresses the concatenation of `parts`; the level is checked first. -/
def compress (c : Compression) (parts : List ByteArray) : Except Error ByteArray := do
  c.validate
  match c with
  | .none => pure (parts.foldl (· ++ ·) ByteArray.empty)
  | _ => throw c.unavailable

/-- Compresses the concatenation of `parts` into the caller's buffer `out`, replacing what it
held. The level is checked before `out` is touched, so a refused level leaves it as it was;
every later failure leaves it empty. -/
def compressInto (c : Compression) (parts : List ByteArray) (out : ByteArray) :
    Except Error Unit × ByteArray :=
  match c.validate with
  | .error e => (.error e, out)
  | .ok () =>
    match c.compress parts with
    | .ok bytes => (.ok (), bytes)
    | .error e => (.error e, ByteArray.empty)

/-- Restores a block, refusing one longer than `max` bytes. -/
def decompress (c : Compression) (bytes : ByteArray) (max : Nat) : Except Error ByteArray :=
  match c with
  | .none =>
    if max < bytes.size then .error (.bounds s!"decompressed block exceeds {max} bytes")
    else .ok bytes
  | _ => .error c.unavailable

end Compression

end NativeBlock
