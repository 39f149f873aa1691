/-!
# Little-endian words

Fixed-width integers are stored least significant byte first. `encodeLE k n` is the `k` bytes of
`n` modulo `256 ^ k`, and `decodeLE` reads them back; a signed word is the unsigned one read in
two's complement.
-/

namespace NativeBlock.Wire

/-- The `k` little-endian bytes of `n`, modulo `256 ^ k`. -/
def encodeLE : Nat → Nat → List UInt8
  | 0, _ => []
  | k + 1, n => (n % 256).toUInt8 :: encodeLE k (n / 256)

/-- The natural number whose little-endian bytes these are. -/
def decodeLE : List UInt8 → Nat
  | [] => 0
  | b :: bs => b.toNat + 256 * decodeLE bs

/-- The two's-complement value of a `k`-byte word. -/
def toSigned (k n : Nat) : Int :=
  if n < Nat.pow 2 (8 * k - 1) then n else (n : Int) - Int.pow 2 (8 * k)

/-- The `k`-byte word of a signed value, in two's complement. -/
def ofSigned (k : Nat) (v : Int) : Nat := (v % (Nat.pow 2 (8 * k) : Nat)).toNat

@[simp] theorem encodeLE_length (k n : Nat) : (encodeLE k n).length = k := by
  induction k generalizing n with
  | zero => rfl
  | succ k ih => simp [encodeLE, ih]

end NativeBlock.Wire
