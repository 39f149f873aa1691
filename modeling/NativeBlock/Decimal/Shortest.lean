import NativeBlock.Decimal.Digits

/-!
# Shortest decimals of binary64 values

A finite binary64 value stands for every real that rounds to it: the interval from halfway to
its lower neighbour to halfway to its upper one, both ends included exactly when its significand
is even. Its shortest decimal is the decimal with the fewest significant digits in that interval;
of two such decimals the nearer to the value is taken, and of two equally near the one whose
last digit is even.

`Binary64.shortest` finds it by trying grids of 1, 2, … 17 significant digits. On each grid only
the value's two neighbours need testing: if any point of the grid lies in the interval, so does
one of them. All comparisons are exact, on naturals.

A 32-bit float is printed as the 64-bit float of the same value (`widenBits`), so its digits are
those that single out the value among binary64 values.
-/

namespace NativeBlock

/-- A finite non-negative binary64 value, `m · 2^q`. -/
structure Binary64 where
  m : Nat
  q : Int
  /-- The gap to the value below is half the gap to the value above. -/
  narrowBelow : Bool

/-- A decimal `digits · 10^exp`. -/
structure DecimalFloat where
  digits : Nat
  exp : Int
  deriving DecidableEq, Repr

namespace Binary64

/-- The magnitude of finite bits; NaN and the infinities are tested for before. -/
def ofBits (b : BitVec 64) : Binary64 :=
  let e : Nat := b.toNat / Nat.pow 2 52 % Nat.pow 2 11
  let f : Nat := b.toNat % Nat.pow 2 52
  if e = 0 then ⟨f, -1074, false⟩ else ⟨Nat.pow 2 52 + f, (e : Int) - 1075, f = 0 && 1 < e⟩

/-- Compares `a · 10^i` with `n · 2^j`, exactly. -/
def cmpScaled (a : Nat) (i : Int) (n : Nat) (j : Int) : Ordering :=
  compare (a * Nat.pow 10 i.toNat * Nat.pow 2 (-j).toNat)
    (n * Nat.pow 2 j.toNat * Nat.pow 10 (-i).toNat)

/-- Whether `d` lies among the reals that round to `x`. -/
def readsBack (x : Binary64) (d : DecimalFloat) : Bool :=
  let lo := if x.narrowBelow then 4 * x.m - 1 else 4 * x.m - 2
  let hi := 4 * x.m + 2
  let incl := x.m % 2 == 0
  let cl := cmpScaled d.digits d.exp lo (x.q - 2)
  let ch := cmpScaled d.digits d.exp hi (x.q - 2)
  (cl == .gt || (incl && cl == .eq)) && (ch == .lt || (incl && ch == .eq))

def below (x : Binary64) (k : Int) : Bool := cmpScaled 1 k x.m x.q == .gt

/-- The least `k` with the value below `10^k`, for a nonzero value: estimated from the binary
logarithm, which is off by at most two, then settled by exact comparison. -/
def scale (x : Binary64) : Int :=
  let est := ((x.m.log2 : Int) + x.q) * 30103 / 100000
  match (List.range 6).find? (fun (i : Nat) => x.below (est - 2 + i)) with
  | some i => est - 2 + i
  | none => est + 4

/-- The value's two neighbours on the grid `10^t`, as digit counts: `⌊x / 10^t⌋` and one more,
with the numerator and denominator of `x / 10^t`. -/
def neighbours (x : Binary64) (t : Int) : Nat × Nat × Nat :=
  let num := x.m * Nat.pow 2 x.q.toNat * Nat.pow 10 (-t).toNat
  let den := Nat.pow 2 (-x.q).toNat * Nat.pow 10 t.toNat
  (num / den, num, den)

/-- The decimal of grid `10^t` that reads back and is nearest the value, if one does. -/
def onGrid (x : Binary64) (t : Int) : Option DecimalFloat :=
  let (k, num, den) := x.neighbours t
  let lo : DecimalFloat := ⟨k, t⟩
  let hi : DecimalFloat := ⟨k + 1, t⟩
  match x.readsBack lo, x.readsBack hi with
  | true, true =>
    -- twice the value against the sum of the two neighbours
    match compare (2 * num) ((2 * k + 1) * den) with
    | .lt => some lo
    | .gt => some hi
    | .eq => some (if k % 2 = 0 then lo else hi)
  | true, false => some lo
  | false, true => some hi
  | false, false => none

/-- Moves trailing zeros of the digits into the exponent. -/
def stripZeros (d : Nat) (e : Int) : DecimalFloat :=
  if h : d ≠ 0 ∧ d % 10 = 0 then stripZeros (d / 10) (e + 1) else ⟨d, e⟩
termination_by d
decreasing_by omega

/-- The exact decimal value of `m · 2^q`. -/
def exact (x : Binary64) : DecimalFloat :=
  if 0 ≤ x.q then ⟨x.m * Nat.pow 2 x.q.toNat, 0⟩ else ⟨x.m * Nat.pow 5 (-x.q).toNat, x.q⟩

/-- The shortest decimal of a nonzero value, trailing zeros moved into the exponent. -/
def shortest (x : Binary64) : DecimalFloat :=
  let k := x.scale
  let found := (List.range 17).findSome? fun n => x.onGrid (k - (n + 1 : Nat))
  let d := found.getD x.exact
  stripZeros d.digits d.exp

end Binary64

/-- The bits of the binary64 value equal to a binary32 value. -/
def widenBits (b : BitVec 32) : BitVec 64 :=
  let n := b.toNat
  let sign := n / Nat.pow 2 31 * Nat.pow 2 63
  let e := n / Nat.pow 2 23 % Nat.pow 2 8
  let f := n % Nat.pow 2 23
  if e = 255 then BitVec.ofNat 64 (sign + 0x7FF * Nat.pow 2 52 + f * Nat.pow 2 29)
  else if e = 0 then
    if f = 0 then BitVec.ofNat 64 sign
    else
      -- a subnormal binary32 value is a normal binary64 value
      let p := f.log2
      BitVec.ofNat 64 (sign + (p + 874) * Nat.pow 2 52 + (f - Nat.pow 2 p) * Nat.pow 2 (52 - p))
  else BitVec.ofNat 64 (sign + (e + 896) * Nat.pow 2 52 + f * Nat.pow 2 29)

end NativeBlock
