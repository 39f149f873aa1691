import NativeBlock.Decimal.Digits
import NativeBlock.Schema.DecimalWidth

/-!
# Fixed-width decimals

A `FixedDecimal w` is an unscaled integer that is a signed word of width `w` (4, 8, 16 or 32
bytes) together with a scale. Everything is exact integer arithmetic on words, checked as a
word's arithmetic is: a result that is no word of the width is no result.

* `FixedDecimal.display?` writes the value: it takes decimal digits off the unscaled integer by
  truncating remainder and division, pads them to more than `scale` digits and puts a point
  before the last `scale`. A negative integer leaves negative remainders, whose magnitudes are
  the digits.
* `FixedDecimal.ofLiteral` reads `[+-]digits[.digits]`; the scale is the number of fraction
  digits written, and a literal whose digits leave the width, or whose fraction digits cannot be
  counted in 32 bits, is refused. Digits are added to a nonnegative number and taken away from a
  negative one, so the least word is read without passing through its negation.
* `FixedDecimal.rescale` re-expresses the value at another scale. Growing the scale fails only
  when the integer leaves the width; shrinking it fails when a nonzero digit would be dropped.
* `FixedDecimal.toColumn` rescales to a column's scale and checks the column's precision.
* `FixedDecimal.cast` moves the value to another width when it fits there: into a width at least
  as wide by `widen`, which moves a value beyond 128 bits digit by digit, and into a narrower
  one through a 128-bit integer.

A power of ten is a word of width `w` exactly when its exponent is at most `w.maxPrecision`.
-/

namespace NativeBlock

namespace DecimalWidth

/-- `v` as a word of the width: checked arithmetic gives a result only when it is one. -/
def word? (w : DecimalWidth) (v : Int) : Option {u : Int // w.Fits u} :=
  if h : w.Fits v then some ⟨v, h⟩ else none

/-- Truncating division of words, checked: no result for a zero divisor or for a quotient that
is no word (the least word divided by `-1`). -/
def tdiv? (w : DecimalWidth) (a b : Int) : Option Int :=
  if b = 0 then none else (w.word? (a.tdiv b)).map Subtype.val

/-- The remainder of truncating division, checked: a result exactly when the division has one. -/
def tmod? (w : DecimalWidth) (a b : Int) : Option Int :=
  (w.tdiv? a b).map fun _ => a.tmod b

/-- One more decimal digit on the right of `acc`: ten times `acc`, with the digit taken away for
a negative number and added otherwise, each step checked. -/
def pushDigit? (w : DecimalWidth) (negative : Bool) (acc : Int) (d : Nat) :
    Option {u : Int // w.Fits u} := do
  let t ← w.word? (acc * 10)
  w.word? (if negative then t.1 - d else t.1 + d)

theorem tdiv?_eq_some {w : DecimalWidth} {a b q : Int} (run : w.tdiv? a b = some q) :
    q = a.tdiv b := by
  unfold tdiv? word? at run
  split at run
  · cases run
  · split at run
    · cases run
      rfl
    · cases run

end DecimalWidth

/-- `unscaled · 10⁻ˢᶜᵃˡᵉ` with an unscaled integer of width `w`. -/
structure FixedDecimal (w : DecimalWidth) where
  unscaled : Int
  scale : Nat
  fits : w.Fits unscaled

namespace FixedDecimal

variable {w : DecimalWidth}

/-- The decimal digits of `|v|`, least significant first, taken off by truncating remainder and
division in width `w` while anything is left; zero has none. A remainder is moved through a
128-bit integer before its magnitude is taken. -/
def peelDigits (w : DecimalWidth) (v : Int) : Option (List Nat) :=
  if _zero : v = 0 then some []
  else do
    let r ← w.tmod? v 10
    let d ← DecimalWidth.d128.word? r
    match _quotient : w.tdiv? v 10 with
    | none => none
    | some q => (d.1.natAbs :: ·) <$> peelDigits w q
termination_by v.natAbs
decreasing_by
  rw [DecimalWidth.tdiv?_eq_some _quotient, Int.natAbs_tdiv]
  exact Nat.div_lt_self (Int.natAbs_pos.mpr _zero) (by decide)

/-- The digits of `|v|` that a decimal's text shows, least significant first: the first is taken
off even from zero, the rest while anything is left. -/
def textDigits (w : DecimalWidth) (v : Int) : Option (List Nat) := do
  let r ← w.tmod? v 10
  let q ← w.tdiv? v 10
  let d ← DecimalWidth.d128.word? r
  let ds ← peelDigits w q
  pure (d.1.natAbs :: ds)

/-- The value's text as the value writes itself, `none` standing for a failure to write: the
digits of the unscaled integer, padded with zeros to more than `scale` of them, with a point
before the last `scale` and a minus sign for a negative integer. -/
def display? (d : FixedDecimal w) : Option String := do
  let ds ← textDigits w d.unscaled
  let padded := (ds ++ List.replicate (d.scale + 1 - ds.length) 0).reverse
  let chars := padded.map fun k => Char.ofNat (48 + k)
  let intPart := chars.take (chars.length - d.scale)
  let fracPart := chars.drop (chars.length - d.scale)
  let sign := if d.unscaled < 0 then "-" else ""
  pure (sign ++ String.ofList intPart ++ (if d.scale = 0 then "" else "." ++ String.ofList fracPart))

/-- The value's text. Writing never fails, so the empty text is never given. -/
def render (d : FixedDecimal w) : String := d.display?.getD ""

instance : ToString (FixedDecimal w) := ⟨render⟩

/-- The digits of the unscaled integer, the precision the value needs; zero has one. -/
def digits (d : FixedDecimal w) : Nat := Decimal.digitCount d.unscaled.natAbs

def isNegative (d : FixedDecimal w) : Bool := d.unscaled < 0

/-- The value `u · 10⁻ˢ`, when `u` is a word of width `w`. -/
def ofInt? (w : DecimalWidth) (u : Int) (scale : Nat) : Option (FixedDecimal w) :=
  if h : w.Fits u then some ⟨u, scale, h⟩ else none

/-- `10 ^ k` when it is a word of width `w`. -/
def pow10? (w : DecimalWidth) (k : Nat) : Option Int :=
  if k ≤ w.maxPrecision then some (Int.pow 10 k) else none

/-- One character of a literal's digits onto the integer read so far: a digit is pushed on its
right, and the reading stops with `invalid` at a character that is no digit and with `overflow`
at a digit that takes the integer out of the width. -/
def literalStep (w : DecimalWidth) (negative : Bool) (invalid overflow : Error)
    (acc : Except Error {u : Int // w.Fits u}) (c : Char) : Except Error {u : Int // w.Fits u} := do
  let a ← acc
  if !c.isDigit then throw invalid
  match w.pushDigit? negative a.1 (c.toNat - '0'.toNat) with
  | some t => pure t
  | none => throw overflow

/-- Whether a literal is negative, and its text after the sign. -/
def splitSign : List Char → Bool × List Char
  | '-' :: rest => (true, rest)
  | '+' :: rest => (false, rest)
  | cs => (false, cs)

/-- Reads a decimal literal: an optional sign, digits, optionally a point and more digits, with
at least one digit in all. Digits are taken in order, and the first that is no digit or that
takes the integer out of the width decides the error; a fraction of `2 ^ 32` digits or more is
invalid. -/
def ofLiteral (w : DecimalWidth) (s : String) : Except Error (FixedDecimal w) :=
  let invalid : Error := .numericRange s!"invalid decimal literal `{s}`"
  let bytes := w.bytes
  let overflow : Error := .numericRange s!"decimal literal `{s}` overflows {bytes} bytes"
  let signed := splitSign s.toList
  let intPart := signed.2.takeWhile (· ≠ '.')
  let fracPart := (signed.2.dropWhile (· ≠ '.')).drop 1
  if intPart.isEmpty ∧ fracPart.isEmpty then .error invalid
  else
    match (intPart ++ fracPart).foldl (literalStep w signed.1 invalid overflow)
        (.ok ⟨0, w.fits_zero⟩) with
    | .error e => .error e
    | .ok u =>
      -- The scale is a 32-bit count of fraction digits.
      if fracPart.length < 4294967296 then .ok ⟨u.1, fracPart.length, u.2⟩
      else .error invalid

/-- The same value at scale `s`, exactly. -/
def rescale (d : FixedDecimal w) (s : Nat) : Except Error (FixedDecimal w) :=
  let text := d.render
  if d.scale = s then .ok d
  else if d.scale < s then
    let overflow : Error := .numericRange s!"{text} overflows at scale {s}"
    match pow10? w (s - d.scale) with
    | none => .error overflow
    | some f => match ofInt? w (d.unscaled * f) s with
      | some r => .ok r
      | none => .error overflow
  else
    let drops : Error := .numericRange s!"rescaling {text} to scale {s} drops nonzero digits"
    match pow10? w (d.scale - s) with
    | none => if d.unscaled = 0 then .ok ⟨0, s, w.fits_zero⟩
      else .error drops
    | some f =>
      if d.unscaled.tmod f ≠ 0 then .error drops
      else match ofInt? w (d.unscaled.tdiv f) s with
        | some r => .ok r
        | none => .error drops

/-- The unscaled integer a `Decimal(precision, scale)` column stores for this value. -/
def toColumn (d : FixedDecimal w) (precision scale : Nat) : Except Error Int := do
  let v ← d.rescale scale
  let needed := v.digits
  if precision < needed then
    let text := d.render
    throw (.numericRange s!"{text} needs {needed} digits, column precision is {precision}")
  pure v.unscaled

/-- Builds a word of width `w` from decimal digits, most significant first, each checked as a
word first and then pushed on the right. -/
def rebuildDigits (w : DecimalWidth) (negative : Bool) (ds : List Nat) :
    Option {u : Int // w.Fits u} :=
  ds.foldlM (fun (acc : {u : Int // w.Fits u}) (d : Nat) => do
    let _ ← w.word? d
    w.pushDigit? negative acc.1 d) ⟨0, w.fits_zero⟩

/-- Moves `v`, a word of width `w`, into a width `w'` at least as wide: directly when `v` is a
128-bit integer, else digit by digit, so that widths beyond 128 bits lose nothing. -/
def widen (w w' : DecimalWidth) (v : Int) : Option {u : Int // w'.Fits u} :=
  match DecimalWidth.d128.word? v with
  | some small => w'.word? small.1
  | none => do
    let ds ← peelDigits w v
    rebuildDigits w' (decide (v < 0)) ds.reverse

/-- The same value with an unscaled integer of width `w'`, when it is a word of that width: by
`widen` into a width at least as wide, through a 128-bit integer into a narrower one. -/
def cast (d : FixedDecimal w) (w' : DecimalWidth) : Except Error (FixedDecimal w') :=
  let moved := if w.bytes ≤ w'.bytes then widen w w' d.unscaled
    else (DecimalWidth.d128.word? d.unscaled).bind fun small => w'.word? small.1
  match moved with
  | some u => .ok ⟨u.1, d.scale, u.2⟩
  | none =>
    let text := d.render
    let bytes := w'.bytes
    .error (.numericRange s!"{text} does not fit {bytes}-byte decimal")

end FixedDecimal

end NativeBlock
