import NativeBlock.Proofs.DecimalCast

/-!
# The text of a fixed decimal

A decimal literal (`Literal`) is an optional sign, the digits before the point and, when a point
is written, the digits after it, with one digit at least. It stands for the integer all its
digits form, with its sign, at the scale of its fraction.

* `ofLiteral_eq_ok_iff`: reading accepts a text exactly when it is such a literal whose fraction
  has fewer than `2 ^ 32` digits and whose integer is a word of the width, and gives that integer
  at that scale. Digits are pushed onto the integer one at a time, taken away for a negative
  literal, and every intermediate lies between zero and the result, so only the result is
  checked in effect (`foldl_literalStep_eq_ok_iff`): the least word is read although its
  negation is no word.
* `display?_literal`: writing never fails, and it writes a literal with no sign but a minus for a
  negative integer, one digit at least and no superfluous zero before the point, and a fraction
  of exactly `scale` digits, present when the scale is positive. It peels digits by truncating
  remainder, whose magnitude is the digit also for a negative integer.
* `literal_round_trip`: writing then reading gives the value back.
-/

namespace NativeBlock

open Decimal

namespace Decimal

/-- The sign written before a literal's digits. -/
inductive Sign where
  | unsigned
  | plus
  | minus
  deriving DecidableEq, Repr

def Sign.chars : Sign → List Char
  | .unsigned => []
  | .plus => ['+']
  | .minus => ['-']

/-- A decimal literal as written: a sign, the digits before the point, and the digits after the
point when a point is written. -/
structure Literal where
  sign : Sign
  whole : List Char
  fraction : Option (List Char)
  deriving DecidableEq, Repr

namespace Literal

/-- The digits after the point; none when no point is written. -/
def fractionDigits (l : Literal) : List Char := l.fraction.getD []

def chars (l : Literal) : List Char :=
  l.sign.chars ++ l.whole ++ (l.fraction.map ('.' :: ·)).getD []

/-- Every character in a digit place is a digit, and one digit at least is written. -/
def Valid (l : Literal) : Prop :=
  (∀ c ∈ l.whole ++ l.fractionDigits, c.isDigit) ∧ l.whole ++ l.fractionDigits ≠ []

instance (l : Literal) : Decidable l.Valid := inferInstanceAs (Decidable (_ ∧ _))

/-- The number that decimal digits stand for, most significant first. -/
def digitsValue (cs : List Char) : Nat :=
  Nat.ofDigits 10 (cs.map fun c => c.toNat - '0'.toNat).reverse

/-- The integer all the literal's digits form, negative after a minus sign. -/
def unscaled (l : Literal) : Int := signed (l.sign == .minus) (digitsValue (l.whole ++ l.fractionDigits))

/-- The number of digits after the point. -/
def scale (l : Literal) : Nat := l.fractionDigits.length

/-- The literal written for a sign and digit characters, most significant first, at a scale: the
last `scale` characters follow a point when the scale is positive, and the others stand before it.
-/
def written (negative : Bool) (chars : List Char) (scale : Nat) : Literal where
  sign := if negative then .minus else .unsigned
  whole := chars.take (chars.length - scale)
  fraction := if scale = 0 then none else some (chars.drop (chars.length - scale))

section Written

variable (negative : Bool) (chars : List Char) (s : Nat)

theorem written_digits :
    (written negative chars s).whole ++ (written negative chars s).fractionDigits = chars := by
  by_cases zero : s = 0
  · subst zero
    simp [written, fractionDigits]
  · simp only [written, fractionDigits, zero, if_false, Option.getD_some]
    exact List.take_append_drop _ _

theorem written_scale (le : s ≤ chars.length) : (written negative chars s).scale = s := by
  by_cases zero : s = 0
  · simp [written, scale, fractionDigits, zero]
  · simp only [written, scale, fractionDigits, zero, if_false, Option.getD_some, List.length_drop]
    omega

theorem written_unscaled :
    (written negative chars s).unscaled = signed negative (digitsValue chars) := by
  rw [unscaled, written_digits]
  cases negative <;> rfl

theorem written_valid (digits : ∀ c ∈ chars, c.isDigit) (nonempty : chars ≠ []) :
    (written negative chars s).Valid := by
  unfold Valid
  rw [written_digits]
  exact ⟨digits, nonempty⟩

end Written

end Literal

end Decimal

namespace FixedDecimal

open DecimalWidth

variable {w : DecimalWidth}

/-! ## Reading digits -/

section Digits

variable {negative : Bool} {invalid overflow : Error}

/-- A failed reading stays failed. -/
theorem foldl_literalStep_error (cs : List Char) (e : Error) :
    cs.foldl (literalStep w negative invalid overflow) (.error e) = .error e := by
  induction cs with
  | nil => rfl
  | cons c cs ih => exact ih

/-- A digit read onto a signed magnitude gives the magnitude with the digit pushed on, when that
is a word, and stops the reading with `overflow` otherwise. -/
theorem literalStep_digit {acc : {u : Int // w.Fits u}} {a : Nat} (start : acc.1 = signed negative a)
    {c : Char} (digit : c.isDigit) :
    literalStep w negative invalid overflow (.ok acc) c =
      (w.word? (signed negative (10 * a + (c.toNat - '0'.toNat)))).elim (.error overflow) .ok := by
  simp only [literalStep, digit, Bool.not_true, Bool.false_eq_true, if_false, bind, Except.bind]
  rw [start, pushDigit?_signed]
  cases w.word? (signed negative (10 * a + (c.toNat - '0'.toNat))) <;> rfl

/-- A character that is no digit stops the reading with `invalid`. -/
theorem literalStep_not_digit {acc : {u : Int // w.Fits u}} {c : Char} (other : c.isDigit = false) :
    literalStep w negative invalid overflow (.ok acc) c = .error invalid := by
  simp only [literalStep, other, Bool.not_false, if_true, bind, Except.bind]
  rfl

/-- The digits' value with one more digit in front. -/
theorem digitsValue_push (a : Nat) (c : Char) (cs : List Char) :
    a * 10 ^ (c :: cs).length + Literal.digitsValue (c :: cs) =
      (10 * a + (c.toNat - '0'.toNat)) * 10 ^ cs.length + Literal.digitsValue cs := by
  have := push_value a (c.toNat - '0'.toNat) (cs.map fun c => c.toNat - '0'.toNat)
  simpa [Literal.digitsValue] using this

/-- Reading digits onto a signed magnitude succeeds exactly when every character is a digit, and
it gives the signed magnitude with the digits pushed on: every intermediate lies between zero
and the result, so the result is checked in effect only once. -/
theorem foldl_literalStep_eq_ok_iff {cs : List Char} {acc u : {u : Int // w.Fits u}} {a : Nat}
    (start : acc.1 = signed negative a) :
    cs.foldl (literalStep w negative invalid overflow) (.ok acc) = .ok u ↔
      (∀ c ∈ cs, c.isDigit) ∧ u.1 = signed negative (a * 10 ^ cs.length + Literal.digitsValue cs) := by
  induction cs generalizing acc a with
  | nil =>
    simp only [List.foldl_nil, List.not_mem_nil, false_implies, implies_true, true_and,
      List.length_nil, Nat.pow_zero, Nat.mul_one, Literal.digitsValue, List.map_nil,
      List.reverse_nil, Nat.ofDigits_nil, Nat.add_zero]
    constructor
    · intro same
      cases same
      exact start
    · intro value
      rw [Subtype.ext (value.trans start.symm)]
  | cons c cs ih =>
    rw [List.foldl_cons, digitsValue_push]
    cases digit : c.isDigit with
    | false =>
      rw [literalStep_not_digit digit, foldl_literalStep_error]
      simp only [reduceCtorEq, false_iff, not_and]
      intro digits
      exact absurd (digits c List.mem_cons_self) (by rw [digit]; decide)
    | true =>
      rw [literalStep_digit start digit]
      by_cases pushed : w.Fits (signed negative (10 * a + (c.toNat - '0'.toNat)))
      · rw [word?_of_fits pushed, Option.elim_some, ih rfl]
        simp [digit]
      · have grow : 10 * a + (c.toNat - '0'.toNat) ≤
            (10 * a + (c.toNat - '0'.toNat)) * 10 ^ cs.length + Literal.digitsValue cs := by
          simpa [Literal.digitsValue] using
            le_push_value a (c.toNat - '0'.toNat) (cs.map fun c => c.toNat - '0'.toNat)
        rw [word?_of_not_fits pushed, Option.elim_none, foldl_literalStep_error]
        simp only [reduceCtorEq, false_iff, not_and]
        intro _ result
        exact pushed (fits_signed_of_le grow (result ▸ u.2))

end Digits

/-! ## Reading a literal -/

/-- A digit is none of the characters that are no digit: the sign characters and the point. -/
theorem ne_of_isDigit {c c' : Char} (digit : c.isDigit) (other : c'.isDigit = false) : c ≠ c' := by
  rintro rfl
  rw [digit] at other
  cases other

/-- Every text is a sign followed by what the sign split leaves. -/
theorem splitSign_spec (cs : List Char) :
    ∃ sign : Sign, cs = sign.chars ++ (splitSign cs).2 ∧ (splitSign cs).1 = (sign == .minus) := by
  unfold splitSign
  split
  · exact ⟨.minus, rfl, rfl⟩
  · exact ⟨.plus, rfl, rfl⟩
  · exact ⟨.unsigned, rfl, rfl⟩

/-- The sign split of a sign and a text that starts with no sign gives them back. -/
theorem splitSign_chars_append (sign : Sign) {rest : List Char}
    (unsigned : ∀ c ∈ rest.head?, c ≠ '-' ∧ c ≠ '+') :
    splitSign (sign.chars ++ rest) = (sign == .minus, rest) := by
  cases sign with
  | minus => rfl
  | plus => rfl
  | unsigned =>
    cases rest with
    | nil => rfl
    | cons c rest =>
      obtain ⟨notMinus, notPlus⟩ := unsigned c rfl
      simp only [Sign.chars, List.nil_append]
      unfold splitSign
      split
      · rename_i same
        exact absurd (List.cons.inj same).1 notMinus
      · rename_i same
        exact absurd (List.cons.inj same).1 notPlus
      · rfl

/-- A text is the part before its first point, then the point and the rest when there is one. -/
theorem point_split (body : List Char) :
    ∃ fraction : Option (List Char),
      body = body.takeWhile (· ≠ '.') ++ (fraction.map ('.' :: ·)).getD [] ∧
      (body.dropWhile (· ≠ '.')).drop 1 = fraction.getD [] := by
  have whole := (List.takeWhile_append_dropWhile (p := fun c => decide (c ≠ '.')) (l := body)).symm
  cases after : body.dropWhile (· ≠ '.') with
  | nil =>
    refine ⟨none, ?_, rfl⟩
    rw [after] at whole
    exact whole
  | cons c rest =>
    have point : c = '.' := by
      have stop := List.head_dropWhile_not (fun c => decide (c ≠ '.')) (l := body)
        (by rw [after]; exact List.cons_ne_nil c rest)
      simp only [after, List.head_cons, decide_eq_false_iff_not, not_not] at stop
      exact stop
    subst point
    refine ⟨some rest, ?_, rfl⟩
    rw [after] at whole
    exact whole

/-- Before the first point of a literal's digits and point stand its whole digits; after the
point, its fraction digits. -/
theorem takeWhile_dropWhile_literal {whole : List Char} (digits : ∀ c ∈ whole, c.isDigit)
    (fraction : Option (List Char)) :
    (whole ++ (fraction.map ('.' :: ·)).getD []).takeWhile (· ≠ '.') = whole ∧
      ((whole ++ (fraction.map ('.' :: ·)).getD []).dropWhile (· ≠ '.')).drop 1 =
        fraction.getD [] := by
  have noPoint : ∀ c ∈ whole, decide (c ≠ '.') = true :=
    fun c mem => decide_eq_true (ne_of_isDigit (digits c mem) (by decide))
  rw [List.takeWhile_append_of_pos noPoint, List.dropWhile_append_of_pos noPoint]
  cases fraction <;> simp

/-- A literal's digits start with no sign, so the sign split takes exactly its sign off. -/
theorem splitSign_literal {l : Literal} (digits : ∀ c ∈ l.whole, c.isDigit) :
    splitSign l.chars = (l.sign == .minus, l.whole ++ (l.fraction.map ('.' :: ·)).getD []) := by
  rw [Literal.chars, List.append_assoc]
  apply splitSign_chars_append
  intro c first
  -- The first character is the first whole digit, or the point when no whole digit is written.
  have digitOrPoint : c.isDigit ∨ c = '.' := by
    cases whole : l.whole with
    | nil =>
      cases fraction : l.fraction with
      | none => simp [whole, fraction] at first
      | some f =>
        simp only [whole, fraction, List.nil_append, Option.map_some, Option.getD_some,
          List.head?_cons, Option.mem_def, Option.some.injEq] at first
        exact Or.inr first.symm
    | cons c' rest =>
      simp only [whole, List.cons_append, List.head?_cons, Option.mem_def,
        Option.some.injEq] at first
      subst first
      exact Or.inl (digits c' (by simp [whole]))
  rcases digitOrPoint with digit | rfl
  · exact ⟨ne_of_isDigit digit (by decide), ne_of_isDigit digit (by decide)⟩
  · decide

/-- What reading accepts is a literal, read as its integer at its scale. -/
theorem literal_of_ofLiteral_eq_ok {s : String} {d : FixedDecimal w} (run : ofLiteral w s = .ok d) :
    ∃ l : Literal, s.toList = l.chars ∧ l.Valid ∧ l.scale < 2 ^ 32 ∧ w.Fits l.unscaled ∧
      d.unscaled = l.unscaled ∧ d.scale = l.scale := by
  obtain ⟨sign, signSplit, negative⟩ := splitSign_spec s.toList
  obtain ⟨fraction, pointSplit, fracPart⟩ := point_split (splitSign s.toList).2
  have start : (⟨0, w.fits_zero⟩ : {u : Int // w.Fits u}).1 = signed (splitSign s.toList).1 0 :=
    (signed_zero _).symm
  unfold ofLiteral at run
  dsimp only at run
  -- Of the three ways reading can end, only the fold of digits with a short fraction succeeds.
  split at run
  · cases run
  rename_i nonempty
  split at run
  · cases run
  rename_i u folded
  split at run
  · rename_i short
    cases run
    obtain ⟨digits, value⟩ := (foldl_literalStep_eq_ok_iff start).mp folded
    refine ⟨⟨sign, (splitSign s.toList).2.takeWhile (· ≠ '.'), fraction⟩, ?_, ⟨?_, ?_⟩, ?_,
      ?_, ?_, ?_⟩
    · show s.toList = sign.chars ++ (splitSign s.toList).2.takeWhile (· ≠ '.') ++
        (fraction.map ('.' :: ·)).getD []
      rw [List.append_assoc, ← pointSplit]
      exact signSplit
    · simpa [Literal.fractionDigits, ← fracPart] using digits
    · simpa [Literal.fractionDigits, ← fracPart] using nonempty
    · simpa [Literal.scale, Literal.fractionDigits, ← fracPart] using short
    · rw [Literal.unscaled, Literal.fractionDigits, ← fracPart, ← negative]
      simpa [value] using u.2
    · show (u : Int) = _
      rw [value, Literal.unscaled, Literal.fractionDigits, ← fracPart, ← negative]
      simp
    · rw [Literal.scale, Literal.fractionDigits, ← fracPart]
  · cases run

/-- Reading a literal whose fraction has fewer than `2 ^ 32` digits and whose integer is a word
gives that integer at the scale of the fraction. -/
theorem ofLiteral_of_literal {s : String} {l : Literal} (text : s.toList = l.chars)
    (valid : l.Valid) (short : l.scale < 2 ^ 32) (fits : w.Fits l.unscaled) :
    ofLiteral w s = .ok ⟨l.unscaled, l.scale, fits⟩ := by
  obtain ⟨digits, nonempty⟩ := valid
  have wholeDigits : ∀ c ∈ l.whole, c.isDigit := fun c mem => digits c (List.mem_append_left _ mem)
  obtain ⟨intPart, fracPart⟩ := takeWhile_dropWhile_literal wholeDigits l.fraction
  have notEmpty : ¬(l.whole.isEmpty = true ∧ (l.fraction.getD []).isEmpty = true) := by
    rintro ⟨noWhole, noFraction⟩
    rw [List.isEmpty_iff] at noWhole noFraction
    exact nonempty (by rw [Literal.fractionDigits, noWhole, noFraction]; rfl)
  have start : (⟨0, w.fits_zero⟩ : {u : Int // w.Fits u}).1 = signed (l.sign == .minus) 0 :=
    (signed_zero _).symm
  have value : (⟨l.unscaled, fits⟩ : {u : Int // w.Fits u}).1 =
      signed (l.sign == .minus) (0 * 10 ^ (l.whole ++ l.fractionDigits).length +
        Literal.digitsValue (l.whole ++ l.fractionDigits)) := by
    rw [Nat.zero_mul, Nat.zero_add]
    rfl
  have shortNat : l.fractionDigits.length < 4294967296 := short
  unfold ofLiteral
  dsimp only
  rw [text, splitSign_literal wholeDigits]
  dsimp only
  rw [intPart, fracPart, if_neg notEmpty, ← Literal.fractionDigits,
    (foldl_literalStep_eq_ok_iff start).mpr ⟨digits, value⟩]
  dsimp only
  rw [if_pos shortNat]
  rfl

/-- Reading accepts a text exactly when it is a literal whose fraction has fewer than `2 ^ 32`
digits and whose integer is a word of the width, and it gives that integer at that scale. -/
theorem ofLiteral_eq_ok_iff {s : String} {d : FixedDecimal w} :
    ofLiteral w s = .ok d ↔ ∃ l : Literal, s.toList = l.chars ∧ l.Valid ∧ l.scale < 2 ^ 32 ∧
      w.Fits l.unscaled ∧ d.unscaled = l.unscaled ∧ d.scale = l.scale := by
  constructor
  · exact literal_of_ofLiteral_eq_ok
  · rintro ⟨l, text, valid, short, fits, unscaled, scale⟩
    rw [ofLiteral_of_literal text valid short fits]
    exact congrArg Except.ok (eq_of_unscaled_scale unscaled.symm scale.symm)

/-! ## Writing a value -/

theorem digitChar_isDigit : ∀ k < 10, (Char.ofNat (48 + k)).isDigit := by
  decide

theorem digitChar_value : ∀ k < 10, (Char.ofNat (48 + k)).toNat - '0'.toNat = k := by
  decide

theorem digitChar_eq_zero : ∀ k < 10, Char.ofNat (48 + k) = '0' → k = 0 := by
  decide

/-- Writing peels the last digit by truncating remainder and the others from the truncated
quotient, so a negative integer gives the digits of its magnitude. -/
theorem textDigits_eq {v : Int} (fits : w.Fits v) :
    textDigits w v = some (v.natAbs % 10 :: Nat.digits 10 (v.natAbs / 10)) := by
  unfold textDigits
  simp only [tmod?_ten fits, tdiv?_ten fits, word?_of_fits (fits_tmod_ten d128 v),
    peelDigits_eq_digits (fits_tdiv_ten fits), Option.bind_eq_bind, Option.bind_some]
  rw [Int.natAbs_tmod, Int.natAbs_tdiv]
  rfl

/-- The digits written for a magnitude, least significant first: its last digit, then the
digits of the rest; zero has the one digit `0`. -/
theorem magnitudeDigits_value (n : Nat) : Nat.ofDigits 10 (n % 10 :: Nat.digits 10 (n / 10)) = n := by
  rw [Nat.ofDigits_cons, Nat.ofDigits_digits]
  exact Nat.mod_add_div n 10

theorem magnitudeDigits_small (n : Nat) : ∀ k ∈ n % 10 :: Nat.digits 10 (n / 10), k < 10 := by
  intro k mem
  rcases List.mem_cons.mp mem with rfl | mem
  · exact Nat.mod_lt _ (by decide)
  · exact Nat.digits_lt_base (by decide) mem

/-- The most significant digit of a magnitude is no zero, but for zero itself. -/
theorem magnitudeDigits_top (n : Nat) :
    (n % 10 :: Nat.digits 10 (n / 10)).getLast? ≠ some 0 ∨ n % 10 :: Nat.digits 10 (n / 10) = [0] := by
  by_cases single : n / 10 = 0
  · rw [single, Nat.digits_zero]
    by_cases zero : n % 10 = 0
    · right
      rw [zero]
    · left
      simpa using zero
  · left
    have rest : Nat.digits 10 (n / 10) ≠ [] := Nat.digits_ne_nil_iff_ne_zero.mpr single
    rw [List.getLast?_cons, List.getLast?_eq_some_getLast rest, Option.getD_some, ne_eq,
      Option.some.injEq]
    exact Nat.getLast_digit_ne_zero 10 single

/-- Digits least significant first, padded with zeros to more than `scale` of them and turned
most significant first, as writing lays them out. -/
def padDigits (ds : List Nat) (scale : Nat) : List Nat :=
  (ds ++ List.replicate (scale + 1 - ds.length) 0).reverse

section Padding

variable (ds : List Nat) (s : Nat)

theorem padDigits_length : (padDigits ds s).length = ds.length + (s + 1 - ds.length) := by
  simp only [padDigits, List.length_reverse, List.length_append, List.length_replicate]

theorem padDigits_value : Nat.ofDigits 10 (padDigits ds s).reverse = Nat.ofDigits 10 ds := by
  rw [padDigits, List.reverse_reverse, Nat.ofDigits_append_replicate_zero]

theorem padDigits_small (small : ∀ k ∈ ds, k < 10) : ∀ k ∈ padDigits ds s, k < 10 := by
  intro k mem
  simp only [padDigits, List.mem_reverse, List.mem_append, List.mem_replicate] at mem
  rcases mem with mem | ⟨_, rfl⟩
  · exact small k mem
  · decide

/-- Padding puts no superfluous zero before the last `s` digits: the digits before them are `0`
alone, or start with no zero when the digits padded did not end in one. -/
theorem padDigits_whole_head (top : ds.getLast? ≠ some 0 ∨ ds = [0]) :
    ((padDigits ds s).take ((padDigits ds s).length - s)).head? ≠ some 0 ∨
      (padDigits ds s).take ((padDigits ds s).length - s) = [0] := by
  rw [padDigits_length]
  by_cases short : ds.length ≤ s
  · -- The padding is at least one zero and makes `s + 1` digits, so one digit stands before.
    right
    obtain ⟨z, pad⟩ : ∃ z, s + 1 - ds.length = z + 1 := ⟨s - ds.length, by omega⟩
    rw [show ds.length + (s + 1 - ds.length) - s = 1 by omega, padDigits, pad,
      List.reverse_append, List.reverse_replicate, List.replicate_succ]
    rfl
  · -- No padding: the digits stand reversed, led by the last of them.
    have none : s + 1 - ds.length = 0 := by omega
    rw [padDigits, none, List.replicate_zero, List.append_nil, Nat.add_zero]
    rcases top with top | single
    · left
      rw [List.head?_take, if_neg (by omega), List.head?_reverse]
      exact top
    · right
      subst single
      have zero : s = 0 := by simp at short; omega
      subst zero
      rfl

end Padding

theorem digitsValue_map_digitChar {ks : List Nat} (small : ∀ k ∈ ks, k < 10) :
    Literal.digitsValue (ks.map fun k => Char.ofNat (48 + k)) = Nat.ofDigits 10 ks.reverse := by
  have same : (ks.map fun k => Char.ofNat (48 + k)).map (fun c => c.toNat - '0'.toNat) = ks := by
    rw [List.map_map]
    exact (List.map_congr_left fun k mem => digitChar_value k (small k mem)).trans (List.map_id ks)
  rw [Literal.digitsValue, same]

theorem head_map_digitChar {ks : List Nat} (small : ∀ k ∈ ks, k < 10)
    (top : ks.head? ≠ some 0 ∨ ks = [0]) :
    (ks.map fun k => Char.ofNat (48 + k)).head? ≠ some '0' ∨
      ks.map (fun k => Char.ofNat (48 + k)) = ['0'] := by
  rcases top with top | rfl
  · left
    cases ks with
    | nil => simp
    | cons k rest =>
      simp only [List.map_cons, List.head?_cons, ne_eq, Option.some.injEq]
      intro zero
      exact top (congrArg some (digitChar_eq_zero k (small k List.mem_cons_self) zero))
  · right
    rfl

theorem written_chars (p : Prop) [Decidable p] (chars : List Char) (s : Nat) :
    ((if p then "-" else "") ++ String.ofList (chars.take (chars.length - s)) ++
      (if s = 0 then "" else "." ++ String.ofList (chars.drop (chars.length - s)))).toList =
    (Literal.written (decide p) chars s).chars := by
  by_cases negative : p <;> by_cases zero : s = 0 <;>
    simp [negative, zero, Literal.written, Literal.chars, Sign.chars]

/-- Writing gives the literal of its sign and its padded digits. -/
theorem display?_eq_written (d : FixedDecimal w) : ∃ text, d.display? = some text ∧
    text.toList = (Literal.written (decide (d.unscaled < 0))
      ((padDigits (d.unscaled.natAbs % 10 :: Nat.digits 10 (d.unscaled.natAbs / 10)) d.scale).map
        fun k => Char.ofNat (48 + k)) d.scale).chars := by
  unfold display?
  rw [textDigits_eq d.fits]
  exact ⟨_, rfl, written_chars _ _ _⟩

/-- Writing never fails. It writes a literal with a minus sign exactly for a negative integer and
no other sign, one digit at least before the point and no superfluous zero there, and a point
followed by exactly `scale` digits when the scale is positive; the literal stands for the value. -/
theorem display?_literal (d : FixedDecimal w) : ∃ text, d.display? = some text ∧ ∃ l : Literal,
    text.toList = l.chars ∧ l.Valid ∧ l.sign = (if d.unscaled < 0 then .minus else .unsigned) ∧
      l.whole ≠ [] ∧ (l.whole.head? ≠ some '0' ∨ l.whole = ['0']) ∧
      (l.fraction = none ↔ d.scale = 0) ∧ l.scale = d.scale ∧ l.unscaled = d.unscaled := by
  obtain ⟨text, shown, written⟩ := display?_eq_written d
  set ks := padDigits (d.unscaled.natAbs % 10 :: Nat.digits 10 (d.unscaled.natAbs / 10)) d.scale
    with ksDef
  have small : ∀ k ∈ ks, k < 10 := padDigits_small _ _ (magnitudeDigits_small _)
  have long : d.scale + 1 ≤ ks.length := by
    rw [padDigits_length]
    omega
  have isDigit : ∀ c ∈ ks.map (fun k => Char.ofNat (48 + k)), c.isDigit := by
    intro c mem
    obtain ⟨k, kMem, rfl⟩ := List.mem_map.mp mem
    exact digitChar_isDigit k (small k kMem)
  have whole : (Literal.written (decide (d.unscaled < 0)) (ks.map fun k => Char.ofNat (48 + k))
      d.scale).whole = (ks.take (ks.length - d.scale)).map fun k => Char.ofNat (48 + k) := by
    simp only [Literal.written, List.length_map, List.map_take]
  refine ⟨text, shown, _, written, Literal.written_valid _ _ _ isDigit ?nonempty, ?sign, ?whole,
    ?head, ?fraction, Literal.written_scale _ _ _ ?le, ?unscaled⟩
  case nonempty =>
    intro empty
    have none := congrArg List.length empty
    simp only [List.length_map, List.length_nil] at none
    omega
  case sign =>
    by_cases negative : d.unscaled < 0 <;> simp [Literal.written, negative]
  case whole =>
    rw [whole, ne_eq, List.map_eq_nil_iff, List.take_eq_nil_iff, not_or]
    refine ⟨by omega, ?_⟩
    rintro empty
    rw [empty, List.length_nil] at long
    omega
  case head =>
    rw [whole]
    exact head_map_digitChar (fun k mem => small k (List.mem_of_mem_take mem))
      (padDigits_whole_head _ _ (magnitudeDigits_top _))
  case fraction =>
    by_cases zero : d.scale = 0 <;> simp [Literal.written, zero]
  case le =>
    rw [List.length_map]
    omega
  case unscaled =>
    rw [Literal.written_unscaled, digitsValue_map_digitChar small, padDigits_value,
      magnitudeDigits_value, signed_natAbs]

/-- Writing and reading fixed decimals are inverse. Writing never fails and gives a literal with a
minus sign exactly for a negative integer, no superfluous zero before the point, and exactly
`scale` digits after a point written when the scale is positive; reading that text gives the value
back. Reading accepts exactly the literals whose fraction has fewer than `2 ^ 32` digits and whose
integer is a word of the width, and gives that integer at the scale of the fraction. -/
theorem literal_round_trip (d : FixedDecimal w) (short : d.scale < 2 ^ 32) :
    (∃ text, d.display? = some text ∧ d.render = text ∧ ∃ l : Literal,
      text.toList = l.chars ∧ l.Valid ∧ l.sign = (if d.unscaled < 0 then .minus else .unsigned) ∧
        l.whole ≠ [] ∧ (l.whole.head? ≠ some '0' ∨ l.whole = ['0']) ∧
        (l.fraction = none ↔ d.scale = 0) ∧ l.scale = d.scale ∧ l.unscaled = d.unscaled) ∧
    ofLiteral w d.render = .ok d ∧
    ∀ (s : String) (d' : FixedDecimal w), ofLiteral w s = .ok d' ↔
      ∃ l : Literal, s.toList = l.chars ∧ l.Valid ∧ l.scale < 2 ^ 32 ∧ w.Fits l.unscaled ∧
        d'.unscaled = l.unscaled ∧ d'.scale = l.scale := by
  obtain ⟨text, shown, l, chars, valid, sign, whole, head, fraction, scale, unscaled⟩ :=
    display?_literal d
  have rendered : d.render = text := by
    rw [render, shown]
    rfl
  refine ⟨⟨text, shown, rendered, l, chars, valid, sign, whole, head, fraction, scale, unscaled⟩,
    ?_, fun _ _ => ofLiteral_eq_ok_iff⟩
  have readable : l.scale < 2 ^ 32 := by
    rw [scale]
    exact short
  rw [rendered]
  exact ofLiteral_eq_ok_iff.mpr
    ⟨l, chars, valid, readable, unscaled ▸ d.fits, unscaled.symm, scale.symm⟩

/-- The least 256-bit word, at scale three, is written and read back. -/
theorem least_word_literal_round_trip :
    (⟨-(2 ^ 255), 3, by decide⟩ : FixedDecimal .d256).scale < 2 ^ 32 ∧
      ofLiteral .d256 (⟨-(2 ^ 255), 3, by decide⟩ : FixedDecimal .d256).render =
        .ok ⟨-(2 ^ 255), 3, by decide⟩ :=
  ⟨by decide, (literal_round_trip _ (by decide)).2.1⟩

end FixedDecimal

end NativeBlock
