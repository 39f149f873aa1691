import Mathlib
import NativeBlock.Codec.Basic
import NativeBlock.Schema.Parse

/-!
# Reading back a written type

Every column header is written with `ColumnType.render`, and reading a column checks the type
back with `ColumnType.parse`. Every type that reading can give (`Readable`: a positive 64-bit
`FixedString` size, a `DateTime64` scale of at most 9 with a zone name that reads as one
argument between apostrophes, a decimal precision with a storage width and a scale within it,
and wrappers around such types) reads back from its canonical text
(`parse_render_of_readable`). The types of codecs are such types, and so are a `Nullable` of
one and `LowCardinality(String)` (`parse_render_columnType`, `parse_render_nullable`,
`parse_render_dictionary`).

The parser trims the text, cuts it at its first `(` into a head and its arguments, and splits
the arguments at the commas that stand outside quotes and parentheses. How the splitter passes
over each piece a written type is made of (plain characters, a numeral, a quoted zone name, a
parenthesised group) is stated once, as `Transparent` and `Nested`; `Passes` says which depth
and quote state the splitter goes through over a text it takes whole.
-/

namespace NativeBlock.ColumnType

open Text

/-! ## Characters and numerals -/

/-- A character that the argument splitter treats as text, in or out of quotes. -/
def PlainChar (c : Char) : Prop := c ≠ '\'' ∧ c ≠ '(' ∧ c ≠ ')' ∧ c ≠ ','

instance : DecidablePred PlainChar := fun _ => inferInstanceAs (Decidable (_ ∧ _))

/-- Whether every character of a text is plain, as a check that runs on fixed texts. -/
def allPlain (cs : List Char) : Bool := cs.all fun c => decide (PlainChar c)

theorem plain_of_allPlain {cs : List Char} (check : allPlain cs = true) :
    ∀ c ∈ cs, PlainChar c := by
  simpa [allPlain] using check

theorem toNat_of_isDigit {c : Char} (digit : c.isDigit = true) : 48 ≤ c.toNat ∧ c.toNat ≤ 57 := by
  simpa [Char.isDigit, UInt32.le_iff_toNat_le] using digit

theorem isBlank_of_isDigit {c : Char} (digit : c.isDigit = true) : isBlank c = false := by
  have := toNat_of_isDigit digit
  simp only [isBlank]
  simp
  omega

theorem plainChar_of_isDigit {c : Char} (digit : c.isDigit = true) : PlainChar c := by
  have := toNat_of_isDigit digit
  refine ⟨?_, ?_, ?_, ?_⟩ <;>
  · intro same
    subst same
    simp at this

theorem toList_toString (n : Nat) : (toString n).toList = Nat.toDigits 10 n := by
  rw [Nat.toString_eq_repr, Nat.toList_repr]

theorem isDigit_of_mem_toString {n : Nat} {c : Char} (mem : c ∈ (toString n).toList) :
    c.isDigit = true := by
  rw [toList_toString] at mem
  exact Nat.isDigit_of_mem_toDigits (by decide) (by decide) mem

theorem toString_ne_nil (n : Nat) : (toString n).toList ≠ [] := by
  rw [toList_toString]
  exact Nat.toDigits_ne_nil

theorem digitsValue?_toString (n : Nat) : digitsValue? (toString n).toList = some n := by
  have nonempty : (toString n).toList.isEmpty = false := by
    simp
  have digits : (toString n).toList.all Char.isDigit = true :=
    List.all_eq_true.mpr fun c mem => isDigit_of_mem_toString mem
  have value := Nat.ofDigitChars_ten_toDigits (n := n)
  rw [Nat.ofDigitChars_eq_foldl, ← toList_toString] at value
  simp only [digitsValue?, nonempty, digits, Bool.not_true, Bool.or_false, Bool.false_eq_true,
    if_false]
  simpa [Nat.mul_comm] using value

/-- A numeral written by `toString` reads back, within any bound it respects. -/
theorem parseUnsigned?_toString {max n : Nat} (le : n ≤ max) :
    parseUnsigned? max (toString n) = some n := by
  unfold parseUnsigned?
  cases first : (toString n).toList with
  | nil => exact absurd first (toString_ne_nil n)
  | cons c cs =>
    -- A numeral starts with a digit, never with a sign.
    have notPlus : c ≠ '+' := by
      have := toNat_of_isDigit (isDigit_of_mem_toString (first ▸ List.mem_cons_self))
      intro same
      subst same
      simp at this
    have value := digitsValue?_toString n
    rw [first] at value
    simp [notPlus, value, le]

theorem trim_eq_self {cs : List Char} (first : ∀ c ∈ cs.head?, isBlank c = false)
    (last : ∀ c ∈ cs.getLast?, isBlank c = false) : trim cs = cs := by
  unfold trim
  cases cs with
  | nil => rfl
  | cons c cs =>
    rw [List.dropWhile_cons_of_neg (by simpa using first c rfl)]
    obtain ⟨init, d, shape⟩ :=
      List.eq_nil_or_concat (c :: cs) |>.resolve_left (List.cons_ne_nil c cs)
    rw [List.concat_eq_append] at shape
    rw [shape] at last ⊢
    rw [List.reverse_append, List.reverse_singleton, List.singleton_append,
      List.dropWhile_cons_of_neg (by simpa using last d (by simp)), List.reverse_cons,
      List.reverse_reverse]

theorem trim_toString (n : Nat) : trim (toString n).toList = (toString n).toList := by
  apply trim_eq_self
  · intro c first
    exact isBlank_of_isDigit (isDigit_of_mem_toString (List.mem_of_mem_head? first))
  · intro c last
    exact isBlank_of_isDigit (isDigit_of_mem_toString (List.mem_of_getLast? last))

theorem trim_blank_cons {c : Char} (blank : isBlank c = true) (cs : List Char) :
    trim (c :: cs) = trim cs := by
  simp [trim, blank]

/-! ## Splitting arguments -/

/-- Text that the argument splitter passes over whole from any depth outside quotes: it keeps
the text in the current argument and ends at the depth and quote state it began with. -/
def Transparent (cs : List Char) : Prop :=
  ∀ rest depth cur done, splitArgs.go (cs ++ rest) depth false cur done =
    splitArgs.go rest depth false (cs.reverse ++ cur) done

/-- Text that the splitter passes over whole inside parentheses, where commas do not split. -/
def Nested (cs : List Char) : Prop :=
  ∀ rest depth cur done, splitArgs.go (cs ++ rest) (depth + 1) false cur done =
    splitArgs.go rest (depth + 1) false (cs.reverse ++ cur) done

theorem go_plain {cs : List Char} (plain : ∀ c ∈ cs, PlainChar c) (rest : List Char)
    (depth : Nat) (quoted : Bool) (cur : List Char) (done : List (List Char)) :
    splitArgs.go (cs ++ rest) depth quoted cur done =
      splitArgs.go rest depth quoted (cs.reverse ++ cur) done := by
  induction cs generalizing cur with
  | nil => rfl
  | cons c cs ih =>
    obtain ⟨noQuote, noOpen, noClose, noComma⟩ := plain c List.mem_cons_self
    rw [List.cons_append, splitArgs.go]
    simp only [noQuote, noOpen, noClose, noComma, false_and, if_false]
    rw [ih (fun d mem => plain d (List.mem_cons_of_mem c mem))]
    simp

theorem transparent_plain {cs : List Char} (plain : ∀ c ∈ cs, PlainChar c) : Transparent cs :=
  fun rest depth cur done => go_plain plain rest depth false cur done

theorem transparent_toString (n : Nat) : Transparent (toString n).toList :=
  transparent_plain fun _ mem => plainChar_of_isDigit (isDigit_of_mem_toString mem)

theorem Transparent.append {a b : List Char} (first : Transparent a) (second : Transparent b) :
    Transparent (a ++ b) := by
  intro rest depth cur done
  rw [List.append_assoc, first, second, List.reverse_append, List.append_assoc]

theorem Nested.append {a b : List Char} (first : Nested a) (second : Nested b) :
    Nested (a ++ b) := by
  intro rest depth cur done
  rw [List.append_assoc, first, second, List.reverse_append, List.append_assoc]

theorem Transparent.nested {cs : List Char} (pass : Transparent cs) : Nested cs :=
  fun rest depth cur done => pass rest (depth + 1) cur done

theorem nested_comma : Nested [','] := by
  intro rest depth cur done
  simp [splitArgs.go]

/-- A parenthesised group passes whole when its inside passes inside parentheses. -/
theorem transparent_group {cs : List Char} (inside : Nested cs) :
    Transparent ('(' :: (cs ++ [')'])) := by
  intro rest depth cur done
  rw [List.cons_append, splitArgs.go]
  simp only [Char.reduceEq, if_false, Bool.not_false, and_self, if_true]
  rw [List.append_assoc, inside, List.singleton_append, splitArgs.go]
  simp

theorem splitArgs_one {cs : List Char} (pass : Transparent cs) (trimmed : trim cs = cs)
    (nonempty : cs ≠ []) : splitArgs cs = .ok [cs] := by
  have scan := pass [] 0 [] []
  rw [List.append_nil, List.append_nil] at scan
  simp [splitArgs, scan, splitArgs.go, trimmed, nonempty]

/-- Two arguments written as `a, b`. -/
theorem splitArgs_two {a b : List Char} (first : Transparent a) (second : Transparent b)
    (trimmedA : trim a = a) (trimmedB : trim b = b) (nonemptyA : a ≠ []) (nonemptyB : b ≠ []) :
    splitArgs (a ++ ',' :: ' ' :: b) = .ok [a, b] := by
  have scanB := second [] 0 [' '] [a]
  rw [List.append_nil] at scanB
  have blank : trim (' ' :: b) = b := by
    rw [trim_blank_cons (by decide), trimmedB]
  unfold splitArgs
  rw [first, splitArgs.go]
  -- The comma stands at depth zero outside quotes: it ends the first argument.
  simp only [Char.reduceEq, Bool.not_false, and_true, and_self, if_true, if_false,
    List.append_nil, List.reverse_reverse, trimmedA]
  rw [← List.singleton_append, go_plain (plain_of_allPlain (by decide)) b 0 false]
  simp only [List.reverse_singleton, List.append_nil]
  rw [scanB]
  simp [splitArgs.go, blank, nonemptyA, nonemptyB]

/-! ## What the splitter takes whole -/

/-- `Passes cs d q d' q'`: the argument splitter, at nesting depth `d` and quote state `q`, takes
all of `cs` into the current argument (no comma ends it, no `)` closes more than was opened) and
stops at depth `d'` and quote state `q'`. Quoted text takes any character but the apostrophe;
outside quotes, a comma passes only inside parentheses. -/
inductive Passes : List Char → Nat → Bool → Nat → Bool → Prop where
  | nil (d : Nat) (q : Bool) : Passes [] d q d q
  | quote {cs : List Char} {d d' : Nat} {q q' : Bool} :
      Passes cs d (!q) d' q' → Passes ('\'' :: cs) d q d' q'
  | quoted {c : Char} {cs : List Char} {d d' : Nat} {q' : Bool} :
      c ≠ '\'' → Passes cs d true d' q' → Passes (c :: cs) d true d' q'
  | plain {c : Char} {cs : List Char} {d d' : Nat} {q' : Bool} :
      PlainChar c → Passes cs d false d' q' → Passes (c :: cs) d false d' q'
  | opening {cs : List Char} {d d' : Nat} {q' : Bool} :
      Passes cs (d + 1) false d' q' → Passes ('(' :: cs) d false d' q'
  | closing {cs : List Char} {d d' : Nat} {q' : Bool} :
      Passes cs d false d' q' → Passes (')' :: cs) (d + 1) false d' q'
  | comma {cs : List Char} {d d' : Nat} {q' : Bool} :
      Passes cs (d + 1) false d' q' → Passes (',' :: cs) (d + 1) false d' q'

namespace Passes

variable {cs : List Char} {d d' : Nat} {q q' : Bool}

/-- The splitter runs over a text it takes whole in one go, keeping the text in the current
argument. -/
theorem go (pass : Passes cs d q d' q') (rest cur : List Char) (done : List (List Char)) :
    splitArgs.go (cs ++ rest) d q cur done = splitArgs.go rest d' q' (cs.reverse ++ cur) done := by
  induction pass generalizing cur with
  | nil => rfl
  | quote _ ih =>
    rw [List.cons_append, splitArgs.go, if_pos rfl, ih]
    simp
  | quoted notQuote _ ih =>
    rw [List.cons_append, splitArgs.go]
    simp only [notQuote, if_false, Bool.not_true, Bool.false_eq_true, and_false]
    rw [ih]
    simp
  | plain plain _ ih =>
    obtain ⟨noQuote, noOpen, noClose, noComma⟩ := plain
    rw [List.cons_append, splitArgs.go]
    simp only [noQuote, noOpen, noClose, noComma, false_and, if_false]
    rw [ih]
    simp
  | opening _ ih =>
    rw [List.cons_append, splitArgs.go]
    simp only [Char.reduceEq, if_false, Bool.not_false, and_self, if_true]
    rw [ih]
    simp
  | closing _ ih =>
    rw [List.cons_append, splitArgs.go]
    simp only [Char.reduceEq, if_false, Bool.not_false, and_self, if_true, Nat.add_one_ne_zero,
      Nat.add_sub_cancel]
    rw [ih]
    simp
  | comma _ ih =>
    rw [List.cons_append, splitArgs.go]
    simp only [Char.reduceEq, if_false, Bool.not_false, false_and, Nat.add_one_ne_zero, and_false]
    rw [ih]
    simp

/-- Only the depth at which a text starts changes the depths it reaches: the splitter decides by
whether the depth is zero, and a text that never closes below its start never asks. -/
theorem shift (pass : Passes cs d q d' q') (k : Nat) : Passes cs (d + k) q (d' + k) q' := by
  induction pass with
  | nil => exact .nil _ _
  | quote _ ih => exact .quote ih
  | quoted notQuote _ ih => exact .quoted notQuote ih
  | plain plain _ ih => exact .plain plain ih
  | opening _ ih => exact .opening (by rwa [Nat.add_right_comm] at ih)
  | closing _ ih =>
    rw [Nat.add_right_comm]
    exact .closing ih
  | comma _ ih =>
    rw [Nat.add_right_comm]
    exact .comma (by rwa [Nat.add_right_comm] at ih)

theorem append {rest : List Char} {d'' : Nat} {q'' : Bool} (first : Passes cs d q d' q')
    (second : Passes rest d' q' d'' q'') : Passes (cs ++ rest) d q d'' q'' := by
  induction first with
  | nil => exact second
  | quote _ ih => exact .quote (ih second)
  | quoted notQuote _ ih => exact .quoted notQuote (ih second)
  | plain plain _ ih => exact .plain plain (ih second)
  | opening _ ih => exact .opening (ih second)
  | closing _ ih => exact .closing (ih second)
  | comma _ ih => exact .comma (ih second)

/-- Text without apostrophes stays inside a quote. -/
theorem inQuote (noQuote : '\'' ∉ cs) (d : Nat) : Passes cs d true d true := by
  induction cs with
  | nil => exact .nil d true
  | cons c cs ih =>
    exact .quoted (fun same => noQuote (same ▸ List.mem_cons_self))
      (ih fun mem => noQuote (List.mem_cons_of_mem c mem))

/-- A text that goes from depth zero outside quotes back there passes from any depth. -/
theorem transparent (pass : Passes cs 0 false 0 false) : Transparent cs := by
  intro rest depth cur done
  simpa using (pass.shift depth).go rest cur done

end Passes

/-- A zone name that stays at depth zero inside its quotes passes whole, quotes included. -/
theorem transparent_quoted {name : List Char} (inside : Passes name 0 true 0 true) :
    Transparent ('\'' :: (name ++ ['\''])) :=
  Passes.transparent (.quote (inside.append (.quote (.nil 0 false))))

/-! ## Types written as calls -/

/-- How the parser cuts a call `head(inner)`: the text is already trimmed, its first `(` ends
the head, it closes with `)`, and the arguments are what stands between. -/
theorem call_cut (head inner : List Char) (noOpen : '(' ∉ head)
    (first : head.head?.any isBlank = false) :
    trim (head ++ '(' :: (inner ++ [')'])) = head ++ '(' :: (inner ++ [')']) ∧
    (head ++ '(' :: (inner ++ [')'])).idxOf? '(' = some head.length ∧
    (head ++ '(' :: (inner ++ [')'])).getLast? = some ')' ∧
    (head ++ '(' :: (inner ++ [')'])).take head.length = head ∧
    ((head ++ '(' :: (inner ++ [')'])).drop (head.length + 1)).dropLast = inner := by
  have closed : head ++ '(' :: (inner ++ [')']) = (head ++ '(' :: inner) ++ [')'] := by simp
  have last : (head ++ '(' :: (inner ++ [')'])).getLast? = some ')' := by
    rw [closed, List.getLast?_concat]
  have headless : head.findIdx? (· == '(') = none := by
    rw [List.findIdx?_eq_none_iff]
    intro c mem
    rw [beq_eq_false_iff_ne]
    rintro rfl
    exact noOpen mem
  refine ⟨trim_eq_self ?_ ?_, ?_, last, by simp, ?_⟩
  · cases head with
    | nil => simp [isBlank]
    | cons c cs =>
      intro x mem
      cases mem
      exact first
  · rw [last]
    simp [isBlank]
  · simp [List.idxOf?, List.findIdx?_append, headless, List.findIdx?_cons]
  · rw [closed]
    simp

/-! The texts of the types with arguments, as the parser cuts them. Each is read off its
clause of `render` directly, which spares the equations of the whole definition. -/

theorem toList_render_fixedString (n : Nat) :
    (render (.fixedString n)).toList =
      "FixedString".toList ++ '(' :: ((toString n).toList ++ [')']) := by
  show (s!"FixedString({n})").toList = _
  simp only [toString, String.toList_append, String.reduceToList, List.cons_append,
    List.nil_append]

theorem toList_render_dateTime64 (scale : Nat) :
    (render (.dateTime64 scale none)).toList =
      "DateTime64".toList ++ '(' :: ((toString scale).toList ++ [')']) := by
  show (s!"DateTime64({scale})").toList = _
  simp only [toString, String.toList_append, String.reduceToList, List.cons_append,
    List.nil_append]

theorem toList_render_dateTime64_zone (scale : Nat) (name : String) :
    (render (.dateTime64 scale (some name))).toList =
      "DateTime64".toList ++ '(' :: (((toString scale).toList ++ ',' :: ' ' ::
        ('\'' :: (name.toList ++ ['\'']))) ++ [')']) := by
  show (s!"DateTime64({scale}, '" ++ name ++ "')").toList = _
  simp only [toString, String.toList_append, String.reduceToList, List.cons_append,
    List.nil_append, List.append_assoc]

theorem toList_render_decimal (precision scale : Nat) :
    (render (.decimal precision scale)).toList =
      "Decimal".toList ++ '(' :: (((toString precision).toList ++ ',' :: ' ' ::
        (toString scale).toList) ++ [')']) := by
  show (s!"Decimal({precision}, {scale})").toList = _
  simp only [toString, String.toList_append, String.reduceToList, List.cons_append,
    List.nil_append, List.append_assoc]

theorem toList_render_nullable (t : ColumnType) :
    (render (.nullable t)).toList = "Nullable".toList ++ '(' :: ((render t).toList ++ [')']) := by
  show ("Nullable(" ++ t.render ++ ")").toList = _
  simp only [String.toList_append, String.reduceToList, List.cons_append, List.nil_append]

theorem toList_render_lowCardinality (t : ColumnType) :
    (render (.lowCardinality t)).toList =
      "LowCardinality".toList ++ '(' :: ((render t).toList ++ [')']) := by
  show ("LowCardinality(" ++ t.render ++ ")").toList = _
  simp only [String.toList_append, String.reduceToList, List.cons_append, List.nil_append]

theorem length_render_nullable (t : ColumnType) :
    (render (.nullable t)).length = (render t).length + 10 := by
  rw [← String.length_toList, ← String.length_toList, toList_render_nullable]
  simp

theorem length_render_lowCardinality (t : ColumnType) :
    (render (.lowCardinality t)).length = (render t).length + 16 := by
  rw [← String.length_toList, ← String.length_toList, toList_render_lowCardinality]
  simp

/-! ## The types that reading gives -/

/-- The types a type string can read as: a positive `FixedString` size of at most 64 bits, a
`DateTime64` scale of at most 9 with a nonempty zone name that the splitter, inside its quotes,
takes whole, a decimal precision that has a storage width with a scale of at most it, and
wrappers around such types, where `Nullable` wraps no wrapper. -/
def Readable : ColumnType → Prop
  | .fixedString n => 0 < n ∧ n ≤ maxU64
  | .dateTime64 scale zone =>
    scale ≤ 9 ∧ ∀ name ∈ zone, name ≠ "" ∧ Passes name.toList 0 true 0 true
  | .decimal precision scale =>
    (∃ w, DecimalWidth.ofPrecision precision = .ok w) ∧ scale ≤ precision
  | .nullable t => t.isWrapper = false ∧ Readable t
  | .lowCardinality t => Readable t
  | _ => True

theorem parseWithin_fixedString {fuel n : Nat} (pos : 0 < n) (fits : n < 2 ^ 64) :
    parseWithin (fuel + 1) (render (.fixedString n)).toList = .ok (.fixedString n) := by
  obtain ⟨trimmed, opening, closing, head, args⟩ :=
    call_cut "FixedString".toList (toString n).toList (by decide) (by decide)
  have split := splitArgs_one (transparent_toString n) (trim_toString n) (toString_ne_nil n)
  have numeral : parseUnsigned? maxU64 (toString n) = some n :=
    parseUnsigned?_toString (by unfold maxU64; omega)
  rw [toList_render_fixedString, parseWithin]
  simp only [trimmed, opening, closing, head, args, split,
    (by decide : trim "FixedString".toList = "FixedString".toList)]
  simp only [ne_eq, not_true_eq_false, ↓reduceIte, bind, Except.bind, expectArgs,
    List.length_singleton, numberArg, List.headD_cons, String.ofList_toList, numeral,
    Nat.pos_iff_ne_zero.mp pos]
  rfl


/-- A zone name that can stand quoted reads back from its quotes. -/
theorem quotedArg_quoted {name : String} (nonempty : name ≠ "") :
    quotedArg ('\'' :: (name.toList ++ ['\''])) = .ok name := by
  simp [quotedArg, nonempty]

theorem trim_quoted (name : List Char) :
    trim ('\'' :: (name ++ ['\''])) = '\'' :: (name ++ ['\'']) := by
  apply trim_eq_self
  · simp [isBlank]
  · have closed : '\'' :: (name ++ ['\'']) = ('\'' :: name) ++ ['\''] := by simp
    rw [closed, List.getLast?_concat]
    simp [isBlank]

theorem parseWithin_dateTime64 {fuel scale : Nat} {zone : Option String} (le : scale ≤ 9)
    (quotable : ∀ name ∈ zone, name ≠ "" ∧ Passes name.toList 0 true 0 true) :
    parseWithin (fuel + 1) (render (.dateTime64 scale zone)).toList =
      .ok (.dateTime64 scale zone) := by
  have numeral : parseUnsigned? maxU8 (toString scale) = some scale :=
    parseUnsigned?_toString (by unfold maxU8; omega)
  cases zone with
  | none =>
    obtain ⟨trimmed, opening, closing, head, args⟩ :=
      call_cut "DateTime64".toList (toString scale).toList (by decide) (by decide)
    have split := splitArgs_one (transparent_toString scale) (trim_toString scale)
      (toString_ne_nil scale)
    rw [toList_render_dateTime64, parseWithin]
    simp only [trimmed, opening, closing, head, args, split,
      (by decide : trim "DateTime64".toList = "DateTime64".toList)]
    simp only [ne_eq, not_true_eq_false, ↓reduceIte, bind, Except.bind, pure, Except.pure,
      numberArg, String.ofList_toList, numeral, Nat.not_lt_of_le le]
  | some name =>
    obtain ⟨nonempty, inside⟩ := quotable name rfl
    obtain ⟨trimmed, opening, closing, head, args⟩ :=
      call_cut "DateTime64".toList
        ((toString scale).toList ++ ',' :: ' ' :: ('\'' :: (name.toList ++ ['\'']))) (by decide)
        (by decide)
    have split := splitArgs_two (transparent_toString scale) (transparent_quoted inside)
      (trim_toString scale) (trim_quoted name.toList) (toString_ne_nil scale) (by simp)
    rw [toList_render_dateTime64_zone, parseWithin]
    simp only [trimmed, opening, closing, head, args, split,
      (by decide : trim "DateTime64".toList = "DateTime64".toList)]
    simp only [ne_eq, not_true_eq_false, ↓reduceIte, bind, Except.bind, pure, Except.pure,
      quotedArg_quoted nonempty, numberArg, String.ofList_toList, numeral, Nat.not_lt_of_le le]


theorem le_of_ofPrecision {precision : Nat} {w : DecimalWidth}
    (width : DecimalWidth.ofPrecision precision = .ok w) : precision ≤ 76 := by
  unfold DecimalWidth.ofPrecision at width
  by_cases small : precision ≤ 76
  · exact small
  · rw [if_neg (by omega), if_neg (by omega), if_neg (by omega), if_neg (by omega),
      if_neg small] at width
    cases width

theorem parseWithin_decimal {fuel precision scale : Nat} {w : DecimalWidth}
    (width : DecimalWidth.ofPrecision precision = .ok w) (le : scale ≤ precision) :
    parseWithin (fuel + 1) (render (.decimal precision scale)).toList =
      .ok (.decimal precision scale) := by
  have bounded := le_of_ofPrecision width
  have precisionNumeral : parseUnsigned? maxU8 (toString precision) = some precision :=
    parseUnsigned?_toString (by unfold maxU8; omega)
  have scaleNumeral : parseUnsigned? maxU8 (toString scale) = some scale :=
    parseUnsigned?_toString (by unfold maxU8; omega)
  obtain ⟨trimmed, opening, closing, head, args⟩ :=
    call_cut "Decimal".toList ((toString precision).toList ++ ',' :: ' ' :: (toString scale).toList)
      (by decide) (by decide)
  have split := splitArgs_two (transparent_toString precision) (transparent_toString scale)
    (trim_toString precision) (trim_toString scale) (toString_ne_nil precision)
    (toString_ne_nil scale)
  rw [toList_render_decimal, parseWithin]
  simp only [trimmed, opening, closing, head, args, split,
    (by decide : trim "Decimal".toList = "Decimal".toList)]
  simp only [ne_eq, not_true_eq_false, ↓reduceIte, bind, Except.bind, pure, Except.pure,
    expectArgs, List.length_cons, List.length_nil, numberArg, List.headD_cons, List.getD_cons_succ,
    List.getD_cons_zero, String.ofList_toList, precisionNumeral, scaleNumeral, decimalOf, width,
    Nat.not_lt_of_le le]



/-- Two arguments `a, b` pass whole inside parentheses. -/
theorem nested_args {a b : List Char} (first : Transparent a) (second : Transparent b) :
    Nested (a ++ ',' :: ' ' :: b) := by
  have blank : Transparent [' '] := transparent_plain (plain_of_allPlain (by decide))
  simpa using first.nested.append (nested_comma.append (blank.nested.append second.nested))

/-! ## Every readable type reads back -/

/-- A canonical text has no blanks at its ends. -/
theorem trim_render (t : ColumnType) : trim (render t).toList = (render t).toList := by
  cases t with
  | fixedString n =>
    rw [toList_render_fixedString]
    exact (call_cut _ _ (by decide) (by decide)).1
  | dateTime64 scale zone =>
    cases zone with
    | none =>
      rw [toList_render_dateTime64]
      exact (call_cut _ _ (by decide) (by decide)).1
    | some name =>
      rw [toList_render_dateTime64_zone]
      exact (call_cut _ _ (by decide) (by decide)).1
  | decimal precision scale =>
    rw [toList_render_decimal]
    exact (call_cut _ _ (by decide) (by decide)).1
  | nullable t =>
    rw [toList_render_nullable]
    exact (call_cut _ _ (by decide) (by decide)).1
  | lowCardinality t =>
    rw [toList_render_lowCardinality]
    exact (call_cut _ _ (by decide) (by decide)).1
  | _ => decide

theorem render_ne_nil (t : ColumnType) : (render t).toList ≠ [] := by
  cases t with
  | fixedString n => simp [toList_render_fixedString]
  | dateTime64 scale zone =>
    cases zone with
    | none => simp [toList_render_dateTime64]
    | some name => simp [toList_render_dateTime64_zone]
  | decimal precision scale => simp [toList_render_decimal]
  | nullable t => simp [toList_render_nullable]
  | lowCardinality t => simp [toList_render_lowCardinality]
  | _ => decide

/-- The canonical text of a readable type passes the splitter whole, so it stands as one
argument of a wrapper. -/
theorem transparent_render {t : ColumnType} (readable : Readable t) :
    Transparent (render t).toList := by
  have head : ∀ name : String, allPlain name.toList = true → Transparent name.toList :=
    fun _ check => transparent_plain (plain_of_allPlain check)
  induction t with
  | fixedString n =>
    rw [toList_render_fixedString]
    exact (head "FixedString" (by decide)).append
      (transparent_group (transparent_toString n).nested)
  | dateTime64 scale zone =>
    cases zone with
    | none =>
      rw [toList_render_dateTime64]
      exact (head "DateTime64" (by decide)).append
        (transparent_group (transparent_toString scale).nested)
    | some name =>
      rw [toList_render_dateTime64_zone]
      exact (head "DateTime64" (by decide)).append (transparent_group
        (nested_args (transparent_toString scale) (transparent_quoted (readable.2 name rfl).2)))
  | decimal precision scale =>
    rw [toList_render_decimal]
    exact (head "Decimal" (by decide)).append (transparent_group
      (nested_args (transparent_toString precision) (transparent_toString scale)))
  | nullable t ih =>
    rw [toList_render_nullable]
    exact (head "Nullable" (by decide)).append (transparent_group (ih readable.2).nested)
  | lowCardinality t ih =>
    rw [toList_render_lowCardinality]
    exact (head "LowCardinality" (by decide)).append (transparent_group (ih readable).nested)
  | _ => exact transparent_plain (plain_of_allPlain (by decide))

/-- `Nullable(T)` reads back when `T` is no wrapper, reads back and stands as one argument. -/
theorem parseWithin_nullable {fuel : Nat} {t : ColumnType} (plainType : t.isWrapper = false)
    (pass : Transparent (render t).toList) (inner : parseWithin fuel (render t).toList = .ok t) :
    parseWithin (fuel + 1) (render (.nullable t)).toList = .ok (.nullable t) := by
  obtain ⟨trimmed, opening, closing, head, args⟩ :=
    call_cut "Nullable".toList (render t).toList (by decide) (by decide)
  have split := splitArgs_one pass (trim_render t) (render_ne_nil t)
  rw [toList_render_nullable, parseWithin]
  simp only [trimmed, opening, closing, head, args, split,
    (by decide : trim "Nullable".toList = "Nullable".toList)]
  simp only [ne_eq, not_true_eq_false, ↓reduceIte, bind, Except.bind, pure, Except.pure,
    String.ofList_toList, expectArgs, List.length_singleton, List.headD_cons, inner, plainType,
    Bool.false_eq_true]

/-- `LowCardinality(T)` reads back when `T` reads back and stands as one argument. -/
theorem parseWithin_lowCardinality {fuel : Nat} {t : ColumnType}
    (pass : Transparent (render t).toList) (inner : parseWithin fuel (render t).toList = .ok t) :
    parseWithin (fuel + 1) (render (.lowCardinality t)).toList = .ok (.lowCardinality t) := by
  obtain ⟨trimmed, opening, closing, head, args⟩ :=
    call_cut "LowCardinality".toList (render t).toList (by decide) (by decide)
  have split := splitArgs_one pass (trim_render t) (render_ne_nil t)
  rw [toList_render_lowCardinality, parseWithin]
  simp only [trimmed, opening, closing, head, args, split,
    (by decide : trim "LowCardinality".toList = "LowCardinality".toList)]
  simp only [ne_eq, not_true_eq_false, ↓reduceIte, bind, Except.bind, pure, Except.pure,
    String.ofList_toList, expectArgs, List.length_singleton, List.headD_cons, inner]

/-- A readable type reads back from its canonical text with any budget longer than the text:
each level of nesting spends one unit of the budget and more than one character. -/
theorem parseWithin_render {t : ColumnType} (readable : Readable t) :
    ∀ {fuel : Nat}, (render t).length < fuel → parseWithin fuel (render t).toList = .ok t := by
  induction t with
  | fixedString n =>
    rintro (_ | fuel) enough
    · cases enough
    · have bounded := readable.2
      unfold maxU64 at bounded
      exact parseWithin_fixedString readable.1 (by omega)
  | dateTime64 scale zone =>
    rintro (_ | fuel) enough
    · cases enough
    · exact parseWithin_dateTime64 readable.1 readable.2
  | decimal precision scale =>
    rintro (_ | fuel) enough
    · cases enough
    · obtain ⟨⟨w, width⟩, le⟩ := readable
      exact parseWithin_decimal width le
  | nullable t ih =>
    rintro (_ | _ | fuel) enough <;> rw [length_render_nullable] at enough
    · omega
    · omega
    · exact parseWithin_nullable readable.1 (transparent_render readable.2)
        (ih readable.2 (by omega))
  | lowCardinality t ih =>
    rintro (_ | _ | fuel) enough <;> rw [length_render_lowCardinality] at enough
    · omega
    · omega
    · exact parseWithin_lowCardinality (transparent_render readable) (ih readable (by omega))
  | _ =>
    rintro (_ | fuel) enough
    · cases enough
    · rfl

/-- Every readable type reads back from its canonical text. -/
theorem parse_render_of_readable {t : ColumnType} (readable : Readable t) :
    parse (render t) = .ok t :=
  parseWithin_render readable (Nat.lt_succ_self _)

/-! ## The types of codecs and their wrappers -/

/-- The type of every codec is one that reading gives. -/
theorem readable_columnType (c : Codec) : Readable c.columnType := by
  cases c with
  | unsigned w => cases w <;> trivial
  | signed w => cases w <;> trivial
  | fixedString n pos fits => exact ⟨pos, by unfold maxU64; omega⟩
  | dateTime64 scale zone le quotable =>
    refine ⟨le, ?_⟩
    intro name mem
    cases zone with
    | none => cases mem
    | some z =>
      cases mem
      obtain ⟨nonempty, noQuote⟩ := quotable z rfl
      exact ⟨nonempty, Passes.inQuote noQuote 0⟩
  | decimal storage precision scale width le => exact ⟨⟨storage, width⟩, le⟩
  | _ => trivial

theorem isWrapper_columnType (c : Codec) : c.columnType.isWrapper = false := by
  cases c with
  | unsigned w => cases w <;> rfl
  | signed w => cases w <;> rfl
  | _ => rfl

/-- The type a codec writes into a column header reads back as that type. -/
theorem parse_render_columnType (c : Codec) : parse (render c.columnType) = .ok c.columnType :=
  parse_render_of_readable (readable_columnType c)

/-- The type of a `Nullable` column of a codec reads back as that type. -/
theorem parse_render_nullable (c : Codec) :
    parse (render (.nullable c.columnType)) = .ok (.nullable c.columnType) :=
  parse_render_of_readable ⟨isWrapper_columnType c, readable_columnType c⟩

/-- The type of a dictionary-encoded text column reads back as that type. -/
theorem parse_render_dictionary :
    parse (render (.lowCardinality .string)) = .ok (.lowCardinality .string) := by
  rfl

end NativeBlock.ColumnType
