import NativeBlock.Proofs.TypeText
import NativeBlock.Proofs.Framing

/-!
# The canonical text of a type

Reading a type string gives only readable types (`readable_of_parse`), and every readable type
reads back from its canonical text (`parse_render_of_readable`), so the readable types are
exactly the types that reading gives (`parses_iff_readable`). Hence printing is a right inverse
of reading over the whole type language: whatever spelling a type was read from (shorthands,
blanks, a `+` sign, nested wrappers, a zone name holding quotes, commas or parentheses), its
canonical text reads back as the same type (`parse_render_of_parse`).

The argument that carries this is about the splitter: every argument it hands back is a text
that it takes whole from depth zero outside quotes (`passes_of_splitArgs`), and such a text
passes whole wherever it is written again.
-/

namespace NativeBlock.ColumnType

open Text

/-! ## What the splitter hands back -/

namespace Passes

variable {cs : List Char} {d d' : Nat} {q q' : Bool}

theorem of_append {rest : List Char} {d'' : Nat} {q'' : Bool}
    (pass : Passes (cs ++ rest) d q d'' q'') :
    ∃ d' q', Passes cs d q d' q' ∧ Passes rest d' q' d'' q'' := by
  induction cs generalizing d q with
  | nil => exact ⟨d, q, .nil d q, pass⟩
  | cons c cs ih =>
    cases pass with
    | quote tail =>
      obtain ⟨d', q', front, back⟩ := ih tail
      exact ⟨d', q', .quote front, back⟩
    | quoted notQuote tail =>
      obtain ⟨d', q', front, back⟩ := ih tail
      exact ⟨d', q', .quoted notQuote front, back⟩
    | plain plain tail =>
      obtain ⟨d', q', front, back⟩ := ih tail
      exact ⟨d', q', .plain plain front, back⟩
    | opening tail =>
      obtain ⟨d', q', front, back⟩ := ih tail
      exact ⟨d', q', .opening front, back⟩
    | closing tail =>
      obtain ⟨d', q', front, back⟩ := ih tail
      exact ⟨d', q', .closing front, back⟩
    | comma tail =>
      obtain ⟨d', q', front, back⟩ := ih tail
      exact ⟨d', q', .comma front, back⟩

theorem eq_of_plain (pass : Passes cs d q d' q') (plain : ∀ c ∈ cs, PlainChar c) :
    d' = d ∧ q' = q := by
  induction pass with
  | nil => exact ⟨rfl, rfl⟩
  | quote _ _ => exact absurd rfl (plain _ List.mem_cons_self).1
  | quoted _ _ ih => exact ih fun x mem => plain x (List.mem_cons_of_mem _ mem)
  | plain _ _ ih => exact ih fun x mem => plain x (List.mem_cons_of_mem _ mem)
  | opening _ _ => exact absurd rfl (plain _ List.mem_cons_self).2.1
  | closing _ _ => exact absurd rfl (plain _ List.mem_cons_self).2.2.1
  | comma _ _ => exact absurd rfl (plain _ List.mem_cons_self).2.2.2

/-- An apostrophe always toggles the quote. -/
theorem of_quote (pass : Passes ('\'' :: cs) d q d' q') : Passes cs d (!q) d' q' := by
  cases pass with
  | quote rest => exact rest
  | quoted notQuote _ => exact absurd rfl notQuote
  | plain plain _ => exact absurd rfl plain.1

end Passes

theorem plainChar_of_isBlank {c : Char} (blank : isBlank c = true) : PlainChar c := by
  refine ⟨?_, ?_, ?_, ?_⟩ <;>
  · rintro rfl
    revert blank
    decide

theorem plain_of_all_isBlank {cs : List Char} (blank : cs.all isBlank = true) :
    ∀ c ∈ cs, PlainChar c :=
  fun c mem => plainChar_of_isBlank (List.all_eq_true.mp blank c mem)

/-- Trimming keeps an argument: the blanks it drops pass without moving the splitter. -/
theorem Passes.trim {cs : List Char} (pass : Passes cs 0 false 0 false) :
    Passes (trim cs) 0 false 0 false := by
  -- Leading blanks: the splitter is still at depth zero, unquoted, after them.
  have front : Passes (cs.dropWhile isBlank) 0 false 0 false := by
    rw [← List.takeWhile_append_dropWhile (p := isBlank) (l := cs)] at pass
    obtain ⟨d, q, lead, body⟩ := Passes.of_append pass
    obtain ⟨rfl, rfl⟩ := lead.eq_of_plain (plain_of_all_isBlank List.all_takeWhile)
    exact body
  -- Trailing blanks: the splitter must already be back at depth zero, unquoted, before them.
  have split : cs.dropWhile isBlank = ((cs.dropWhile isBlank).reverse.dropWhile isBlank).reverse ++
      ((cs.dropWhile isBlank).reverse.takeWhile isBlank).reverse := by
    rw [← List.reverse_append, List.takeWhile_append_dropWhile, List.reverse_reverse]
  rw [split] at front
  obtain ⟨d, q, body, trail⟩ := Passes.of_append front
  have trailBlank : ∀ c ∈ ((cs.dropWhile isBlank).reverse.takeWhile isBlank).reverse, PlainChar c :=
    fun c mem => plain_of_all_isBlank List.all_takeWhile c (List.mem_reverse.mp mem)
  obtain ⟨rfl, rfl⟩ := trail.eq_of_plain trailBlank
  exact body

/-- One character that the splitter neither counts as a delimiter nor refuses. -/
theorem passes_other {c : Char} {d : Nat} {q : Bool} (noQuote : c ≠ '\'')
    (noOpen : ¬(c = '(' ∧ (!q) = true)) (noClose : ¬(c = ')' ∧ (!q) = true))
    (noComma : ¬(c = ',' ∧ (!q) = true ∧ d = 0)) : Passes [c] d q d q := by
  cases q with
  | true => exact .quoted noQuote (.nil d true)
  | false =>
    by_cases comma : c = ','
    · subst comma
      have nonzero : d ≠ 0 := fun zero => noComma ⟨rfl, rfl, zero⟩
      obtain ⟨d, rfl⟩ := Nat.exists_eq_add_one.mpr (Nat.pos_of_ne_zero nonzero)
      exact .comma (.nil _ false)
    · exact .plain ⟨noQuote, fun same => noOpen ⟨same, rfl⟩, fun same => noClose ⟨same, rfl⟩, comma⟩
        (.nil d false)

/-- Every argument the splitter hands back passes it whole from depth zero outside quotes. -/
theorem passes_of_go {cs : List Char} {d : Nat} {q : Bool} {cur : List Char}
    {done args : List (List Char)} (run : splitArgs.go cs d q cur done = .ok args)
    (current : Passes cur.reverse 0 false d q) (finished : ∀ a ∈ done, Passes a 0 false 0 false) :
    ∀ a ∈ args, Passes a 0 false 0 false := by
  induction cs generalizing d q cur done with
  | nil =>
    rw [splitArgs.go] at run
    split at run
    · cases run
    · rename_i balanced
      simp only [ne_eq, not_or, Decidable.not_not, Bool.not_eq_true] at balanced
      obtain ⟨rfl, rfl⟩ := balanced
      dsimp only at run
      split at run
      · cases run
      · cases run
        intro a mem
        rcases List.mem_cons.mp (List.mem_reverse.mp mem) with rfl | old
        · exact current.trim
        · exact finished a old
  | cons c rest ih =>
    rw [splitArgs.go] at run
    have step : ∀ {d' q'}, Passes [c] d q d' q' → Passes (c :: cur).reverse 0 false d' q' :=
      fun one => by
        rw [List.reverse_cons]
        exact current.append one
    split at run
    · rename_i isQuote
      subst isQuote
      exact ih run (step (.quote (.nil _ _))) finished
    · split at run
      · rename_i isOpen
        obtain ⟨rfl, unquoted⟩ := isOpen
        simp only [Bool.not_eq_eq_eq_not, Bool.not_true] at unquoted
        subst unquoted
        exact ih run (step (.opening (.nil _ _))) finished
      · split at run
        · rename_i isClose
          obtain ⟨rfl, unquoted⟩ := isClose
          simp only [Bool.not_eq_eq_eq_not, Bool.not_true] at unquoted
          subst unquoted
          split at run
          · cases run
          · rename_i nonzero
            obtain ⟨d, rfl⟩ := Nat.exists_eq_add_one.mpr (Nat.pos_of_ne_zero nonzero)
            exact ih run (step (.closing (.nil _ _))) finished
        · split at run
          · -- A top-level comma ends the current argument.
            rename_i isComma
            obtain ⟨rfl, unquoted, rfl⟩ := isComma
            simp only [Bool.not_eq_eq_eq_not, Bool.not_true] at unquoted
            subst unquoted
            refine ih run (.nil 0 false) ?_
            intro a mem
            rcases List.mem_cons.mp mem with rfl | old
            · exact current.trim
            · exact finished a old
          · rename_i noQuote noOpen noClose noComma
            exact ih run (step (passes_other noQuote noOpen noClose noComma)) finished

theorem passes_of_splitArgs {inner : List Char} {args : List (List Char)}
    (run : splitArgs inner = .ok args) : ∀ a ∈ args, Passes a 0 false 0 false :=
  passes_of_go run (.nil 0 false) (by simp)

/-! ## Reading gives readable types -/

theorem mem_of_lookup {l : List (String × ColumnType)} {s : String} {t : ColumnType}
    (found : l.lookup s = some t) : t ∈ l.map Prod.snd := by
  induction l with
  | nil => cases found
  | cons p l ih =>
    rw [List.lookup_cons] at found
    split at found
    · cases found
      exact List.mem_cons_self
    · exact List.mem_cons_of_mem _ (ih found)

theorem readable_of_plain {s : String} {t : ColumnType} (run : plain s = .ok t) : Readable t := by
  unfold plain at run
  split at run
  · cases run
  · split at run
    · rename_i t' found
      cases run
      have named := mem_of_lookup found
      simp only [plainNames, List.map_cons, List.map_nil, List.mem_cons, List.not_mem_nil,
        or_false] at named
      rcases named with rfl | rfl | rfl | rfl | rfl | rfl | rfl | rfl | rfl | rfl | rfl | rfl |
        rfl | rfl | rfl | rfl | rfl <;> trivial
    · cases run

theorem le_of_parseUnsigned? {max n : Nat} {s : String} (read : parseUnsigned? max s = some n) :
    n ≤ max := by
  unfold parseUnsigned? at read
  -- Whatever sign the numeral has, its digits' value is kept only within the bound.
  split at read <;> dsimp only at read <;> split at read
  all_goals simp only [Option.ite_none_right_eq_some, Option.some.injEq, reduceCtorEq] at read
  all_goals omega

theorem le_of_numberArg {head : String} {max n : Nat} {arg : List Char}
    (run : numberArg head max arg = .ok n) : n ≤ max := by
  unfold numberArg at run
  split at run
  · rename_i m read
    cases run
    exact le_of_parseUnsigned? read
  · cases run

theorem readable_of_decimalOf {precision scale : Nat} {t : ColumnType}
    (run : decimalOf precision scale = .ok t) : Readable t := by
  unfold decimalOf at run
  obtain ⟨w, width, rest⟩ := except_bind_eq_ok run
  split at rest
  · cases rest
  · rename_i fits
    cases rest
    exact ⟨⟨w, width⟩, Nat.le_of_not_lt fits⟩

theorem readable_of_shorthand {head : String} {w : DecimalWidth} {args : List (List Char)}
    {t : ColumnType} (run : parseWithin.shorthand head w args = .ok t) : Readable t := by
  unfold parseWithin.shorthand at run
  obtain ⟨_, _, rest⟩ := except_bind_eq_ok run
  obtain ⟨_, _, made⟩ := except_bind_eq_ok rest
  exact readable_of_decimalOf made

/-- A quoted argument that passes the splitter holds a name that passes it inside quotes. -/
theorem quotedArg_eq_ok {arg : List Char} {name : String} (run : quotedArg arg = .ok name)
    (pass : Passes arg 0 false 0 false) : name ≠ "" ∧ Passes name.toList 0 true 0 true := by
  unfold quotedArg at run
  split at run
  · rename_i rest
    split at run
    · rename_i closed
      cases run
      obtain ⟨last, long⟩ := closed
      obtain ⟨body, rfl⟩ := List.getLast?_eq_some_iff.mp last
      obtain ⟨d, q, inside, closing⟩ := Passes.of_append pass.of_quote
      -- The closing apostrophe ends the quote, so the body ends inside it at depth zero.
      obtain ⟨rfl, ended⟩ := Passes.eq_of_plain closing.of_quote (by simp)
      have quoted : q = true := by simpa using ended.symm
      subst quoted
      refine ⟨?_, by simpa using inside⟩
      intro empty
      have : body = [] := by simpa using congrArg String.toList empty
      simp [this] at long
    · cases run
  · cases run

theorem readable_of_parseWithin {fuel : Nat} {cs : List Char} {t : ColumnType}
    (run : parseWithin fuel cs = .ok t) : Readable t := by
  induction fuel generalizing cs t with
  | zero => cases run
  | succ fuel ih =>
    rw [parseWithin] at run
    split at run
    · exact readable_of_plain run
    · rename_i opening _
      split at run
      · cases run
      · obtain ⟨args, split, rest⟩ := except_bind_eq_ok run
        have pieces := passes_of_splitArgs split
        split at rest
        · -- `FixedString(N)`: a positive size of at most 64 bits.
          obtain ⟨_, -, rest⟩ := except_bind_eq_ok rest
          obtain ⟨n, size, rest⟩ := except_bind_eq_ok rest
          split at rest
          · cases rest
          · rename_i positive
            cases rest
            exact ⟨Nat.pos_of_ne_zero positive, le_of_numberArg size⟩
        · -- `DateTime64(S[, 'zone'])`: a scale of at most 9, a zone read from its quotes.
          dsimp only at rest
          split at rest
          · obtain ⟨_, picked, rest⟩ := except_bind_eq_ok rest
            cases picked
            obtain ⟨scale, -, rest⟩ := except_bind_eq_ok rest
            split at rest
            · cases rest
            · rename_i small
              cases rest
              exact ⟨Nat.le_of_not_lt small, by simp⟩
          · rename_i scaleArg zoneArg
            obtain ⟨name, quoted, rest⟩ := except_bind_eq_ok rest
            obtain ⟨_, picked, rest⟩ := except_bind_eq_ok rest
            cases picked
            obtain ⟨scale, -, rest⟩ := except_bind_eq_ok rest
            split at rest
            · cases rest
            · rename_i small
              cases rest
              refine ⟨Nat.le_of_not_lt small, ?_⟩
              rintro name' ⟨⟩
              exact quotedArg_eq_ok quoted (pieces zoneArg (by simp))
          · cases rest
        · -- `Decimal(P, S)`.
          obtain ⟨_, -, rest⟩ := except_bind_eq_ok rest
          obtain ⟨_, -, rest⟩ := except_bind_eq_ok rest
          obtain ⟨_, -, made⟩ := except_bind_eq_ok rest
          exact readable_of_decimalOf made
        · exact readable_of_shorthand rest
        · exact readable_of_shorthand rest
        · exact readable_of_shorthand rest
        · exact readable_of_shorthand rest
        · -- `Nullable(T)`: the inner type reads, and is no wrapper.
          obtain ⟨_, -, rest⟩ := except_bind_eq_ok rest
          obtain ⟨inner, read, rest⟩ := except_bind_eq_ok rest
          split at rest
          · cases rest
          · rename_i plain
            cases rest
            exact ⟨Bool.eq_false_iff.mpr plain, ih read⟩
        · -- `LowCardinality(T)`: the inner type reads.
          obtain ⟨_, -, rest⟩ := except_bind_eq_ok rest
          obtain ⟨inner, read, rest⟩ := except_bind_eq_ok rest
          cases rest
          exact (ih read : Readable inner)
        · cases rest

theorem readable_of_parse {s : String} {t : ColumnType} (read : parse s = .ok t) : Readable t :=
  readable_of_parseWithin read

/-- The types that reading gives are exactly the readable ones. -/
theorem parses_iff_readable (t : ColumnType) : (∃ s, parse s = .ok t) ↔ Readable t :=
  ⟨fun ⟨_, read⟩ => readable_of_parse read, fun readable => ⟨_, parse_render_of_readable readable⟩⟩

/-! ## Printing is a right inverse of reading -/

/-- A type read from any text prints to a canonical text that reads back as the same type, so
all the spellings the reader accepts for a type share one canonical text. The type of every
codec is one that reading gives, and it reads back from its canonical text as well. -/
theorem parse_render_of_parse :
    (∀ (s : String) (t : ColumnType), parse s = .ok t → parse (render t) = .ok t) ∧
    ∀ c : Codec, (∃ s, parse s = .ok c.columnType) ∧
      parse (render c.columnType) = .ok c.columnType :=
  ⟨fun _ _ read => parse_render_of_readable (readable_of_parse read),
    fun c => ⟨(parses_iff_readable _).mpr (readable_columnType c), parse_render_columnType c⟩⟩

/-- A type spelled with blanks, a signed scale and a zone holding a comma and parentheses prints
to its canonical text, which reads back as it. -/
theorem parse_render_spelled_loosely :
    let t : ColumnType := .lowCardinality (.nullable (.dateTime64 3 (some "Etc/UTC, (x)")))
    parse " LowCardinality( Nullable(DateTime64( +3 ,'Etc/UTC, (x)') ) )" = .ok t ∧
      render t = "LowCardinality(Nullable(DateTime64(3, 'Etc/UTC, (x)')))" ∧
      parse (render t) = .ok t :=
  have read : parse " LowCardinality( Nullable(DateTime64( +3 ,'Etc/UTC, (x)') ) )" =
      .ok (.lowCardinality (.nullable (.dateTime64 3 (some "Etc/UTC, (x)")))) := by rfl
  ⟨read, rfl, parse_render_of_parse.1 _ _ read⟩

example : (parse "Decimal64(4)").map render = .ok "Decimal(18, 4)" := by rfl

end NativeBlock.ColumnType
