import NativeBlock.Schema.ColumnType
import NativeBlock.Text.Blank
import NativeBlock.Text.Numeral

/-!
# Reading type strings

`ColumnType.parse` reads a header's type string. The text is trimmed; without a `(` it must be a
plain type name. Otherwise it must end in `)`, the text before the first `(` names the type, and
the text between is split at commas that stand outside quotes and nested parentheses. Each
argument is trimmed and none may be empty.

Numbers are unsigned numerals (`+` allowed); a timezone argument is quoted with apostrophes and
is taken as written, without checking that the zone exists.
-/

namespace NativeBlock.ColumnType

open Text

/-- Splits an argument list at top-level commas, leaving quoted text and nested parentheses
whole. The pieces come back trimmed, in order. -/
def splitArgs (inner : List Char) : Except Error (List (List Char)) :=
  go inner 0 false [] []
where
  /-- Scans `rest` with the nesting `depth`, the quote state, the current piece (reversed) and
  the finished pieces (reversed). -/
  go : List Char → Nat → Bool → List Char → List (List Char) → Except Error (List (List Char))
    | [], depth, quoted, cur, done =>
      if depth ≠ 0 ∨ quoted then .error (.framing "unterminated type arguments")
      else
        let args := (trim cur.reverse :: done).reverse
        if args.any List.isEmpty then .error (.framing "empty type argument") else .ok args
    | c :: rest, depth, quoted, cur, done =>
      if c = '\'' then go rest depth (!quoted) (c :: cur) done
      else if c = '(' ∧ !quoted then go rest (depth + 1) quoted (c :: cur) done
      else if c = ')' ∧ !quoted then
        if depth = 0 then .error (.framing "unbalanced parentheses in type arguments")
        else go rest (depth - 1) quoted (c :: cur) done
      else if c = ',' ∧ !quoted ∧ depth = 0 then go rest depth quoted [] (trim cur.reverse :: done)
      else go rest depth quoted (c :: cur) done

/-- Exactly `n` arguments, or an error that names the type and the count found. -/
def expectArgs (head : String) (n : Nat) (args : List (List Char)) :
    Except Error (List (List Char)) :=
  if args.length = n then .ok args
  else
    let got := args.length
    .error (.framing s!"{head} takes {n} argument(s), got {got}")

/-- An unsigned numeric argument of at most `max`. -/
def numberArg (head : String) (max : Nat) (arg : List Char) : Except Error Nat :=
  match parseUnsigned? max (String.ofList arg) with
  | some n => .ok n
  | none =>
    let text := String.ofList arg
    .error (.framing s!"invalid numeric argument `{text}` for {head}")

/-- A timezone argument: text between two apostrophes, not empty. -/
def quotedArg (arg : List Char) : Except Error String :=
  match arg with
  | '\'' :: rest =>
    if rest.getLast? = some '\'' ∧ rest.length ≥ 2 then .ok (String.ofList rest.dropLast)
    else
      let text := String.ofList arg
      .error (.framing s!"expected quoted timezone, got `{text}`")
  | _ =>
    let text := String.ofList arg
    .error (.framing s!"expected quoted timezone, got `{text}`")

def plain (s : String) : Except Error ColumnType :=
  if s.isEmpty then .error (.framing "empty type string")
  else match plainNames.lookup s with
    | some t => .ok t
    | none => .error (.unsupported s!"column type `{s}`")

/-- Reads a type string with a budget for its nesting; the budget is never the limit when it is
at least the string's length. -/
def parseWithin : Nat → List Char → Except Error ColumnType
  | 0, _ => .error (.framing "unbalanced parentheses in type arguments")
  | fuel + 1, cs => do
    let s := trim cs
    let text := String.ofList s
    match s.idxOf? '(' with
    | none => plain text
    | some opening =>
      if s.getLast? ≠ some ')' then
        throw (.framing s!"unbalanced parentheses in type `{text}`")
      let head := String.ofList (trim (s.take opening))
      let args ← splitArgs ((s.drop (opening + 1)).dropLast)
      match head with
      | "FixedString" =>
        let args ← expectArgs head 1 args
        let n ← numberArg head maxU64 (args.headD [])
        if n = 0 then throw (.framing "FixedString size must be positive")
        pure (.fixedString n)
      | "DateTime64" =>
        let (scaleArg, timezone) ← match args with
          | [scale] => pure (scale, none)
          | [scale, tz] => do pure (scale, some (← quotedArg tz))
          | _ =>
            let got := args.length
            throw (.framing s!"DateTime64 takes 1 or 2 arguments, got {got}")
        let scale ← numberArg head maxU8 scaleArg
        if 9 < scale then throw (.numericRange s!"DateTime64 scale {scale} exceeds 9")
        pure (.dateTime64 scale timezone)
      | "Decimal" =>
        let args ← expectArgs head 2 args
        let precision ← numberArg head maxU8 (args.headD [])
        let scale ← numberArg head maxU8 (args.getD 1 [])
        decimalOf precision scale
      | "Decimal32" => shorthand head .d32 args
      | "Decimal64" => shorthand head .d64 args
      | "Decimal128" => shorthand head .d128 args
      | "Decimal256" => shorthand head .d256 args
      | "Nullable" =>
        let args ← expectArgs head 1 args
        let inner ← parseWithin fuel (args.headD [])
        if inner.isWrapper then throw (.unsupported ("Nullable(" ++ inner.render ++ ")"))
        pure (.nullable inner)
      | "LowCardinality" =>
        let args ← expectArgs head 1 args
        let inner ← parseWithin fuel (args.headD [])
        pure (.lowCardinality inner)
      | _ => throw (.unsupported s!"column type `{text}`")
where
  /-- `DecimalN(S)`: the widest precision of the width with scale `S`. -/
  shorthand (head : String) (w : DecimalWidth) (args : List (List Char)) :
      Except Error ColumnType := do
    let args ← expectArgs head 1 args
    let scale ← numberArg head maxU8 (args.headD [])
    decimalOf w.maxPrecision scale

def parse (s : String) : Except Error ColumnType :=
  parseWithin (s.length + 1) s.toList

end NativeBlock.ColumnType
