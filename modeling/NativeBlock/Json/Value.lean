import NativeBlock.Decimal.Shortest

/-!
# JSON documents

`JsonValue` is the document a report is built as: scalars, arrays, and objects whose fields keep
the order they were given in. Integers are exact; a float keeps its binary64 bits and is written
as its shortest decimal.

Text of a document:

* A string is quoted; a quote and a backslash are escaped, so are control characters, by their
  short escapes where JSON has one (`\b \f \n \r \t`) and as `\u00XX` in lowercase hex
  otherwise. Every other character stands for itself.
* A float is written positionally when its decimal exponent allows it within sixteen digits,
  with `.0` when it is whole, and otherwise as one digit, a point, the other digits and a
  signed exponent (`1.5e-7`, `1e+22`). Zero is `0.0` or `-0.0`; NaN and the infinities are `null`.
* `compact` writes no blank at all; `pretty` puts each item and field on its own line, indented
  by two blanks a level, with `": "` after a key, and writes empty arrays and objects as `[]` and
  `{}`.
-/

namespace NativeBlock

inductive JsonValue where
  | null
  | bool (b : Bool)
  | int (n : Int)
  | float (bits : BitVec 64)
  | str (s : String)
  | arr (items : List JsonValue)
  | obj (fields : List (String × JsonValue))

namespace Json

/-- Two lowercase hex digits of a byte. -/
def hexByte (n : Nat) : String :=
  let digit (d : Nat) : Char := if d < 10 then Char.ofNat (48 + d) else Char.ofNat (87 + d)
  String.ofList [digit (n / 16 % 16), digit (n % 16)]

/-- The text standing for one character inside a quoted string. -/
def escapeChar (c : Char) : String :=
  if c = '"' then "\\\""
  else if c = '\\' then "\\\\"
  else if c = '\n' then "\\n"
  else if c = '\r' then "\\r"
  else if c = '\t' then "\\t"
  else if c.toNat = 8 then "\\b"
  else if c.toNat = 12 then "\\f"
  else if c.toNat < 32 then "\\u00" ++ hexByte c.toNat
  else c.toString

def quote (s : String) : String :=
  "\"" ++ String.join (s.toList.map escapeChar) ++ "\""

/-- The text of a decimal `digits · 10^exp` with no trailing zeros in `digits`: positional while
the point falls within sixteen digits of the first, else with an exponent. -/
def decimalText (d : DecimalFloat) : String :=
  let ds := Decimal.digitChars d.digits
  let len : Int := ds.length
  let kk := len + d.exp
  if 0 ≤ d.exp ∧ kk ≤ 16 then
    String.ofList (ds ++ List.replicate d.exp.toNat '0') ++ ".0"
  else if 0 < kk ∧ kk ≤ 16 then
    String.ofList (ds.take kk.toNat) ++ "." ++ String.ofList (ds.drop kk.toNat)
  else if -5 < kk ∧ kk ≤ 0 then
    "0." ++ String.ofList (List.replicate (-kk).toNat '0' ++ ds)
  else
    let mant := match ds with
      | [c] => String.ofList [c]
      | c :: rest => String.ofList (c :: '.' :: rest)
      | [] => ""
    let e := kk - 1
    mant ++ (if 0 ≤ e then "e+" else "e-") ++ toString e.natAbs

/-- The text of a binary64 value. -/
def floatText (bits : BitVec 64) : String :=
  let n := bits.toNat
  let e := n / Nat.pow 2 52 % Nat.pow 2 11
  let f := n % Nat.pow 2 52
  let sign := if Nat.pow 2 63 ≤ n then "-" else ""
  if e = 2047 then "null"
  else if e = 0 ∧ f = 0 then sign ++ "0.0"
  else sign ++ decimalText (Binary64.ofBits bits).shortest

end Json

namespace JsonValue

def scalarText : JsonValue → String
  | .null => "null"
  | .bool b => if b then "true" else "false"
  | .int n => toString n
  | .float bits => Json.floatText bits
  | .str s => Json.quote s
  | .arr _ => "[]"
  | .obj _ => "\x7b\x7d"

mutual

/-- The document without any blank. -/
def compact : JsonValue → String
  | .arr items => "[" ++ compactItems items ++ "]"
  | .obj fields => "\x7b" ++ compactFields fields ++ "\x7d"
  | v => v.scalarText

def compactItems : List JsonValue → String
  | [] => ""
  | [v] => compact v
  | v :: rest => compact v ++ "," ++ compactItems rest

def compactFields : List (String × JsonValue) → String
  | [] => ""
  | [(k, v)] => Json.quote k ++ ":" ++ compact v
  | (k, v) :: rest => Json.quote k ++ ":" ++ compact v ++ "," ++ compactFields rest

end

/-- A line break and the indentation of `level`. -/
def newline (level : Nat) : String := "\n" ++ String.ofList (List.replicate (2 * level) ' ')

mutual

/-- The document indented, at nesting `level`. -/
def pretty (level : Nat) : JsonValue → String
  | .arr [] => "[]"
  | .arr items => "[" ++ prettyItems (level + 1) items ++ newline level ++ "]"
  | .obj [] => "\x7b\x7d"
  | .obj fields => "\x7b" ++ prettyFields (level + 1) fields ++ newline level ++ "\x7d"
  | v => v.scalarText

def prettyItems (level : Nat) : List JsonValue → String
  | [] => ""
  | [v] => newline level ++ pretty level v
  | v :: rest => newline level ++ pretty level v ++ "," ++ prettyItems level rest

def prettyFields (level : Nat) : List (String × JsonValue) → String
  | [] => ""
  | [(k, v)] => newline level ++ Json.quote k ++ ": " ++ pretty level v
  | (k, v) :: rest =>
    newline level ++ Json.quote k ++ ": " ++ pretty level v ++ "," ++ prettyFields level rest

end

end JsonValue

end NativeBlock
