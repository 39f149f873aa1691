import NativeBlock.Json.Value
import NativeBlock.Decimal.Nearest
import NativeBlock.Text.Numeral

/-!
# Reading JSON text

`JsonValue.parse?` reads one JSON document, with blanks around it and nothing else.

* A number written without a fraction or an exponent is an integer when it lies within the
  64-bit words, signed or unsigned: `-2^63 ..= 2^64 - 1`. Every other number is the binary64
  value nearest it, so `1.0`, `1e3`, `18446744073709551616` and `-0` are floats, the last one
  negative zero. A number beyond the largest binary64 value is refused.
* A number has no leading zero, no lone point and no bare exponent; a string has no raw control
  character; `\u` escapes join surrogate pairs and refuse a lone surrogate.
* An object's members are kept sorted by key, and of two members with one key the later one
  stays.

The reader works on the list of characters and returns what it read together with the rest.
Arrays and objects nest, so it is total by a fuel argument that `parse?` sets from the text's
length: every nested call has read at least one character first.
-/

namespace NativeBlock

namespace Json

/-- Whether `c` may stand between tokens. -/
def isSpace (c : Char) : Bool := c = ' ' || c = '\t' || c = '\n' || c = '\r'

def skipSpace (cs : List Char) : List Char := cs.dropWhile isSpace

/-- The ASCII digits in front, and the rest. -/
def spanDigits (cs : List Char) : List Char × List Char :=
  (cs.takeWhile Char.isDigit, cs.dropWhile Char.isDigit)

def digitsValue (ds : List Char) : Nat := ds.foldl (fun acc d => acc * 10 + (d.toNat - 48)) 0

/-- The code unit of four hexadecimal digits. -/
def quad? (a b c d : Char) : Option Nat := Text.hexDigitsValue? [a, b, c, d]

/-- The character a one-letter escape stands for. -/
def shortEscape? (c : Char) : Option Char :=
  if c = '"' then some '"' else if c = '\\' then some '\\' else if c = '/' then some '/'
  else if c = 'b' then some (Char.ofNat 8) else if c = 'f' then some (Char.ofNat 12)
  else if c = 'n' then some '\n' else if c = 'r' then some '\r' else if c = 't' then some '\t'
  else none

/-- The rest of a string after its opening quote: its text, reversed into `acc`, and the input
after the closing quote. -/
def readString (acc : List Char) : List Char → Except String (String × List Char)
  | [] => .error "EOF while parsing a string"
  | '"' :: rest => .ok (String.ofList acc.reverse, rest)
  | '\\' :: 'u' :: a :: b :: c :: d :: rest =>
    match quad? a b c d with
    | none => .error "invalid escape"
    | some hi =>
      if 0xDC00 ≤ hi ∧ hi < 0xE000 then .error "lone trailing surrogate in hex escape"
      else if hi < 0xD800 ∨ 0xE000 ≤ hi then readString (Char.ofNat hi :: acc) rest
      else match rest with
        | '\\' :: 'u' :: e :: f :: g :: h :: rest =>
          match quad? e f g h with
          | some lo =>
            if 0xDC00 ≤ lo ∧ lo < 0xE000 then
              readString (Char.ofNat (0x10000 + (hi - 0xD800) * 0x400 + (lo - 0xDC00)) :: acc) rest
            else .error "lone leading surrogate in hex escape"
          | none => .error "invalid escape"
        | _ => .error "lone leading surrogate in hex escape"
  | '\\' :: e :: rest =>
    match shortEscape? e with
    | some c => readString (c :: acc) rest
    | none => .error "invalid escape"
  | c :: rest =>
    if c.toNat < 0x20 then .error "control character while parsing a string"
    else readString (c :: acc) rest

/-- A number at the front of `cs`, as the module header describes. -/
def readNumber (cs : List Char) : Except String (JsonValue × List Char) := do
  let (negative, cs) := match cs with
    | '-' :: rest => (true, rest)
    | rest => (false, rest)
  let (whole, cs) := spanDigits cs
  match whole with
  | [] => throw "invalid number"
  | '0' :: _ :: _ => throw "invalid number"
  | _ => pure ()
  let (fraction, cs) ← match cs with
    | '.' :: rest =>
      let (f, rest) := spanDigits rest
      if f.isEmpty then throw "invalid number" else pure (f, rest)
    | rest => pure ([], rest)
  let (exp, marked, cs) ← match cs with
    | c :: rest =>
      if c = 'e' ∨ c = 'E' then
        let (down, rest) := match rest with
          | '-' :: r => (true, r)
          | '+' :: r => (false, r)
          | r => (false, r)
        let (e, rest) := spanDigits rest
        if e.isEmpty then throw "invalid number"
        else pure ((if down then -(digitsValue e : Int) else digitsValue e), true, rest)
      else pure (0, false, c :: rest)
    | [] => pure (0, false, [])
  let digits := digitsValue (whole ++ fraction)
  if fraction.isEmpty ∧ !marked then
    if !negative ∧ digits < 18446744073709551616 then return (.int digits, cs)
    if negative ∧ 0 < digits ∧ digits ≤ 9223372036854775808 then return (.int (-(digits : Int)), cs)
  match Binary64.nearest negative digits (exp - fraction.length) with
  | some bits => return (.float bits, cs)
  | none => throw "number out of range"

/-- Adds a member to members sorted by key; a member with the same key is replaced. -/
def insertMember (k : String) (v : JsonValue) :
    List (String × JsonValue) → List (String × JsonValue)
  | [] => [(k, v)]
  | (k', v') :: rest =>
    if k = k' then (k, v) :: rest
    else if k < k' then (k, v) :: (k', v') :: rest
    else (k', v') :: insertMember k v rest

mutual

/-- A value at the front of `cs`, after blanks. -/
def readValue : Nat → List Char → Except String (JsonValue × List Char)
  | 0, _ => .error "recursion limit exceeded"
  | fuel + 1, cs =>
    match skipSpace cs with
    | '{' :: rest =>
      match skipSpace rest with
      | '}' :: rest => .ok (.obj [], rest)
      | rest => readMembers fuel [] rest
    | '[' :: rest =>
      match skipSpace rest with
      | ']' :: rest => .ok (.arr [], rest)
      | rest => readItems fuel [] rest
    | '"' :: rest => (readString [] rest).map fun (s, rest) => (.str s, rest)
    | 't' :: 'r' :: 'u' :: 'e' :: rest => .ok (.bool true, rest)
    | 'f' :: 'a' :: 'l' :: 's' :: 'e' :: rest => .ok (.bool false, rest)
    | 'n' :: 'u' :: 'l' :: 'l' :: rest => .ok (.null, rest)
    | [] => .error "EOF while parsing a value"
    | rest => readNumber rest

/-- The items of an array after its opening bracket, `acc` holding those read, reversed. -/
def readItems : Nat → List JsonValue → List Char → Except String (JsonValue × List Char)
  | 0, _, _ => .error "recursion limit exceeded"
  | fuel + 1, acc, cs => do
    let (v, rest) ← readValue fuel cs
    match skipSpace rest with
    | ',' :: rest => readItems fuel (v :: acc) rest
    | ']' :: rest => .ok (.arr (v :: acc).reverse, rest)
    | _ => .error "expected `,` or `]`"

/-- The members of an object after its opening brace, `acc` holding those read, sorted. -/
def readMembers : Nat → List (String × JsonValue) → List Char →
    Except String (JsonValue × List Char)
  | 0, _, _ => .error "recursion limit exceeded"
  | fuel + 1, acc, cs =>
    match skipSpace cs with
    | '"' :: rest => do
      let (k, rest) ← readString [] rest
      match skipSpace rest with
      | ':' :: rest =>
        let (v, rest) ← readValue fuel rest
        let acc := insertMember k v acc
        match skipSpace rest with
        | ',' :: rest => readMembers fuel acc rest
        | '}' :: rest => .ok (.obj acc, rest)
        | _ => .error "expected `,` or `\x7d`"
      | _ => .error "expected `:`"
    | _ => .error "key must be a string"

end

end Json

namespace JsonValue

/-- Reads a JSON document: one value with blanks around it. -/
def parse? (text : String) : Except String JsonValue := do
  let cs := text.toList
  let (v, rest) ← Json.readValue (2 * cs.length + 2) cs
  if (Json.skipSpace rest).isEmpty then pure v else throw "trailing characters"

def field? (v : JsonValue) (k : String) : Option JsonValue :=
  match v with
  | .obj fields => fields.lookup k
  | _ => none

end JsonValue

theorem Json.lookup_insertMember (k : String) (v : JsonValue) (fs : List (String × JsonValue)) :
    (Json.insertMember k v fs).lookup k = some v := by
  induction fs with
  | nil => simp [Json.insertMember]
  | cons p rest ih =>
    obtain ⟨k', v'⟩ := p
    unfold Json.insertMember
    by_cases h : k = k'
    · simp [h]
    · by_cases h' : k < k'
      · simp [h, h']
      · have hb : (k == k') = false := by simpa using h
        simp [h, h', List.lookup_cons, hb, ih]

end NativeBlock
