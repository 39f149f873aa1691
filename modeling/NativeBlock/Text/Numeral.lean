/-!
# Decimal numerals

Numerals as the type language and the command line accept them: an optional sign, then one or
more ASCII digits, with a value within the target's range. An unsigned numeral takes only `+`
as its sign. A blank or any other character makes the text no numeral. Hexadecimal numerals
are unsigned and take digits of either case.
-/

namespace NativeBlock.Text

/-- The value of a nonempty run of ASCII digits. -/
def digitsValue? (cs : List Char) : Option Nat :=
  if cs.isEmpty || !cs.all Char.isDigit then none
  else some (cs.foldl (fun acc c => acc * 10 + (c.toNat - '0'.toNat)) 0)

/-- Reads an unsigned numeral that is at most `max`. -/
def parseUnsigned? (max : Nat) (s : String) : Option Nat :=
  let body := match s.toList with
    | '+' :: rest => rest
    | cs => cs
  match digitsValue? body with
  | some n => if n ≤ max then some n else none
  | none => none

/-- Reads a signed numeral within `lo ..= hi`. -/
def parseSigned? (lo hi : Int) (s : String) : Option Int :=
  let (neg, body) := match s.toList with
    | '-' :: rest => (true, rest)
    | '+' :: rest => (false, rest)
    | cs => (false, cs)
  match digitsValue? body with
  | some n =>
    let v : Int := if neg then -(n : Int) else n
    if lo ≤ v ∧ v ≤ hi then some v else none
  | none => none

/-- The value of a hexadecimal digit of either case. -/
def hexDigit? (c : Char) : Option Nat :=
  if '0' ≤ c ∧ c ≤ '9' then some (c.toNat - 48)
  else if 'a' ≤ c ∧ c ≤ 'f' then some (c.toNat - 87)
  else if 'A' ≤ c ∧ c ≤ 'F' then some (c.toNat - 55)
  else none

/-- The value of a nonempty run of hexadecimal digits. -/
def hexDigitsValue? (cs : List Char) : Option Nat :=
  if cs.isEmpty then none else cs.foldlM (fun acc c => (hexDigit? c).map (acc * 16 + ·)) 0

/-- Reads an unsigned hexadecimal numeral, with an optional `+`, that is at most `max`. -/
def parseHex? (max : Nat) (s : String) : Option Nat :=
  let body := match s.toList with
    | '+' :: rest => rest
    | cs => cs
  (hexDigitsValue? body).filter (· ≤ max)

def maxU8 : Nat := 255

/-- The largest 64-bit value, `2⁶⁴ - 1`, the bound of sizes and counts. -/
def maxU64 : Nat := 18446744073709551615

end NativeBlock.Text
