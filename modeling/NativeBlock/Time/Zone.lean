import NativeBlock.Error
import NativeBlock.Time.Calendar
import NativeBlock.Time.Zone.Table

/-!
# Time zones

A `Zone` is a named rule that gives, for every instant, the offset of local time from UTC. It is
an offset before the first transition, a list of transitions (each the first second at which a
new offset holds) and optionally a yearly daylight-saving rule that adds two transitions a year
from a given year up to 2099.

`Zone.find?` looks a zone up by name in the time zone table; a name is spelled exactly as the
table has it, letter case included. `Zone.offsetAt` is the offset of the last transition at or
before the instant.
-/

namespace NativeBlock

/-- A day of the year as a yearly rule names it: the `week`-th `weekday` of `month` (week 5 is the
last such weekday), at `time` seconds of local time. -/
structure RuleDay where
  month : Nat
  week : Nat
  weekday : Nat
  time : Int
  deriving Repr, DecidableEq

/-- A yearly change between standard and daylight time, from `fromYear` to 2099. -/
structure YearlyRule where
  fromYear : Int
  standard : Int
  daylight : Int
  start : RuleDay
  stop : RuleDay
  deriving Repr, DecidableEq

/-- A time zone: its name, its offsets in seconds east of UTC and when they change. -/
structure Zone where
  name : String
  initial : Int
  transitions : List (Int × Int)
  rule : Option YearlyRule
  deriving Repr, DecidableEq

namespace RuleDay

/-- The day count from 1970-01-01 of the rule's day in year `y`. -/
def daysIn (r : RuleDay) (y : Int) : Int :=
  let first := Calendar.daysFromCivil y r.month 1
  -- 1970-01-01 was a Thursday, weekday 4.
  let firstWeekday := (first + 4) % 7
  let day := 1 + (r.weekday - firstWeekday) % 7 + 7 * ((r.week : Int) - 1)
  let len : Int := Calendar.daysInMonth y r.month
  let day := if len < day then day - 7 else day
  let day := if len < day then day - 7 else day
  first + day - 1

end RuleDay

namespace YearlyRule

/-- The rule's two transitions in year `y`, in time order, as (UTC second, new offset). -/
def transitionsIn (r : YearlyRule) (y : Int) : List (Int × Int) :=
  let start := r.start.daysIn y * 86400 + r.start.time - r.standard
  let stop := r.stop.daysIn y * 86400 + r.stop.time - r.daylight
  if start ≤ stop then [(start, r.daylight), (stop, r.standard)]
  else [(stop, r.standard), (start, r.daylight)]

def lastYear : Int := 2099

/-- All transitions of the rule, from its first year to the last. -/
def transitions (r : YearlyRule) : List (Int × Int) :=
  (List.range (lastYear + 1 - r.fromYear).toNat).flatMap fun (k : Nat) =>
    r.transitionsIn (r.fromYear + (k : Int))

end YearlyRule

namespace Zone

def utc : Zone := ⟨"UTC", 0, [], none⟩

/-- Every transition of the zone, in time order. -/
def allTransitions (z : Zone) : List (Int × Int) :=
  z.transitions ++ (match z.rule with
    | some r => r.transitions
    | none => [])

/-- The offset from UTC, in seconds, at `secs` seconds after the epoch. -/
def offsetAt (z : Zone) (secs : Int) : Int :=
  z.allTransitions.foldl (fun cur (t, o) => if t ≤ secs then o else cur) z.initial

/-- The value of a base-36 numeral in lower-case letters. -/
def base36 (cs : List Char) : Nat :=
  cs.foldl (fun acc c => acc * 36 + (if c.isDigit then c.toNat - 48 else c.toNat - 87)) 0

/-- The signed integer of a decimal numeral with an optional minus sign. -/
def decimal (s : String) : Int :=
  match s.toList with
  | '-' :: ds => -((String.ofList ds).toNat?.getD 0 : Int)
  | ds => (String.ofList ds).toNat?.getD 0

/-- The transitions of a table line, given its offsets. -/
def decodeTransitions (offsets : List Int) (cs : List Char) : List (Int × Int) :=
  go cs [] (-4000000000) []
where
  /-- Reads the digits `acc` (reversed) of the next gap after `prev`. -/
  go : List Char → List Char → Int → List (Int × Int) → List (Int × Int)
    | [], _, _, out => out.reverse
    | c :: rest, acc, prev, out =>
      if c.isUpper then
        let t := prev + base36 acc.reverse
        go rest [] t ((t, offsets.getD (c.toNat - 65) 0) :: out)
      else go rest (c :: acc) prev out

def decodeRule (s : String) : Option YearlyRule :=
  match (s.splitOn ",").map decimal with
  | [y, std, dst, sm, sw, sd, st, em, ew, ed, et] =>
    some ⟨y, std, dst, ⟨sm.toNat, sw.toNat, sd.toNat, st⟩, ⟨em.toNat, ew.toNat, ed.toNat, et⟩⟩
  | _ => none

def decodeLine (name : String) (fields : List String) : Option Zone :=
  match fields with
  | [_, offsets, transitions, rule] =>
    let offsets := (offsets.splitOn ",").map decimal
    some ⟨name, offsets.headD 0, decodeTransitions offsets transitions.toList, decodeRule rule⟩
  | _ => none

/-- The zone called `name`, spelled exactly as the table has it. -/
def find? (name : String) : Option Zone :=
  (table.splitOn "\n").findSome? fun line =>
    let fields := line.splitOn ";"
    if ((fields.headD "").splitOn " ").contains name then decodeLine name fields else none

/-- The zone called `name`, or the error that names the unknown zone. -/
def parse (name : String) : Except Error Zone :=
  match find? name with
  | some z => .ok z
  | none => .error (.unsupported s!"unknown timezone '{name}'")

/-- Whether a name can stand between the apostrophes that quote a zone in a type string: it is
not empty and holds no apostrophe. Every name in the table is such a name. -/
def NameQuotable (name : String) : Prop := name ≠ "" ∧ '\'' ∉ name.toList

instance (name : String) : Decidable (NameQuotable name) :=
  inferInstanceAs (Decidable (_ ∧ _))

end Zone

end NativeBlock
