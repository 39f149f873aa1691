/-!
# Calendar dates

Dates of the proleptic Gregorian calendar, counted in days from 1970-01-01, from
-262143-01-01 to +262142-12-31. `daysFromCivil` and `civilFromDays` convert between a day count
and year, month and day by the era arithmetic of 400-year cycles (146097 days each), whose years
start on March 1 so that a leap day ends its year.

A date's text is `YYYY-MM-DD`; a year outside `0..=9999` carries its sign and has at least four
digits (`+10000-01-01`, `-0001-12-31`).
-/

namespace NativeBlock

namespace Calendar

def isLeap (y : Int) : Bool := y % 4 = 0 ∧ (y % 100 ≠ 0 ∨ y % 400 = 0)

def daysInMonth (y : Int) (m : Nat) : Nat :=
  match m with
  | 2 => if isLeap y then 29 else 28
  | 4 | 6 | 9 | 11 => 30
  | _ => 31

/-- Days from March 1 of the first year of a 400-year era to March 1 of its year `yoe`: 365 a
year, and a leap day every fourth year but every hundredth. Years start in March, so a year's leap
day is its last day. -/
def yearStart (yoe : Int) : Int := 365 * yoe + yoe / 4 - yoe / 100

/-- Days from March 1 to the first day of month `mp` of a year that starts in March (March is 0):
the month lengths 31, 30, 31, 30, 31 run from March to July and again from August to December. -/
def monthStart (mp : Int) : Int := (153 * mp + 2) / 5

/-- The year of an era in which day `doe` of the era falls. -/
def yearOfEra (doe : Int) : Int := (doe - doe / 1460 + doe / 36524 - doe / 146096) / 365

/-- The month, counted from March, in which day `doy` of a year that starts in March falls. -/
def monthOfYear (doy : Int) : Int := (5 * doy + 2) / 153

/-- Month `m` (January is 1) counted from March instead: March is 0 and February 11. -/
def marchMonth (m : Nat) : Int := if 2 < m then (m : Int) - 3 else (m : Int) + 9

/-- Month `mp` counted from March, counted from January again. -/
def calendarMonth (mp : Int) : Int := if mp < 10 then mp + 3 else mp - 9

/-- Days from 1970-01-01 to year `y`, month `m`, day `d`. -/
def daysFromCivil (y : Int) (m d : Nat) : Int :=
  let y := if m ≤ 2 then y - 1 else y
  let era := y / 400
  let yoe := y - era * 400
  let doy := monthStart (marchMonth m) + d - 1
  let doe := yearStart yoe + doy
  era * 146097 + doe - 719468

/-- Year, month and day of the date `z` days after 1970-01-01. -/
def civilFromDays (z : Int) : Int × Nat × Nat :=
  let z := z + 719468
  let era := z / 146097
  let doe := z - era * 146097
  let yoe := yearOfEra doe
  let doy := doe - yearStart yoe
  let mp := monthOfYear doy
  let d := doy - monthStart mp + 1
  let m := calendarMonth mp
  (yoe + era * 400 + (if m ≤ 2 then 1 else 0), m.toNat, d.toNat)

/-- The first day of the calendar, -262143-01-01. -/
def minDays : Int := daysFromCivil (-262143) 1 1

/-- The last day of the calendar, +262142-12-31. -/
def maxDays : Int := daysFromCivil 262142 12 31

/-- `n` in decimal, padded with zeros to at least `width` digits. -/
def pad (width n : Nat) : String :=
  let s := toString n
  String.ofList (List.replicate (width - s.length) '0') ++ s

/-- A year as dates show it: four digits within `0..=9999`, else a sign and at least four. -/
def renderYear (y : Int) : String :=
  if 0 ≤ y ∧ y ≤ 9999 then pad 4 y.toNat
  else (if y < 0 then "-" else "+") ++ pad 4 y.natAbs

/-- The text `YYYY-MM-DD` of a year, month and day. -/
def renderYmd (y : Int) (m d : Nat) : String :=
  renderYear y ++ "-" ++ pad 2 m ++ "-" ++ pad 2 d

end Calendar

/-- A calendar date, as its day count from 1970-01-01. -/
structure Date where
  days : Int
  inRange : Calendar.minDays ≤ days ∧ days ≤ Calendar.maxDays

namespace Date

/-- The date `n` days after 1970-01-01, when the calendar has it. -/
def ofDays? (n : Int) : Option Date :=
  if h : Calendar.minDays ≤ n ∧ n ≤ Calendar.maxDays then some ⟨n, h⟩ else none

/-- The date with year `y`, month `m` and day `d`, when it exists. -/
def ofYmd? (y : Int) (m d : Nat) : Option Date :=
  if 1 ≤ m ∧ m ≤ 12 ∧ 1 ≤ d ∧ d ≤ Calendar.daysInMonth y m then
    ofDays? (Calendar.daysFromCivil y m d)
  else none

def ymd (d : Date) : Int × Nat × Nat := Calendar.civilFromDays d.days

def render (d : Date) : String :=
  let (y, m, day) := d.ymd
  Calendar.renderYmd y m day

instance : ToString Date := ⟨render⟩

end Date

end NativeBlock
