import NativeBlock.Error
import NativeBlock.Time.Calendar

/-!
# Instants and DateTime64 ticks

An `Instant` is a count of seconds since 1970-01-01T00:00:00 UTC and a count of nanoseconds.
Nanoseconds run below 10⁹, except in the last second of a minute, where 10⁹ up to 2·10⁹ mark a
leap second. The instant's date must lie in the calendar.

A `DateTime64(S)` column stores an instant as a signed 64-bit count of `10⁻ˢ`-second ticks.
Reading divides with the floor, so the sub-second part of an instant before 1970 is never
negative; writing truncates the nanoseconds the scale cannot hold, and refuses an instant whose
tick count leaves 64 bits.
-/

namespace NativeBlock

/-- Whether seconds and nanoseconds make an instant of the calendar. -/
def Instant.Valid (secs : Int) (nanos : Nat) : Prop :=
  nanos < 2000000000 ∧ (nanos < 1000000000 ∨ secs % 60 = 59) ∧
    Calendar.minDays ≤ secs / 86400 ∧ secs / 86400 ≤ Calendar.maxDays

instance (secs : Int) (nanos : Nat) : Decidable (Instant.Valid secs nanos) :=
  inferInstanceAs (Decidable (_ ∧ _))

/-- A point in time, with leap seconds as nanoseconds past 10⁹. -/
structure Instant where
  secs : Int
  nanos : Nat
  valid : Instant.Valid secs nanos

namespace Instant

/-- The instant of `secs` seconds and `nanos` nanoseconds, when there is one. -/
def ofParts? (secs : Int) (nanos : Nat) : Option Instant :=
  if h : Instant.Valid secs nanos then some ⟨secs, nanos, h⟩ else none

/-- The smallest and largest tick counts, `-2⁶³` and `2⁶³ - 1`: signed 64-bit words. -/
def minTicks : Int := -9223372036854775808
def maxTicks : Int := 9223372036854775807

/-- The fraction digits shown after the seconds: none for a whole second, else the fewest of
three, six or nine digits that hold the nanoseconds exactly. -/
def renderFraction (nanos : Nat) : String :=
  if nanos = 0 then ""
  else if nanos % 1000000 = 0 then "." ++ Calendar.pad 3 (nanos / 1000000)
  else if nanos % 1000 = 0 then "." ++ Calendar.pad 6 (nanos / 1000)
  else "." ++ Calendar.pad 9 nanos

/-- `HH:MM:SS` and the fraction of a second of the day and nanoseconds; a leap second shows as
second 60 of its minute. -/
def renderClock (secOfDay : Int) (nanos : Nat) : String :=
  let s := secOfDay.toNat
  let (sec, nanos) := if 1000000000 ≤ nanos then (s % 60 + 1, nanos - 1000000000) else (s % 60, nanos)
  Calendar.pad 2 (s / 3600) ++ ":" ++ Calendar.pad 2 (s / 60 % 60) ++ ":" ++ Calendar.pad 2 sec ++
    renderFraction nanos

/-- Date and time of `secs` seconds after the epoch, in the form `YYYY-MM-DD` and `HH:MM:SS`,
joined by `sep`. -/
def renderAt (secs : Int) (nanos : Nat) (sep : String) : String :=
  let (y, m, d) := Calendar.civilFromDays (secs / 86400)
  Calendar.renderYmd y m d ++ sep ++ renderClock (secs % 86400) nanos

/-- The instant in UTC as `YYYY-MM-DD HH:MM:SS[.fff] UTC`. -/
def render (i : Instant) : String := renderAt i.secs i.nanos " " ++ " UTC"

instance : ToString Instant := ⟨render⟩

/-- Ticks per second of a DateTime64 scale; scales above 9 have none. -/
def ticksPerSecond (scale : Nat) : Except Error Int :=
  if 9 < scale then .error (.numericRange s!"DateTime64 scale {scale} exceeds 9")
  else .ok (Int.pow 10 scale)

/-- The instant `ticks` ticks of scale `scale` after the epoch. -/
def ofTicks (ticks : Int) (scale : Nat) : Except Error Instant := do
  let per ← ticksPerSecond scale
  let secs := ticks / per
  let fraction := ticks % per
  let nanos := (fraction * (1000000000 / per)).toNat
  match ofParts? secs nanos with
  | some i => pure i
  | none => throw (.numericRange s!"DateTime64 value {ticks} at scale {scale} is out of range")

/-- The tick count of the instant at scale `scale`, truncating finer nanoseconds. -/
def toTicks (i : Instant) (scale : Nat) : Except Error Int := do
  let per ← ticksPerSecond scale
  let fraction : Int := i.nanos / (1000000000 / per).toNat
  let whole := i.secs * per
  let text := i.render
  if whole < minTicks ∨ maxTicks < whole ∨ whole + fraction < minTicks ∨ maxTicks < whole + fraction then
    throw (.numericRange s!"{text} does not fit DateTime64({scale})")
  pure (whole + fraction)

end Instant

end NativeBlock
