import Mathlib
import NativeBlock.Time.Calendar

/-!
# Day counts and calendar dates

`civilFromDays` reads a day count as a year, month and day, and `daysFromCivil` counts the days
of one. Both split a count into eras of 400 years (146097 days), years of an era that start on
March 1 (`yearStart`) and months of such a year (`monthStart`); `yearOfEra` and `monthOfYear`
invert the two tables by division. The bounds of that inversion (`yearOfEra_bounds`,
`monthOfYear_bounds`) carry the rest:

* `civilFromDays` always gives a day of the calendar (`civilFromDays_isDate`);
* the two conversions are inverse (`daysFromCivil_civilFromDays`, `civilFromDays_daysFromCivil`);
* one day more is the next day of the calendar (`civilFromDays_succ`), so a date's day count is
  the number of days from 1970-01-01 to it (`Date.iterate_nextDay_days`);
* a date is named by its year, month and day and by nothing else (`Date.ofYmd?_eq_some_iff`).

The next day of the calendar (`nextDay`) is stated on its own, from the month lengths.
-/

namespace NativeBlock

namespace Calendar

/-! ## Leap years -/

/-- Leap years repeat every 400 years. -/
theorem isLeap_add_mul_400 (y k : Int) : isLeap (y + k * 400) = isLeap y := by
  have four : (y + k * 400) % 4 = y % 4 := by omega
  have hundred : (y + k * 400) % 100 = y % 100 := by omega
  have era : (y + k * 400) % 400 = y % 400 := by omega
  simp only [isLeap, four, hundred, era]

/-- The year of an era that starts on March 1 of year `y - 1` ends in the February of year `y`. -/
theorem isLeap_succ_mod (y : Int) : isLeap ((y - 1) % 400 + 1) = isLeap y := by
  rw [show (y - 1) % 400 + 1 = y + (-((y - 1) / 400)) * 400 by omega, isLeap_add_mul_400]

/-- The leap day a year of an era ends with, if it has one: the year starting on March 1 of year
`yoe` ends in the February of the calendar year after it. -/
def leapDays (yoe : Int) : Int := if isLeap (yoe + 1) then 1 else 0

theorem leapDays_bounds (yoe : Int) : 0 ≤ leapDays yoe ∧ leapDays yoe ≤ 1 := by
  unfold leapDays
  split <;> omega

/-! ## Years of an era -/

/-- No year of an era starts later than its last, year 399, on day 145731. -/
theorem yearStart_bounds {yoe : Int} (low : 0 ≤ yoe) (high : yoe ≤ 399) :
    0 ≤ yearStart yoe ∧ yearStart yoe ≤ 145731 := by
  unfold yearStart
  omega

/-- The era's day `doe`, short of its last, as centuries of 36524 days, four-year cycles of 1461
days and the days left. -/
theorem cycles_of_dayOfEra {doe : Int} (low : 0 ≤ doe) (high : doe ≤ 146095) :
    ∃ c q s : Int, doe = 36524 * c + 1461 * q + s ∧ 0 ≤ c ∧ c ≤ 3 ∧ 0 ≤ q ∧ q ≤ 24 ∧
      0 ≤ s ∧ s ≤ 1460 ∧ (q = 24 → s ≤ 1459) :=
  ⟨doe / 36524, doe % 36524 / 1461, doe % 36524 % 1461, by omega, by omega, by omega, by omega,
    by omega, by omega, by omega, by omega⟩

/-- Within century `c` and four-year cycle `q`, the year is found from the days left, less the
leap day of the cycle once it has passed. -/
theorem yearOfEra_cycles {c q s : Int} (hc : 0 ≤ c ∧ c ≤ 3) (hq : 0 ≤ q ∧ q ≤ 24)
    (hs : 0 ≤ s ∧ s ≤ 1460) (last : q = 24 → s ≤ 1459) :
    yearOfEra (36524 * c + 1461 * q + s) =
      100 * c + 4 * q + (s - (q + 24 * c + s) / 1460) / 365 := by
  unfold yearOfEra
  have cycles : (36524 * c + 1461 * q + s) / 1460 = 25 * c + q + (q + 24 * c + s) / 1460 := by
    omega
  have centuries : (36524 * c + 1461 * q + s) / 36524 = c := by omega
  have eras : (36524 * c + 1461 * q + s) / 146096 = 0 := by omega
  rw [cycles, centuries, eras]
  omega

/-- Every day of an era lies in the year `yearOfEra` finds: on or after its March 1 and within its
365 days, or 366 when it ends with a leap day. -/
theorem yearOfEra_bounds {doe : Int} (low : 0 ≤ doe) (high : doe ≤ 146096) :
    0 ≤ yearOfEra doe ∧ yearOfEra doe ≤ 399 ∧ yearStart (yearOfEra doe) ≤ doe ∧
      doe ≤ yearStart (yearOfEra doe) + 364 + leapDays (yearOfEra doe) := by
  by_cases lastDay : doe = 146096
  · subst lastDay
    decide
  obtain ⟨c, q, s, rfl, c0, c3, q0, q24, s0, s1, last⟩ := cycles_of_dayOfEra low (by omega)
  rw [yearOfEra_cycles ⟨c0, c3⟩ ⟨q0, q24⟩ ⟨s0, s1⟩ last]
  obtain ⟨δ, passed⟩ : ∃ δ, (q + 24 * c + s) / 1460 = δ := ⟨_, rfl⟩
  obtain ⟨r, year⟩ : ∃ r, (s - δ) / 365 = r := ⟨_, rfl⟩
  rw [passed, year]
  have r3 : 0 ≤ r ∧ r ≤ 3 := by omega
  have start : yearStart (100 * c + 4 * q + r) = 36524 * c + 1461 * q + 365 * r := by
    have leapYears : (100 * c + 4 * q + r) / 4 = 25 * c + q := by omega
    have centuryYears : (100 * c + 4 * q + r) / 100 = c := by omega
    rw [yearStart, leapYears, centuryYears]
    omega
  rw [start]
  refine ⟨by omega, by omega, by omega, ?_⟩
  by_cases short : s - 365 * r ≤ 364
  · have := leapDays_bounds (100 * c + 4 * q + r)
    omega
  · -- Only the last day of a four-year cycle that is not a century's last reaches 365.
    obtain ⟨rfl, rfl, notLast⟩ : r = 3 ∧ s = 1460 ∧ q ≤ 23 := by omega
    have leap : isLeap (100 * c + 4 * q + 3 + 1) = true := by
      unfold isLeap
      simp only [decide_eq_true_eq]
      omega
    rw [leapDays, if_pos leap]
    omega

/-- The year after year `k` of an era starts its length later: 365 days and its leap day. -/
theorem yearStart_succ {k : Int} (low : 0 ≤ k) (high : k ≤ 398) :
    yearStart (k + 1) = yearStart k + 365 + leapDays k := by
  unfold yearStart leapDays isLeap
  split
  · rename_i leap
    simp only [decide_eq_true_eq] at leap
    omega
  · rename_i common
    simp only [decide_eq_true_eq, not_and, not_or, Decidable.not_not] at common
    omega

/-- Later years of an era start after the whole of every earlier year. -/
theorem yearStart_le {a b : Int} (low : 0 ≤ a) (lt : a < b) (high : b ≤ 399) :
    yearStart a + 365 + leapDays a ≤ yearStart b := by
  rw [← yearStart_succ low (by omega)]
  unfold yearStart
  omega

/-- A day of year `yoe` of an era is found in that year. -/
theorem yearOfEra_yearStart {yoe doy : Int} (low : 0 ≤ yoe) (high : yoe ≤ 399) (first : 0 ≤ doy)
    (within : doy ≤ 364 + leapDays yoe) : yearOfEra (yearStart yoe + doy) = yoe := by
  obtain ⟨start0, start399⟩ := yearStart_bounds low high
  have leap := leapDays_bounds yoe
  obtain ⟨found0, found399, after, before⟩ :=
    yearOfEra_bounds (show 0 ≤ yearStart yoe + doy by omega) (by omega)
  rcases lt_trichotomy (yearOfEra (yearStart yoe + doy)) yoe with earlier | same | later
  · have := yearStart_le found0 earlier high
    omega
  · exact same
  · have := yearStart_le low later found399
    omega

/-! ## Months of a year that starts in March -/

/-- The day `doy` of a year that starts in March lies in month `monthOfYear doy`: on or after its
first day and before the next month's. -/
theorem monthOfYear_bounds {doy : Int} (first : 0 ≤ doy) (last : doy ≤ 365) :
    0 ≤ monthOfYear doy ∧ monthOfYear doy ≤ 11 ∧ monthStart (monthOfYear doy) ≤ doy ∧
      doy < monthStart (monthOfYear doy + 1) := by
  unfold monthOfYear monthStart
  omega

/-- A day of month `mp` is found in that month. -/
theorem monthOfYear_monthStart {mp k : Int} (first : 0 ≤ k)
    (within : k < monthStart (mp + 1) - monthStart mp) : monthOfYear (monthStart mp + k) = mp := by
  unfold monthOfYear monthStart at *
  omega

/-- Every month before February ends by day 337, where February starts. -/
theorem monthStart_succ_le_february {mp : Int} (high : mp ≤ 10) : monthStart (mp + 1) ≤ 337 := by
  unfold monthStart
  omega

theorem marchMonth_bounds {m : Nat} (low : 1 ≤ m) (high : m ≤ 12) :
    0 ≤ marchMonth m ∧ marchMonth m ≤ 11 := by
  unfold marchMonth
  split <;> omega

/-- Month `mp` counted from March is a month of the year, and February exactly when it is the
last. -/
theorem calendarMonth_bounds {mp : Int} (low : 0 ≤ mp) (high : mp ≤ 11) :
    1 ≤ calendarMonth mp ∧ calendarMonth mp ≤ 12 ∧ (calendarMonth mp = 2 ↔ mp = 11) := by
  unfold calendarMonth
  split <;> omega

theorem calendarMonth_marchMonth {m : Nat} (low : 1 ≤ m) (high : m ≤ 12) :
    calendarMonth (marchMonth m) = m := by
  unfold calendarMonth marchMonth
  split <;> split <;> omega

theorem marchMonth_calendarMonth {mp : Int} (low : 0 ≤ mp) (high : mp ≤ 11) :
    marchMonth (calendarMonth mp).toNat = mp := by
  unfold marchMonth calendarMonth
  split <;> split <;> omega

/-- A month other than February has the length the March-based table gives it. -/
theorem daysInMonth_eq_monthStart {m : Nat} (low : 1 ≤ m) (high : m ≤ 12) (notFeb : m ≠ 2)
    (y : Int) :
    (daysInMonth y m : Int) = monthStart (marchMonth m + 1) - monthStart (marchMonth m) := by
  interval_cases m <;> first | exact absurd rfl notFeb | rfl

theorem daysInMonth_feb (y : Int) :
    (daysInMonth y 2 : Int) = 28 + (if isLeap y then 1 else 0) := by
  show ((if isLeap y then 29 else 28 : Nat) : Int) = _
  split <;> rfl

theorem daysInMonth_pos (y : Int) (m : Nat) : 1 ≤ daysInMonth y m := by
  unfold daysInMonth
  split
  · split <;> omega
  all_goals omega

/-! ## Reading a day count -/

/-- Whether year `y`, month `m` and day `d` name a day of the calendar. -/
def IsDate (y : Int) (m d : Nat) : Prop := 1 ≤ m ∧ m ≤ 12 ∧ 1 ≤ d ∧ d ≤ daysInMonth y m

instance (y : Int) (m d : Nat) : Decidable (IsDate y m d) :=
  inferInstanceAs (Decidable (_ ∧ _ ∧ _ ∧ _))

/-- A day count that is era `era`, year `yoe` of it and day `doy` of that year reads as that year,
month and day. -/
theorem civilFromDays_of_parts {z era yoe doy : Int}
    (parts : z + 719468 = era * 146097 + (yearStart yoe + doy)) (low : 0 ≤ yoe) (high : yoe ≤ 399)
    (first : 0 ≤ doy) (within : doy ≤ 364 + leapDays yoe) :
    civilFromDays z = (yoe + era * 400 + (if calendarMonth (monthOfYear doy) ≤ 2 then 1 else 0),
      (calendarMonth (monthOfYear doy)).toNat, (doy - monthStart (monthOfYear doy) + 1).toNat) := by
  have start := yearStart_bounds low high
  have leap := leapDays_bounds yoe
  have eraEq : (z + 719468) / 146097 = era := by omega
  have doeEq : z + 719468 - era * 146097 = yearStart yoe + doy := by omega
  simp only [civilFromDays, eraEq, doeEq, yearOfEra_yearStart low high first within,
    add_sub_cancel_left]

/-- `civilFromDays` finds an era, a year of it and a day of that year, and reads the month and
the day of the month off the day of the year. -/
theorem civilFromDays_eq (z : Int) : ∃ era yoe doy : Int,
    z + 719468 = era * 146097 + (yearStart yoe + doy) ∧ 0 ≤ yoe ∧ yoe ≤ 399 ∧ 0 ≤ doy ∧
      doy ≤ 364 + leapDays yoe ∧
      civilFromDays z = (yoe + era * 400 + (if calendarMonth (monthOfYear doy) ≤ 2 then 1 else 0),
        (calendarMonth (monthOfYear doy)).toNat, (doy - monthStart (monthOfYear doy) + 1).toNat) := by
  obtain ⟨era, eraDef⟩ : ∃ era, (z + 719468) / 146097 = era := ⟨_, rfl⟩
  have doeLow : 0 ≤ z + 719468 - era * 146097 := by omega
  have doeHigh : z + 719468 - era * 146097 ≤ 146096 := by omega
  obtain ⟨yoe0, yoe399, after, before⟩ := yearOfEra_bounds doeLow doeHigh
  refine ⟨era, yearOfEra (z + 719468 - era * 146097),
    z + 719468 - era * 146097 - yearStart (yearOfEra (z + 719468 - era * 146097)), by omega, yoe0,
    yoe399, by omega, by omega, ?_⟩
  exact civilFromDays_of_parts (by omega) yoe0 yoe399 (by omega) (by omega)

theorem civilFromDays_isDate (z : Int) :
    IsDate (civilFromDays z).1 (civilFromDays z).2.1 (civilFromDays z).2.2 := by
  obtain ⟨era, yoe, doy, parts, yoe0, yoe399, doy0, doyLast, found⟩ := civilFromDays_eq z
  have leap := leapDays_bounds yoe
  obtain ⟨mp0, mp11, monthFirst, monthNext⟩ := monthOfYear_bounds doy0 (by omega)
  rw [found]
  dsimp only
  generalize monthOfYear doy = mp at *
  obtain ⟨month1, month12, isFeb⟩ := calendarMonth_bounds mp0 mp11
  refine ⟨by omega, by omega, by omega, ?_⟩
  by_cases feb : mp = 11
  · -- February: its length is the rest of the year, which ends with the era year's leap day.
    subst feb
    have periodic : isLeap (yoe + era * 400 + 1) = isLeap (yoe + 1) := by
      rw [show yoe + era * 400 + 1 = yoe + 1 + era * 400 by ring, isLeap_add_mul_400]
    show (doy - monthStart 11 + 1).toNat ≤ daysInMonth (yoe + era * 400 + 1) 2
    have length := daysInMonth_feb (yoe + era * 400 + 1)
    rw [periodic] at length
    unfold leapDays at doyLast
    unfold monthStart
    omega
  · have month := daysInMonth_eq_monthStart (m := (calendarMonth mp).toNat) (by omega) (by omega)
      (by omega) (yoe + era * 400 + if calendarMonth mp ≤ 2 then 1 else 0)
    rw [marchMonth_calendarMonth mp0 mp11] at month
    omega

/-! ## Counting the days of a date -/

/-- `daysFromCivil` counts the eras, the years of the era and the days of the year, the year taken
to start in March. -/
theorem daysFromCivil_of_parts {y era yoe : Int} {m d : Nat}
    (year : (if m ≤ 2 then y - 1 else y) = era * 400 + yoe) (low : 0 ≤ yoe) (high : yoe ≤ 399) :
    daysFromCivil y m d + 719468 =
      era * 146097 + (yearStart yoe + (monthStart (marchMonth m) + d - 1)) := by
  unfold daysFromCivil
  dsimp only
  generalize (if m ≤ 2 then y - 1 else y) = y' at year ⊢
  subst year
  have eraEq : (era * 400 + yoe) / 400 = era := by omega
  rw [eraEq, show era * 400 + yoe - era * 400 = yoe by omega]
  omega

/-- `daysFromCivil_of_parts` at the era and year of the era that division finds. -/
theorem daysFromCivil_add_epoch (y : Int) (m d : Nat) :
    daysFromCivil y m d + 719468 = (if m ≤ 2 then y - 1 else y) / 400 * 146097 +
      (yearStart ((if m ≤ 2 then y - 1 else y) % 400) + (monthStart (marchMonth m) + d - 1)) :=
  daysFromCivil_of_parts (Int.ediv_mul_add_emod _ 400).symm (by omega) (by omega)

/-- Reading a day count as a date and counting its days again gives it back. -/
theorem daysFromCivil_civilFromDays (z : Int) :
    daysFromCivil (civilFromDays z).1 (civilFromDays z).2.1 (civilFromDays z).2.2 = z := by
  obtain ⟨era, yoe, doy, parts, yoe0, yoe399, doy0, doyLast, found⟩ := civilFromDays_eq z
  have leap := leapDays_bounds yoe
  obtain ⟨mp0, mp11, monthFirst, monthNext⟩ := monthOfYear_bounds doy0 (by omega)
  rw [found]
  dsimp only
  generalize monthOfYear doy = mp at *
  have year : (if (calendarMonth mp).toNat ≤ 2
      then yoe + era * 400 + (if calendarMonth mp ≤ 2 then 1 else 0) - 1
      else yoe + era * 400 + (if calendarMonth mp ≤ 2 then 1 else 0)) = era * 400 + yoe := by
    unfold calendarMonth
    split <;> split <;> split <;> omega
  have counted := daysFromCivil_of_parts (d := (doy - monthStart mp + 1).toNat) year yoe0 yoe399
  rw [marchMonth_calendarMonth mp0 mp11] at counted
  omega

/-- Counting the days of a date and reading the count back gives the date. -/
theorem civilFromDays_daysFromCivil {y : Int} {m d : Nat} (date : IsDate y m d) :
    civilFromDays (daysFromCivil y m d) = (y, m, d) := by
  obtain ⟨m1, m12, d1, dLast⟩ := date
  obtain ⟨mp0, mp11⟩ := marchMonth_bounds m1 m12
  have yoe0 : 0 ≤ (if m ≤ 2 then y - 1 else y) % 400 := by omega
  have yoe399 : (if m ≤ 2 then y - 1 else y) % 400 ≤ 399 := by omega
  have counted := daysFromCivil_add_epoch y m d
  -- The day of the year lies within the year, and within month `marchMonth m`.
  have inMonth : d - 1 < monthStart (marchMonth m + 1) - monthStart (marchMonth m) := by
    by_cases feb : m = 2
    · subst feb
      have := daysInMonth_feb y
      simp only [marchMonth] at *
      unfold monthStart
      split at this <;> omega
    · have := daysInMonth_eq_monthStart m1 m12 feb y
      omega
  have inYear : monthStart (marchMonth m) + d - 1 ≤
      364 + leapDays ((if m ≤ 2 then y - 1 else y) % 400) := by
    by_cases feb : m = 2
    · subst feb
      have length := daysInMonth_feb y
      simp only [marchMonth, leapDays, if_pos (show 2 ≤ 2 by omega), isLeap_succ_mod] at *
      unfold monthStart
      split at length <;> split <;> omega
    · have length := daysInMonth_eq_monthStart m1 m12 feb y
      have before : marchMonth m ≤ 10 := by unfold marchMonth; split <;> omega
      have := monthStart_succ_le_february before
      have := leapDays_bounds ((if m ≤ 2 then y - 1 else y) % 400)
      omega
  have monthFirst : 0 ≤ monthStart (marchMonth m) := by unfold monthStart; omega
  rw [civilFromDays_of_parts (by omega) yoe0 yoe399 (by omega) inYear,
    show monthStart (marchMonth m) + d - 1 = monthStart (marchMonth m) + ((d : Int) - 1) by omega,
    monthOfYear_monthStart (by omega) inMonth, calendarMonth_marchMonth m1 m12]
  have month : ((m : Int)).toNat = m := by omega
  simp only [month, Prod.mk.injEq]
  refine ⟨?_, trivial, by omega⟩
  by_cases winter : m ≤ 2
  · rw [if_pos winter, if_pos (by omega)]
    omega
  · rw [if_neg winter, if_neg (by omega)]
    omega

/-! ## The next day -/

/-- The day after a year, month and day: the next day of the month, else the first of the next
month, else the first of the next year. -/
def nextDay (ymd : Int × Nat × Nat) : Int × Nat × Nat :=
  if ymd.2.2 < daysInMonth ymd.1 ymd.2.1 then (ymd.1, ymd.2.1, ymd.2.2 + 1)
  else if ymd.2.1 < 12 then (ymd.1, ymd.2.1 + 1, 1)
  else (ymd.1 + 1, 1, 1)

theorem nextDay_of_lt {y : Int} {m d : Nat} (inMonth : d < daysInMonth y m) :
    nextDay (y, m, d) = (y, m, d + 1) := by
  simp [nextDay, inMonth]

theorem nextDay_of_lastDay {y : Int} {m d : Nat} (last : ¬ d < daysInMonth y m) (inYear : m < 12) :
    nextDay (y, m, d) = (y, m + 1, 1) := by
  simp [nextDay, last, inYear]

theorem nextDay_of_lastMonth {y : Int} {m d : Nat} (last : ¬ d < daysInMonth y m)
    (dec : ¬ m < 12) : nextDay (y, m, d) = (y + 1, 1, 1) := by
  simp [nextDay, last, dec]

theorem nextDay_isDate {y : Int} {m d : Nat} (date : IsDate y m d) :
    IsDate (nextDay (y, m, d)).1 (nextDay (y, m, d)).2.1 (nextDay (y, m, d)).2.2 := by
  obtain ⟨m1, m12, d1, dLast⟩ := date
  by_cases inMonth : d < daysInMonth y m
  · rw [nextDay_of_lt inMonth]
    dsimp only
    exact ⟨m1, m12, by omega, by omega⟩
  by_cases inYear : m < 12
  · rw [nextDay_of_lastDay inMonth inYear]
    dsimp only
    exact ⟨by omega, by omega, le_refl 1, daysInMonth_pos y (m + 1)⟩
  · rw [nextDay_of_lastMonth inMonth inYear]
    dsimp only
    exact ⟨le_refl 1, by omega, le_refl 1, daysInMonth_pos (y + 1) 1⟩

/-- From the last of February to the first of March the year that starts in March moves on, past
the leap day when year `y` has one; at the end of an era it moves on to the next era. -/
theorem daysFromCivil_march_first (y : Int) :
    daysFromCivil y 3 1 = daysFromCivil y 2 (daysInMonth y 2) + 1 := by
  have feb := daysFromCivil_add_epoch y 2 (daysInMonth y 2)
  have length := daysInMonth_feb y
  have febStart : monthStart (marchMonth 2) = 337 := by decide
  rw [febStart, if_pos (by omega)] at feb
  have marchStart : monthStart (marchMonth 3) = 0 := by decide
  by_cases lastOfEra : (y - 1) % 400 = 399
  · have leap : isLeap y = true := by
      unfold isLeap
      simp only [decide_eq_true_eq]
      omega
    have march := daysFromCivil_of_parts (m := 3) (d := 1)
      (show (if 3 ≤ 2 then y - 1 else y) = ((y - 1) / 400 + 1) * 400 + 0 by
        rw [if_neg (by omega)]
        omega) (le_refl 0) (by omega)
    have start399 : yearStart 399 = 145731 := by decide
    have start0 : yearStart 0 = 0 := by decide
    rw [lastOfEra, start399] at feb
    rw [marchStart, start0] at march
    rw [leap, if_pos rfl] at length
    omega
  · have march := daysFromCivil_of_parts (m := 3) (d := 1)
      (show (if 3 ≤ 2 then y - 1 else y) = (y - 1) / 400 * 400 + ((y - 1) % 400 + 1) by
        rw [if_neg (by omega)]
        omega) (by omega) (by omega)
    have succ := yearStart_succ (k := (y - 1) % 400) (by omega) (by omega)
    unfold leapDays at succ
    rw [isLeap_succ_mod] at succ
    rw [marchStart] at march
    -- Settle the leap year first: omega does not see through an `if` in a hypothesis.
    cases leapYear : isLeap y <;> simp only [leapYear, Bool.false_eq_true, if_false, if_true]
      at length succ <;> omega

/-- From December 31 to January 1 the year that starts in March goes on. -/
theorem daysFromCivil_january_first (y : Int) :
    daysFromCivil (y + 1) 1 1 = daysFromCivil y 12 31 + 1 := by
  have dec := daysFromCivil_add_epoch y 12 31
  have jan := daysFromCivil_of_parts (y := y + 1) (m := 1) (d := 1)
    (show (if 1 ≤ 2 then y + 1 - 1 else y + 1) = y / 400 * 400 + y % 400 by
      rw [if_pos (by omega)]
      omega) (by omega) (by omega)
  have decStart : monthStart (marchMonth 12) = 275 := by decide
  have janStart : monthStart (marchMonth 1) = 306 := by decide
  rw [decStart, if_neg (by omega)] at dec
  rw [janStart] at jan
  omega

/-- The day after a date is counted one day later. -/
theorem daysFromCivil_nextDay {y : Int} {m d : Nat} (date : IsDate y m d) :
    daysFromCivil (nextDay (y, m, d)).1 (nextDay (y, m, d)).2.1 (nextDay (y, m, d)).2.2 =
      daysFromCivil y m d + 1 := by
  obtain ⟨m1, m12, d1, dLast⟩ := date
  have here := daysFromCivil_add_epoch y m d
  by_cases inMonth : d < daysInMonth y m
  · rw [nextDay_of_lt inMonth]
    have next := daysFromCivil_add_epoch y m (d + 1)
    push_cast at next
    dsimp only
    omega
  obtain rfl : d = daysInMonth y m := by omega
  by_cases inYear : m < 12
  · rw [nextDay_of_lastDay inMonth inYear]
    dsimp only
    by_cases feb : m = 2
    · subst feb
      exact daysFromCivil_march_first y
    · -- Within the year that starts in March, the next month starts after this one's days.
      have sameYear : (if m + 1 ≤ 2 then y - 1 else y) = (if m ≤ 2 then y - 1 else y) := by
        split <;> split <;> omega
      have next := daysFromCivil_add_epoch y (m + 1) 1
      rw [sameYear] at next
      have march : marchMonth (m + 1) = marchMonth m + 1 := by
        unfold marchMonth
        split <;> split <;> omega
      have length := daysInMonth_eq_monthStart m1 m12 feb y
      rw [march] at next
      omega
  · rw [nextDay_of_lastMonth inMonth inYear]
    obtain rfl : m = 12 := by omega
    exact daysFromCivil_january_first y

/-- One day more is the next day of the calendar. -/
theorem civilFromDays_succ (z : Int) : civilFromDays (z + 1) = nextDay (civilFromDays z) := by
  have date := civilFromDays_isDate z
  have counted := daysFromCivil_nextDay date
  rw [daysFromCivil_civilFromDays] at counted
  rw [← counted, civilFromDays_daysFromCivil (nextDay_isDate date)]

/-- `n` days more are `n` days of the calendar later. -/
theorem civilFromDays_add (z : Int) (n : Nat) :
    civilFromDays (z + n) = nextDay^[n] (civilFromDays z) := by
  induction n with
  | zero => simp
  | succ n ih =>
    rw [Function.iterate_succ_apply', ← ih, ← civilFromDays_succ]
    push_cast
    rw [Int.add_assoc]

end Calendar

namespace Date

open Calendar

theorem ofYmd?_of_isDate {y : Int} {m day : Nat} (date : IsDate y m day) :
    ofYmd? y m day = ofDays? (daysFromCivil y m day) :=
  if_pos date

/-- A date is named by its own year, month and day and by no other. -/
theorem ofYmd?_eq_some_iff {y : Int} {m day : Nat} {d : Date} :
    ofYmd? y m day = some d ↔ d.ymd = (y, m, day) := by
  constructor
  · intro made
    unfold ofYmd? at made
    split at made
    · rename_i date
      unfold ofDays? at made
      split at made
      · cases made
        exact civilFromDays_daysFromCivil date
      · cases made
    · cases made
  · intro named
    have date := civilFromDays_isDate d.days
    have counted := daysFromCivil_civilFromDays d.days
    rw [show civilFromDays d.days = d.ymd from rfl, named] at date counted
    rw [ofYmd?_of_isDate date, counted]
    exact dif_pos d.inRange

/-- A date's day count is the number of days from 1970-01-01 to it: counted forward from
1970-01-01 when it is not negative, and from the date to 1970-01-01 when it is. -/
theorem iterate_nextDay_days (d : Date) :
    nextDay^[d.days.toNat] (1970, 1, 1) = nextDay^[(-d.days).toNat] d.ymd := by
  have epoch : civilFromDays 0 = (1970, 1, 1) := by decide
  rw [← epoch, ymd, ← civilFromDays_add, ← civilFromDays_add]
  congr 1
  omega

end Date

end NativeBlock
