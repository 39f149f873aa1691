import NativeBlock.Proofs.CalendarDays
import NativeBlock.Proofs.DecimalColumn

/-!
# Date columns

A `Date` column stores a date as its day count from 1970-01-01 in an unsigned 16-bit word, a
`Date32` column as a signed 32-bit word. The calendar runs from -262143-01-01 to +262142-12-31,
far within a 32-bit count and past both ends of a 16-bit one (`days_bounds`). So a `Date` column
holds exactly the dates from 1970-01-01 to 2149-06-06 and reads every slot as a date, while a
`Date32` column holds every date and reads exactly the slots whose count the calendar has. Either
reads back the date it wrote.
-/

namespace NativeBlock

open Calendar Wire

namespace Calendar

/-- The calendar lies within a signed 32-bit day count and holds every unsigned 16-bit one. -/
theorem days_bounds : -2147483648 ≤ minDays ∧ minDays ≤ 0 ∧ 65535 ≤ maxDays ∧ maxDays < 2147483648 := by
  decide

end Calendar

namespace Date

theorem ofDays?_eq_some_iff {n : Int} {d : Date} : ofDays? n = some d ↔ d.days = n := by
  unfold ofDays?
  constructor
  · intro made
    split at made
    · cases made
      rfl
    · cases made
  · rintro rfl
    exact dif_pos d.inRange

end Date

namespace Codec

/-- A day count reads as the date it counts, and as nothing else. -/
theorem dateOfDays_eq_ok_iff {n : Int} {d : Date} : dateOfDays n = .ok d ↔ d.days = n := by
  rw [← Date.ofDays?_eq_some_iff]
  cases counted : Date.ofDays? n with
  | none => simp [dateOfDays, counted]
  | some d' => simp [dateOfDays, counted]

/-- A slot inside the buffer reads as its bytes do, and the position moves past it. -/
theorem slot_eq_ok_iff {α : Type} {data : ByteArray} {width pos p : Nat}
    {f : List UInt8 → Except Error α} {v : α} (inside : pos + width ≤ data.size) :
    slot data width f pos = .ok v p ↔
      f (data.extract pos (pos + width)).toList = .ok v ∧ p = pos + width := by
  unfold slot
  rw [if_pos inside]
  cases f (data.extract pos (pos + width)).toList with
  | ok v' =>
    simp only [EStateM.Result.ok.injEq, Except.ok.injEq]
    constructor <;> (rintro ⟨rfl, rfl⟩; exact ⟨rfl, rfl⟩)
  | error e => simp

/-- A slot read as a day count gives the date it counts. -/
theorem slot_dateOfDays_eq_ok_iff {data : ByteArray} {width pos p : Nat} (days : List UInt8 → Int)
    {d : Date} (inside : pos + width ≤ data.size) :
    slot data width (fun bs => dateOfDays (days bs)) pos = .ok d p ↔
      d.days = days (data.extract pos (pos + width)).toList ∧ p = pos + width := by
  rw [slot_eq_ok_iff inside, dateOfDays_eq_ok_iff]

theorem length_extract_toList (data : ByteArray) {pos width : Nat} (inside : pos + width ≤ data.size) :
    (data.extract pos (pos + width)).toList.length = width := by
  rw [toList_eq_data_toList, Array.length_toList, ByteArray.size_data, ByteArray.size_extract]
  omega

variable {data : ByteArray} {pos : Nat}

theorem decode_date_eq_ok_iff {d : Date} {p : Nat} (inside : pos + 2 ≤ data.size) :
    decode .date data pos = .ok d p ↔
      d.days = decodeLE (data.extract pos (pos + 2)).toList ∧ p = pos + 2 :=
  slot_dateOfDays_eq_ok_iff (fun bs => decodeLE bs) inside

theorem decode_date32_eq_ok_iff {d : Date} {p : Nat} (inside : pos + 4 ≤ data.size) :
    decode .date32 data pos = .ok d p ↔
      d.days = toSigned 4 (decodeLE (data.extract pos (pos + 4)).toList) ∧ p = pos + 4 :=
  slot_dateOfDays_eq_ok_iff (fun bs => toSigned 4 (decodeLE bs)) inside

/-- Every slot of a `Date` column reads as the date its word counts. -/
theorem decode_date_ok (inside : pos + 2 ≤ data.size) :
    ∃ d, decode .date data pos = .ok d (pos + 2) ∧
      d.days = decodeLE (data.extract pos (pos + 2)).toList := by
  have below := decodeLE_lt (data.extract pos (pos + 2)).toList
  rw [length_extract_toList data inside] at below
  obtain ⟨-, low, high, -⟩ := days_bounds
  refine ⟨⟨decodeLE (data.extract pos (pos + 2)).toList, by omega⟩, ?_, rfl⟩
  exact (decode_date_eq_ok_iff inside).2 ⟨rfl, rfl⟩

/-- A slot of a `Date32` column reads as a date exactly when the calendar has the day its signed
word counts. -/
theorem decode_date32_ok_iff (inside : pos + 4 ≤ data.size) :
    (∃ d p, decode .date32 data pos = .ok d p) ↔
      minDays ≤ toSigned 4 (decodeLE (data.extract pos (pos + 4)).toList) ∧
        toSigned 4 (decodeLE (data.extract pos (pos + 4)).toList) ≤ maxDays := by
  constructor
  · rintro ⟨d, p, read⟩
    obtain ⟨counted, -⟩ := (decode_date32_eq_ok_iff inside).1 read
    rw [← counted]
    exact d.inRange
  · intro range
    exact ⟨⟨_, range⟩, pos + 4, (decode_date32_eq_ok_iff inside).2 ⟨rfl, rfl⟩⟩

/-- A `Date` column writes a date exactly when it falls on day 0 to 65535, as the word of its
day count. -/
theorem encode_date_eq_ok_iff {d : Date} {bytes : ByteArray} :
    encode .date d = .ok bytes ↔ (0 ≤ d.days ∧ d.days ≤ 65535) ∧ bytes = word 2 d.days.toNat := by
  dsimp only [encode]
  by_cases range : 0 ≤ d.days ∧ d.days < 65536
  · rw [if_pos range]
    simp only [Except.ok.injEq]
    constructor
    · rintro rfl
      exact ⟨⟨range.1, by omega⟩, rfl⟩
    · rintro ⟨-, rfl⟩
      rfl
  · rw [if_neg range]
    simp only [reduceCtorEq, false_iff, not_and]
    intro inside
    exact absurd ⟨inside.1, by omega⟩ range

/-- A `Date32` column writes every date, as the two's-complement word of its day count. -/
theorem encode_date32 (d : Date) : encode .date32 d = .ok (word 4 (ofSigned 4 d.days)) := by
  obtain ⟨low, -, -, high⟩ := days_bounds
  have := d.inRange
  dsimp only [encode]
  rw [if_pos (by omega)]

/-- A date written to a `Date` column reads back as itself, wherever its slot stands. -/
theorem decode_encode_date {d : Date} {bytes : ByteArray} (encoded : encode .date d = .ok bytes)
    (placed : Placed data pos bytes) : decode .date data pos = .ok d (pos + 2) := by
  obtain ⟨-, rfl⟩ := encode_date_eq_ok_iff.1 encoded
  obtain ⟨d', read, kept⟩ := decode_encode encoded placed (by rw [size_word]; decide) trivial
  rw [size_word] at read
  rwa [show d' = d from kept] at read

/-- A date written to a `Date32` column reads back as itself, wherever its slot stands. -/
theorem decode_encode_date32 {d : Date} (placed : Placed data pos (word 4 (ofSigned 4 d.days))) :
    decode .date32 data pos = .ok d (pos + 4) := by
  obtain ⟨d', read, kept⟩ :=
    decode_encode (encode_date32 d) placed (by rw [size_word]; decide) trivial
  rw [size_word] at read
  rwa [show d' = d from kept] at read

/-- Date columns hold exactly their ranges and read back what they hold.

A date's day count is the number of days from 1970-01-01 to it, and its year, month and day name
it and nothing else; 0001-01-01 is day 1 of the common era, so day `n` is its day `n + 719163`. A
`Date` column writes exactly the days 0 to 65535, from 1970-01-01 to 2149-06-06, and reads every
2-byte slot; a `Date32` column writes every date, and reads a 4-byte slot exactly when the
calendar has its day. Each reads back the date it wrote. -/
theorem date_columns_hold_their_ranges :
    (∀ d : Date, nextDay^[d.days.toNat] (1970, 1, 1) = nextDay^[(-d.days).toNat] d.ymd) ∧
    (∀ (d : Date) y m day, Date.ofYmd? y m day = some d ↔ d.ymd = (y, m, day)) ∧
    (Date.ofYmd? 1 1 1).map (fun d => d.days + 719163) = some 1 ∧
    (∀ (n : Int) (d : Date), dateOfDays n = .ok d ↔ d.days = n) ∧
    (∀ d : Date, (∃ bytes, encode .date d = .ok bytes) ↔ 0 ≤ d.days ∧ d.days ≤ 65535) ∧
    (Date.ofYmd? 1970 1 1).map Date.days = some 0 ∧
    (Date.ofYmd? 2149 6 6).map Date.days = some 65535 ∧
    (∀ d : Date, ∃ bytes, encode .date32 d = .ok bytes) ∧
    (∀ (data : ByteArray) pos, pos + 2 ≤ data.size → ∃ d, decode .date data pos = .ok d (pos + 2)) ∧
    (∀ (data : ByteArray) pos, pos + 4 ≤ data.size →
      ((∃ d p, decode .date32 data pos = .ok d p) ↔
        minDays ≤ toSigned 4 (decodeLE (data.extract pos (pos + 4)).toList) ∧
          toSigned 4 (decodeLE (data.extract pos (pos + 4)).toList) ≤ maxDays)) ∧
    (∀ (d : Date) bytes (data : ByteArray) pos, encode .date d = .ok bytes →
      Placed data pos bytes → decode .date data pos = .ok d (pos + 2)) ∧
    (∀ (d : Date) bytes (data : ByteArray) pos, encode .date32 d = .ok bytes →
      Placed data pos bytes → decode .date32 data pos = .ok d (pos + 4)) := by
  refine ⟨Date.iterate_nextDay_days, fun d _ _ _ => Date.ofYmd?_eq_some_iff, by decide,
    fun _ _ => dateOfDays_eq_ok_iff, fun d => ?_, by decide, by decide,
    fun d => ⟨_, encode_date32 d⟩, fun _ _ inside => (decode_date_ok inside).imp fun _ => And.left,
    fun _ _ => decode_date32_ok_iff, fun _ _ _ _ => decode_encode_date, ?_⟩
  · constructor
    · rintro ⟨bytes, encoded⟩
      exact (encode_date_eq_ok_iff.1 encoded).1
    · intro range
      exact ⟨_, encode_date_eq_ok_iff.2 ⟨range, rfl⟩⟩
  · intro d bytes data pos encoded placed
    rw [encode_date32, Except.ok.injEq] at encoded
    subst encoded
    exact decode_encode_date32 placed

end Codec

end NativeBlock
