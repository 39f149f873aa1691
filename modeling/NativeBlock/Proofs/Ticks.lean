import NativeBlock.Proofs.Values

/-!
# Instants and ticks, both ways

Reading a `DateTime64(S)` tick count splits it with floor division into whole seconds and the
ticks left over (`ofTicks_eq_ok`); writing an instant counts its seconds' ticks, then adds the
whole ticks of its nanoseconds, and refuses the instant when the seconds' ticks or the total
leave 64 bits (`toTicks_eq_ok_iff`). The count written is the instant's nanoseconds since the
epoch divided down to ticks with the floor, leap seconds included (`ticks_eq_floor`).

So a count read as an instant writes back as itself exactly when the instant's whole seconds,
counted in ticks, stay within 64 bits (`toTicks_ofTicks_iff`). After 1970 they always do; before
it they lie below the count, and for the least counts they leave 64 bits although the count
itself does not (`toTicks_least_overflows`). The other way, an instant that is written reads
back truncated to whole ticks (`ticks_round_trip_exact`).
-/

namespace NativeBlock.Instant

variable {s : Nat} {t : Int} {i : Instant}

/-- Reading ticks splits them with floor division: whole seconds, and the ticks left over as
nanoseconds. -/
theorem ofTicks_eq_ok (le : s ≤ 9) (run : ofTicks t s = .ok i) :
    i.secs = t / 10 ^ s ∧ (i.nanos : Int) = t % 10 ^ s * ((10 ^ (9 - s) : Nat) : Int) := by
  obtain ⟨perTick, -⟩ := nanosPerTick le
  unfold ofTicks at run
  rw [ticksPerSecond_eq le] at run
  simp only [bind, Except.bind, perTick] at run
  split at run
  · rename_i i' made
    cases run
    unfold ofParts? at made
    split at made
    · cases made
      refine ⟨rfl, Int.toNat_of_nonneg (Int.mul_nonneg ?_ (Int.natCast_nonneg _))⟩
      exact Int.emod_nonneg _ (Int.ne_of_gt (Int.pow_pos (by decide)))
    · cases made
  · cases run

/-- Writing an instant counts its whole seconds' ticks and the whole ticks of its nanoseconds; it
refuses the instant when either the seconds' ticks or the total leave 64 bits. -/
theorem toTicks_eq_ok_iff (le : s ≤ 9) :
    i.toTicks s = .ok t ↔ t = i.secs * 10 ^ s + ((i.nanos / 10 ^ (9 - s) : Nat) : Int) ∧
      minTicks ≤ i.secs * 10 ^ s ∧ t ≤ maxTicks := by
  obtain ⟨perTick, -⟩ := nanosPerTick le
  unfold toTicks
  rw [ticksPerSecond_eq le]
  simp only [bind, Except.bind, perTick, Int.toNat_natCast]
  have fractionNonneg : (0 : Int) ≤ ((i.nanos / 10 ^ (9 - s) : Nat) : Int) := Int.natCast_nonneg _
  split
  · rename_i outside
    simp only [reduceCtorEq, false_iff]
    rintro ⟨rfl, low, high⟩
    omega
  · rename_i inside
    simp only [pure, Except.pure, Except.ok.injEq]
    omega

/-- A tick lasts a positive number of nanoseconds. -/
theorem tickNanos_pos (s : Nat) : (0 : Int) < ((10 ^ (9 - s) : Nat) : Int) :=
  Int.natCast_pos.mpr (Nat.pow_pos (by decide))

/-- The ticks written are the instant's nanoseconds since the epoch divided down to ticks, with
the floor. -/
theorem ticks_eq_floor (le : s ≤ 9) (i : Instant) :
    i.secs * 10 ^ s + ((i.nanos / 10 ^ (9 - s) : Nat) : Int) =
      (i.secs * 1000000000 + i.nanos) / ((10 ^ (9 - s) : Nat) : Int) := by
  obtain ⟨-, second⟩ := nanosPerTick le
  have positive := tickNanos_pos s
  rw [← second, ← Int.mul_assoc, Int.add_comm (i.secs * 10 ^ s * _),
    Int.add_mul_ediv_right _ _ (Int.ne_of_gt positive), ← Int.natCast_ediv, Int.add_comm]

/-- A tick count read as an instant writes back as itself exactly when the instant's whole
seconds, counted in ticks, are within 64 bits; before 1970 they lie below the count itself. -/
theorem toTicks_ofTicks_iff (le : s ≤ 9) (high : t ≤ maxTicks) (run : ofTicks t s = .ok i) :
    i.toTicks s = .ok t ↔ minTicks ≤ i.secs * 10 ^ s := by
  obtain ⟨secs, nanos⟩ := ofTicks_eq_ok le run
  have positive := tickNanos_pos s
  -- The whole ticks of the nanoseconds are the ticks the floor division left over.
  have fraction : ((i.nanos / 10 ^ (9 - s) : Nat) : Int) = t % 10 ^ s := by
    rw [Int.natCast_ediv, nanos, Int.mul_ediv_cancel _ (Int.ne_of_gt positive)]
  have whole : i.secs * 10 ^ s + t % 10 ^ s = t := by
    rw [secs, Int.mul_comm]
    exact Int.mul_ediv_add_emod t (10 ^ s)
  rw [toTicks_eq_ok_iff le, fraction, whole]
  simp [high]

/-- At every scale up to 9: writing an instant gives the floor of its nanoseconds in ticks,
whenever its seconds' ticks and that count are 64-bit words; a count read as an instant writes
back as itself exactly when the instant's seconds' ticks are a 64-bit word; and an instant
outside a leap second that is written reads back truncated to whole ticks. -/
theorem ticks_round_trip_exact (le : s ≤ 9) :
    (∀ (i : Instant) (t : Int), i.toTicks s = .ok t ↔
      t = (i.secs * 1000000000 + i.nanos) / ((10 ^ (9 - s) : Nat) : Int) ∧
        minTicks ≤ i.secs * 10 ^ s ∧ t ≤ maxTicks) ∧
    (∀ (t : Int) (i : Instant), t ≤ maxTicks → ofTicks t s = .ok i →
      (i.toTicks s = .ok t ↔ minTicks ≤ i.secs * 10 ^ s)) ∧
    (∀ (i : Instant) (t : Int), i.nanos < 1000000000 → i.toTicks s = .ok t →
      ∃ i', ofTicks t s = .ok i' ∧ i'.secs = i.secs ∧
        i'.nanos = i.nanos / 10 ^ (9 - s) * 10 ^ (9 - s)) :=
  ⟨fun i _ => by rw [toTicks_eq_ok_iff le, ticks_eq_floor le i],
    fun _ _ high run => toTicks_ofTicks_iff le high run,
    fun _ _ notLeap run => (ofTicks_toTicks le notLeap run).2.2⟩

/-- The tick before the epoch at millisecond scale reads as the last millisecond of 1969 and
writes back as itself. -/
theorem toTicks_ofTicks_minus_one :
    ∃ i, ofTicks (-1) 3 = .ok i ∧ i.secs = -1 ∧ i.nanos = 999000000 ∧ i.toTicks 3 = .ok (-1) := by
  have read : ofTicks (-1) 3 = .ok ⟨-1, 999000000, by decide⟩ := by rfl
  refine ⟨_, read, rfl, rfl, ?_⟩
  exact ((ticks_round_trip_exact (by decide)).2.1 (-1) _ (by decide) read).mpr (by decide)

/-- The least tick count at nanosecond scale reads as an instant of 1677 whose seconds, counted in
nanoseconds, fall below 64 bits, so writing it back fails. -/
theorem toTicks_least_overflows :
    ∃ i, ofTicks minTicks 9 = .ok i ∧ i.secs * 10 ^ 9 < minTicks ∧ ∃ e, i.toTicks 9 = .error e :=
  ⟨⟨-9223372037, 145224192, by decide⟩, by rfl, by decide, _, rfl⟩

end NativeBlock.Instant
