import NativeBlock.Proofs.Wire

/-!
# The grammar of a varint

`readUVarint` accepts exactly the bytes of one varint and nothing else. The bytes it accepts
(`VarintGroups`) have their high bit set on every byte but the last, which has it clear; there
are at most ten, and a tenth byte carries only the one bit that is left of 64. The number read is
`groupsValue`, the sum of the seven-bit groups at their places.

* `readUVarint_eq_ok_iff`: reading at a position succeeds exactly when such bytes stand there, and
  then gives their value and moves past them.
* `groupsValue_lt`, `uvarintLen_groupsValue_le`: the value fits 64 bits, and its own varint is
  no longer than the bytes read.
* `eq_writeUVarint_iff`: the bytes read are the value's own varint exactly when they are as
  short as it; longer ones (`0x80 0x00` for zero) are accepted too.
* `uvarint_reads_its_grammar` puts these together with the writer and the length-prefixed
  payloads built on it.
-/

namespace NativeBlock

namespace Placed

/-- Bytes placed one after the other are placed together. -/
theorem append {data a b : ByteArray} {pos : Nat} (first : Placed data pos a)
    (second : Placed data (pos + a.size) b) : Placed data pos (a ++ b) := by
  obtain ⟨reachA, sameA⟩ := first
  obtain ⟨reachB, sameB⟩ := second
  refine ⟨by rw [ByteArray.size_append]; omega, ?_⟩
  rw [ByteArray.size_append, ← Nat.add_assoc,
    ByteArray.extract_eq_extract_append_extract (pos + a.size) (by omega) (by omega), sameA, sameB]

/-- A list of bytes stands at a position when its first byte is there and the rest after it. -/
theorem cons_iff {data : ByteArray} {pos : Nat} {b : UInt8} {gs : List UInt8} :
    Placed data pos (b :: gs).toByteArray ↔
      data[pos]? = some b ∧ Placed data (pos + 1) gs.toByteArray := by
  have split : (b :: gs).toByteArray = [b].toByteArray ++ gs.toByteArray := by
    rw [← List.toByteArray_append, List.singleton_append]
  rw [split]
  constructor
  · intro placed
    refine ⟨by simpa using placed.left.getElem? (i := 0) (by simp), ?_⟩
    simpa using placed.right
  · rintro ⟨byte, rest⟩
    have inside : pos < data.size := (getElem?_eq_some_iff.mp byte).1
    have first : Placed data pos [b].toByteArray := by
      refine ⟨by simp; omega, ?_⟩
      rw [List.size_toByteArray, List.length_singleton, ByteArray.extract_add_one (by omega)]
      rw [getElem?_pos data pos inside] at byte
      rw [Option.some.inj byte]
    exact first.append (by simpa using rest)

/-- The first of the bytes placed at a position is the buffer's byte there. -/
theorem head_eq {data : ByteArray} {pos : Nat} {b b' : UInt8} {gs : List UInt8}
    (placed : Placed data pos (b' :: gs).toByteArray) (byte : data[pos]? = some b) : b' = b := by
  have first := (cons_iff.mp placed).1
  rw [byte] at first
  exact (Option.some.inj first).symm

end Placed

namespace Wire

/-- The number that varint groups stand for, `Σ (bᵢ mod 128) · 2^(7i)`, lowest group first. -/
def groupsValue : List UInt8 → Nat
  | [] => 0
  | b :: bs => b.toNat % 128 + 128 * groupsValue bs

/-- `gs` are a varint's bytes from its `i`-th group on, as the reader accepts them: every byte
but the last has its high bit set and the last has it clear, no group lies past the tenth, and a
tenth group carries only the one bit that is left of 64. -/
def VarintGroups (i : Nat) (gs : List UInt8) : Prop :=
  ∃ init last, gs = init ++ [last] ∧ (∀ b ∈ init, 128 ≤ b.toNat) ∧ last.toNat < 128 ∧
    i + gs.length ≤ maxVarintLen ∧ (i + gs.length = maxVarintLen → last.toNat ≤ 1)

/-! ## The groups one byte at a time -/

theorem VarintGroups.ne_nil {i : Nat} {gs : List UInt8} (groups : VarintGroups i gs) : gs ≠ [] := by
  obtain ⟨init, last, rfl, -⟩ := groups
  simp

theorem varintGroups_singleton {i : Nat} {b : UInt8} :
    VarintGroups i [b] ↔ b.toNat < 128 ∧ i < maxVarintLen ∧ (i + 1 = maxVarintLen → b.toNat ≤ 1) := by
  constructor
  · rintro ⟨init, last, split, -, low, short, tenth⟩
    obtain ⟨rfl, same⟩ := List.append_eq_singleton_iff.mp split.symm |>.resolve_right (by simp)
    obtain rfl := List.singleton_inj.mp same
    exact ⟨low, short, tenth⟩
  · rintro ⟨low, short, tenth⟩
    exact ⟨[], b, rfl, by simp, low, short, tenth⟩

/-- A byte followed by more groups continues the varint: its high bit is set. -/
theorem varintGroups_cons_cons {i : Nat} {b c : UInt8} {gs : List UInt8} :
    VarintGroups i (b :: c :: gs) ↔ 128 ≤ b.toNat ∧ VarintGroups (i + 1) (c :: gs) := by
  constructor
  · rintro ⟨init, last, split, high, low, short, tenth⟩
    rcases List.cons_eq_append_iff.mp split with ⟨rfl, same⟩ | ⟨init', rfl, rest⟩
    · simp at same
    · refine ⟨high b (by simp), init', last, rest, fun a mem => high a (by simp [mem]), low, ?_, ?_⟩
      · simp only [List.length_cons] at short ⊢
        omega
      · intro ten
        exact tenth (by simp only [List.length_cons] at ten ⊢; omega)
  · rintro ⟨high, init, last, split, highs, low, short, tenth⟩
    refine ⟨b :: init, last, by rw [split, List.cons_append], ?_, low, ?_, ?_⟩
    · intro a mem
      rcases List.mem_cons.mp mem with rfl | mem
      · exact high
      · exact highs a mem
    · simp only [List.length_cons] at short ⊢
      omega
    · intro ten
      exact tenth (by simp only [List.length_cons] at ten ⊢; omega)

/-- Groups placed at a position start with the byte there. -/
theorem VarintGroups.eq_cons_of_placed {data : ByteArray} {pos i : Nat} {gs : List UInt8}
    {b : UInt8} (groups : VarintGroups i gs) (placed : Placed data pos gs.toByteArray)
    (byte : data[pos]? = some b) : ∃ rest, gs = b :: rest := by
  obtain ⟨b', rest, rfl⟩ := List.exists_cons_of_ne_nil groups.ne_nil
  obtain rfl := placed.head_eq byte
  exact ⟨rest, rfl⟩

/-- Adding a group to the lower sum moves the place of the groups after it up by seven bits. -/
theorem groupsValue_cons_shift (acc i : Nat) (b : UInt8) (gs : List UInt8) :
    acc + b.toNat % 128 * Nat.pow 2 (7 * i) + groupsValue gs * 2 ^ (7 * (i + 1)) =
      acc + groupsValue (b :: gs) * 2 ^ (7 * i) := by
  simp only [groupsValue, Nat.pow_eq, Nat.mul_succ, Nat.pow_add]
  ring

/-! ## Reading -/

/-- The group reader, from its `i`-th group on, succeeds exactly when the bytes at its position
are the rest of a varint; it adds their groups at their places and moves past them. -/
theorem readGroups_eq_ok_iff (data : ByteArray) (i acc pos v p : Nat) :
    i < maxVarintLen →
      (readGroups data i acc pos = .ok v p ↔ ∃ gs, Placed data pos gs.toByteArray ∧
        VarintGroups i gs ∧ v = acc + groupsValue gs * 2 ^ (7 * i) ∧ p = pos + gs.length) := by
  fun_induction readGroups data i acc pos with
  | case1 i acc pos missing =>
    intro _
    simp only [reduceCtorEq, false_iff, not_exists, not_and]
    intro gs placed groups
    obtain ⟨b, rest, rfl⟩ := List.exists_cons_of_ne_nil groups.ne_nil
    rw [(Placed.cons_iff.mp placed).1] at missing
    cases missing
  | case2 i acc pos b byte lo overflow =>
    intro _
    simp only [reduceCtorEq, false_iff, not_exists, not_and]
    intro gs placed groups
    obtain ⟨rest, rfl⟩ := groups.eq_cons_of_placed placed byte
    obtain ⟨ten, big⟩ := overflow
    cases rest with
    | nil =>
      obtain ⟨low, -, tenth⟩ := varintGroups_singleton.mp groups
      have small := tenth ten
      omega
    | cons c rest =>
      obtain ⟨-, _, _, -, -, -, short, -⟩ := varintGroups_cons_cons.mp groups
      simp only [List.length_cons] at short
      omega
  | case3 i acc pos b byte lo fine acc' last =>
    intro early
    have fine' : ¬(i + 1 = maxVarintLen ∧ (128 ≤ b.toNat ∨ 1 < b.toNat % 128)) := fine
    simp only [EStateM.Result.ok.injEq]
    constructor
    · rintro ⟨rfl, rfl⟩
      have inside : pos < data.size := (getElem?_eq_some_iff.mp byte).1
      refine ⟨[b], Placed.cons_iff.mpr ⟨byte, ?_⟩, ?_, ?_, rfl⟩
      · exact ⟨by simp; omega, by simp [ByteArray.extract_same]⟩
      · refine varintGroups_singleton.mpr ⟨last, early, fun ten => ?_⟩
        exact Nat.le_of_not_lt fun big => fine' ⟨ten, Or.inr (by omega)⟩
      · simp [groupsValue, acc', lo, Nat.pow_eq]
    · rintro ⟨gs, placed, groups, rfl, rfl⟩
      obtain ⟨rest, rfl⟩ := groups.eq_cons_of_placed placed byte
      cases rest with
      | nil => simp [groupsValue, acc', lo, Nat.pow_eq]
      | cons c rest =>
        have high := (varintGroups_cons_cons.mp groups).1
        omega
  | case4 i acc pos b byte lo fine acc' more next ih =>
    intro early
    rw [ih next]
    constructor
    · rintro ⟨gs, placed, groups, rfl, rfl⟩
      obtain ⟨c, rest, rfl⟩ := List.exists_cons_of_ne_nil groups.ne_nil
      refine ⟨b :: c :: rest, Placed.cons_iff.mpr ⟨byte, placed⟩,
        varintGroups_cons_cons.mpr ⟨Nat.le_of_not_lt more, groups⟩,
        groupsValue_cons_shift acc i b _, ?_⟩
      simp only [List.length_cons]
      omega
    · rintro ⟨gs, placed, groups, rfl, rfl⟩
      obtain ⟨rest, rfl⟩ := groups.eq_cons_of_placed placed byte
      cases rest with
      | nil =>
        have low := (varintGroups_singleton.mp groups).1
        omega
      | cons c rest =>
        refine ⟨c :: rest, (Placed.cons_iff.mp placed).2, (varintGroups_cons_cons.mp groups).2,
          (groupsValue_cons_shift acc i b _).symm, ?_⟩
        simp only [List.length_cons]
        omega
  | case5 i acc pos b byte lo fine more last =>
    intro early
    have fine' : ¬(i + 1 = maxVarintLen ∧ (128 ≤ b.toNat ∨ 1 < b.toNat % 128)) := fine
    have := fine' ⟨by omega, Or.inl (Nat.le_of_not_lt more)⟩
    contradiction

/-- Reading a varint succeeds exactly when the bytes at the position are one: it then gives
their value and moves past them. -/
theorem readUVarint_eq_ok_iff {data : ByteArray} {pos v p : Nat} :
    readUVarint data pos = .ok v p ↔ ∃ gs, Placed data pos gs.toByteArray ∧ VarintGroups 0 gs ∧
      v = groupsValue gs ∧ p = pos + gs.length := by
  unfold readUVarint
  rw [readGroups_eq_ok_iff data 0 0 pos v p (by decide)]
  simp

/-! ## The value read -/

theorem groupsValue_append (as bs : List UInt8) :
    groupsValue (as ++ bs) = groupsValue as + 128 ^ as.length * groupsValue bs := by
  induction as with
  | nil => simp [groupsValue]
  | cons a as ih =>
    simp only [List.cons_append, groupsValue, ih, List.length_cons, Nat.pow_succ]
    ring

/-- Groups of seven bits stand for less than `128` to the power of their count. -/
theorem groupsValue_lt_pow (gs : List UInt8) : groupsValue gs < 128 ^ gs.length := by
  induction gs with
  | nil => simp [groupsValue]
  | cons b gs ih =>
    rw [groupsValue, List.length_cons, Nat.pow_succ]
    omega

/-- The value of a varint's bytes fits 64 bits: nine full groups and one more bit. -/
theorem groupsValue_lt {gs : List UInt8} (groups : VarintGroups 0 gs) : groupsValue gs < 2 ^ 64 := by
  obtain ⟨init, last, rfl, -, low, short, tenth⟩ := groups
  simp only [List.length_append, List.length_singleton, Nat.zero_add, maxVarintLen] at short tenth
  by_cases ten : init.length + 1 = 10
  · have nine : init.length = 9 := by omega
    have below := groupsValue_lt_pow init
    have bit : last.toNat % 128 ≤ 1 := by
      have := tenth ten
      omega
    rw [groupsValue_append, nine] at *
    simp only [groupsValue, Nat.mul_zero, Nat.add_zero] at *
    have step : 128 ^ 9 * (last.toNat % 128) ≤ 128 ^ 9 := by
      calc 128 ^ 9 * (last.toNat % 128) ≤ 128 ^ 9 * 1 := Nat.mul_le_mul_left _ bit
        _ = 128 ^ 9 := Nat.mul_one _
    omega
  · have below := groupsValue_lt_pow (init ++ [last])
    have powers : 128 ^ (init ++ [last]).length ≤ 128 ^ 9 := by
      apply Nat.pow_le_pow_right (by decide)
      simp only [List.length_append, List.length_singleton]
      omega
    have : (128 : Nat) ^ 9 < 2 ^ 64 := by decide
    omega

/-- The value's own varint is no longer than the bytes it was read from. -/
theorem uvarintLen_groupsValue_le {i : Nat} {gs : List UInt8} (groups : VarintGroups i gs) :
    uvarintLen (groupsValue gs) ≤ gs.length := by
  have nonempty : 0 < gs.length := List.length_pos_iff.mpr groups.ne_nil
  exact (placeCount_le_iff (by decide) uvarintLen.eq_1 nonempty _).mpr (groupsValue_lt_pow gs)

/-- Varint bytes as short as their value's own varint are that varint: the last group is then
the value's highest nonzero one. -/
theorem eq_encodeUVarint {i : Nat} {gs : List UInt8} (groups : VarintGroups i gs)
    (shortest : uvarintLen (groupsValue gs) = gs.length) : gs = encodeUVarint (groupsValue gs) := by
  induction gs generalizing i with
  | nil => exact absurd rfl groups.ne_nil
  | cons b rest ih =>
    cases rest with
    | nil =>
      have low := (varintGroups_singleton.mp groups).1
      have value : groupsValue [b] = b.toNat := by simp [groupsValue]; omega
      rw [value, encodeUVarint, if_pos low]
      simp
    | cons c rest =>
      obtain ⟨high, groups'⟩ := varintGroups_cons_cons.mp groups
      have value : groupsValue (b :: c :: rest) = b.toNat % 128 + 128 * groupsValue (c :: rest) :=
        rfl
      rw [value] at shortest ⊢
      have large : ¬ b.toNat % 128 + 128 * groupsValue (c :: rest) < 128 := by
        intro small
        rw [uvarintLen, if_pos small] at shortest
        simp at shortest
      rw [uvarintLen, if_neg large] at shortest
      have quotient : (b.toNat % 128 + 128 * groupsValue (c :: rest)) / 128 = groupsValue (c :: rest) := by
        omega
      have byte : (b.toNat % 128 + 128 * groupsValue (c :: rest)) % 128 + 128 = b.toNat := by
        have := b.toNat_lt
        omega
      rw [quotient] at shortest
      rw [encodeUVarint, if_neg large, quotient, byte, ← ih groups' (by simpa using shortest)]
      simp

/-- The bytes read are the value's own varint exactly when they are as few as it has. -/
theorem eq_writeUVarint_iff {i : Nat} {gs : List UInt8} (groups : VarintGroups i gs) :
    uvarintLen (groupsValue gs) = gs.length ↔
      gs.toByteArray = writeUVarint ByteArray.empty (groupsValue gs) := by
  rw [writeUVarint, ByteArray.empty_append, List.toByteArray_inj]
  constructor
  · exact eq_encodeUVarint groups
  · intro same
    rw [same, length_encodeUVarint, ← same]

/-! ## Writing -/

/-- The bytes placed at the start of a buffer as long as it are the buffer. -/
theorem toByteArray_of_placed {data : ByteArray} {gs : List UInt8}
    (placed : Placed data 0 gs.toByteArray) (whole : gs.length = data.size) : gs.toByteArray = data := by
  have same := placed.2
  rw [List.size_toByteArray, whole, Nat.zero_add, ByteArray.extract_zero_size] at same
  exact same.symm

/-- The varint of a 64-bit value is one the reader accepts, and it stands for the value. -/
theorem encodeUVarint_groups {x : Nat} (fits : x < 2 ^ 64) :
    VarintGroups 0 (encodeUVarint x) ∧ groupsValue (encodeUVarint x) = x := by
  let data := (encodeUVarint x).toByteArray
  have whole : Placed data 0 (encodeUVarint x).toByteArray :=
    ⟨by simp [data], by rw [Nat.zero_add]; exact ByteArray.extract_zero_size⟩
  obtain ⟨gs, placed, groups, value, stop⟩ := readUVarint_eq_ok_iff.mp (readUVarint_placed fits whole)
  have same : gs = encodeUVarint x := by
    have size : gs.length = data.size := by
      simp only [data, List.size_toByteArray, length_encodeUVarint]
      omega
    exact List.toByteArray_inj.mp (toByteArray_of_placed placed size)
  subst same
  exact ⟨groups, value.symm⟩

/-- Varints and length-prefixed payloads: the writer appends `uvarintLen x` bytes, each but the
last with its high bit set, which read back as `x` wherever they stand; the reader accepts at a
position exactly the bytes of one varint, gives their value, which fits 64 bits and takes no
more bytes written afresh, and moves past them, and the bytes read are the value's own varint
exactly when they are as few; a payload written behind its length reads back whole. -/
theorem uvarint_reads_its_grammar (x : Nat) (fits : x < 2 ^ 64) (out pre post payload : ByteArray)
    (small : payload.size < 2 ^ 64) :
    (∃ bytes, writeUVarint out x = out ++ bytes ∧ bytes.size = uvarintLen x ∧
      VarintGroups 0 bytes.toList ∧
      readUVarint (pre ++ bytes ++ post) pre.size = .ok x (pre.size + uvarintLen x)) ∧
    (∀ data pos v p, readUVarint data pos = .ok v p ↔ ∃ gs, Placed data pos gs.toByteArray ∧
      VarintGroups 0 gs ∧ v = groupsValue gs ∧ p = pos + gs.length) ∧
    (∀ gs, VarintGroups 0 gs → groupsValue gs < 2 ^ 64 ∧
      uvarintLen (groupsValue gs) ≤ gs.length ∧
      (uvarintLen (groupsValue gs) = gs.length ↔
        gs.toByteArray = writeUVarint ByteArray.empty (groupsValue gs))) ∧
    readPrefixed (pre ++ writePrefixed ByteArray.empty payload ++ post) pre.size =
      .ok payload (pre.size + (writePrefixed ByteArray.empty payload).size) := by
  refine ⟨⟨(encodeUVarint x).toByteArray, rfl, by simp, ?_, ?_⟩, fun _ _ _ _ => readUVarint_eq_ok_iff,
    fun gs groups => ⟨groupsValue_lt groups, uvarintLen_groupsValue_le groups,
      eq_writeUVarint_iff groups⟩, ?_⟩
  · simpa using (encodeUVarint_groups fits).1
  · exact readUVarint_placed fits (Placed.middle _ _ _)
  · exact readPrefixed_placed small (Placed.middle _ _ _)

/-- The largest 64-bit value takes all ten bytes, and reads back from them. -/
theorem uvarint_max_takes_ten_bytes :
    (18446744073709551615 : Nat) < 2 ^ 64 ∧ ByteArray.empty.size < 2 ^ 64 ∧
      ∃ bytes, writeUVarint ByteArray.empty 18446744073709551615 = ByteArray.empty ++ bytes ∧
        bytes.size = 10 ∧ readUVarint bytes 0 = .ok 18446744073709551615 10 := by
  have ten : uvarintLen 18446744073709551615 = 10 := by simp [uvarintLen]
  obtain ⟨⟨bytes, written, size, -, read⟩, -⟩ :=
    uvarint_reads_its_grammar 18446744073709551615 (by decide) ByteArray.empty ByteArray.empty
      ByteArray.empty ByteArray.empty (by decide)
  refine ⟨by decide, by decide, bytes, written, by rw [size, ten], ?_⟩
  simpa [ByteArray.empty_append, ByteArray.append_empty, ten] using read

end Wire

end NativeBlock
