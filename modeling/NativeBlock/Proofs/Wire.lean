import NativeBlock.Wire.LittleEndian
import NativeBlock.Wire.Prefixed
import NativeBlock.Proofs.Framing

/-!
# Varints and length-prefixed payloads

The two readers everything else is built on, `readUVarint` and `readPrefixed` (with `readText`
over it), are framed: they read forward from their position and decide on the bytes they pass.
Their round trips are stated for encoded bytes placed anywhere in a buffer:

* `readUVarint_placed`: the varint of a 64-bit value reads back as that value, right after its
  last byte;
* `readPrefixed_placed`, `readText_placed`: a length-prefixed payload reads back whole, a text as
  itself.
-/

namespace NativeBlock.Wire

/-! ## Little-endian words -/

/-- The `k` bytes of `n` read back as `n` modulo `256 ^ k`. -/
theorem decodeLE_encodeLE (k n : Nat) : decodeLE (encodeLE k n) = n % 256 ^ k := by
  induction k generalizing n with
  | zero => simp [encodeLE, decodeLE, Nat.mod_one]
  | succ k ih =>
    simp only [encodeLE, decodeLE, ih]
    have h : ((n % 256).toUInt8).toNat = n % 256 := by
      simp [Nat.toUInt8]
    rw [h, Nat.pow_succ', Nat.mod_mul]

/-! ## Varints -/

theorem uvarintLen_pos (x : Nat) : 0 < uvarintLen x := by
  rw [uvarintLen]
  split <;> omega

/-- A count of base-`b` places in which zero has one place is at most `n > 0` exactly when the
number is below `b ^ n`; varint lengths and decimal digit counts are such counts. -/
theorem placeCount_le_iff {count : Nat → Nat} {b : Nat} (base : 1 < b)
    (step : ∀ x, count x = if x < b then 1 else count (x / b) + 1) {n : Nat} (pos : 0 < n) :
    ∀ x, count x ≤ n ↔ x < b ^ n := by
  have one : ∀ x, 0 < count x := fun x => by
    rw [step x]
    split <;> omega
  induction n with
  | zero => omega
  | succ m ih =>
    intro x
    rw [step x]
    split
    · rename_i small
      have : b ≤ b ^ (m + 1) := Nat.le_self_pow (by omega) b
      constructor <;> intro <;> omega
    · rename_i large
      rcases Nat.eq_zero_or_pos m with rfl | more
      · have := one (x / b)
        simp only [Nat.zero_add, Nat.pow_one]
        omega
      · rw [Nat.add_le_add_iff_right, ih more (x / b), Nat.pow_succ]
        exact Nat.div_lt_iff_lt_mul (by omega)

@[simp] theorem length_encodeUVarint (x : Nat) : (encodeUVarint x).length = uvarintLen x := by
  fun_induction encodeUVarint x with
  | case1 x small => rw [uvarintLen, if_pos small]; rfl
  | case2 x large ih => rw [uvarintLen, if_neg large, List.length_cons, ih]

theorem size_writeUVarint (out : ByteArray) (x : Nat) :
    (writeUVarint out x).size = out.size + uvarintLen x := by
  simp [writeUVarint, ByteArray.size_append]

/-- A run of the group reader moves past every byte it reads and decides on them alone. -/
theorem readGroups_framed_at (data : ByteArray) (i acc pos : Nat) :
    ∀ a stop, readGroups data i acc pos = .ok a stop →
      pos ≤ stop ∧ stop ≤ data.size ∧
      ∀ data', AgreeBelow stop data data' →
        (stop ≤ data'.size → readGroups data' i acc pos = .ok a stop) ∧
        (pos ≤ data'.size → data'.size < stop → ∃ e s, readGroups data' i acc pos = .error e s) := by
  fun_induction readGroups data i acc pos with
  | case1 i acc pos missing =>
    intro a stop run
    cases run
  | case2 i acc pos b byte lo overflow =>
    intro a stop run
    cases run
  | case3 i acc pos b byte lo fine acc' last =>
    intro a stop run
    cases run
    have fine' : ¬(i + 1 = maxVarintLen ∧ (128 ≤ b.toNat ∨ 1 < b.toNat % 128)) := fine
    have inside : pos < data.size := (getElem?_eq_some_iff.mp byte).1
    refine ⟨by omega, by omega, fun data' agree => ⟨fun reach => ?_, fun start short => ?_⟩⟩
    · have same : data'[pos]? = some b := by rw [agree pos (by omega) (by omega), byte]
      rw [readGroups, same]
      simp only [if_neg fine', if_pos last]
      rfl
    · have missing : data'[pos]? = none := getElem?_neg data' pos (by omega)
      rw [readGroups, missing]
      exact ⟨_, _, rfl⟩
  | case4 i acc pos b byte lo fine acc' more next ih =>
    intro a stop run
    have fine' : ¬(i + 1 = maxVarintLen ∧ (128 ≤ b.toNat ∨ 1 < b.toNat % 128)) := fine
    obtain ⟨forward, within, agreeing⟩ := ih a stop run
    have inside : pos < data.size := (getElem?_eq_some_iff.mp byte).1
    refine ⟨by omega, within, fun data' agree => ⟨fun reach => ?_, fun start short => ?_⟩⟩
    · have same : data'[pos]? = some b := by rw [agree pos (by omega) (by omega), byte]
      rw [readGroups, same]
      simp only [if_neg fine', if_neg more, if_pos next]
      exact (agreeing data' agree).1 reach
    · by_cases ends : data'.size = pos
      · have missing : data'[pos]? = none := getElem?_neg data' pos (by omega)
        rw [readGroups, missing]
        exact ⟨_, _, rfl⟩
      · have same : data'[pos]? = some b := by rw [agree pos (by omega) (by omega), byte]
        rw [readGroups, same]
        simp only [if_neg fine', if_neg more, if_pos next]
        exact (agreeing data' agree).2 (by omega) short
  | case5 i acc pos b byte lo fine more last =>
    intro a stop run
    cases run

theorem readUVarint_framed : Framed readUVarint :=
  fun data pos a stop _ run => readGroups_framed_at data 0 0 pos a stop run

/-- The groups from the `i`-th on read back the value whose varint is placed at the position,
as long as the value still fits the 64 bits left above the lower groups. -/
theorem readGroups_placed (x : Nat) :
    ∀ (i acc pos : Nat) (data : ByteArray), x * 2 ^ (7 * i) < 2 ^ 64 →
      Placed data pos (encodeUVarint x).toByteArray →
      readGroups data i acc pos = .ok (acc + x * 2 ^ (7 * i)) (pos + uvarintLen x) := by
  fun_induction encodeUVarint x with
  | case1 x small =>
    intro i acc pos data fits placed
    have byte : data[pos]? = some x.toUInt8 := by
      simpa using placed.getElem? (i := 0) (by simp)
    have value : x.toUInt8.toNat = x := by simp [Nat.toUInt8, Nat.mod_eq_of_lt (by omega : x < 256)]
    have fine : ¬(i + 1 = maxVarintLen ∧ (128 ≤ x ∨ 1 < x)) := by
      rintro ⟨last, big⟩
      have nine : i = 9 := by simp only [maxVarintLen] at last; omega
      subst nine
      omega
    rw [readGroups, byte]
    simp only [value, Nat.mod_eq_of_lt small, if_neg fine, if_pos small, Nat.pow_eq]
    rw [uvarintLen.eq_1 x, if_pos small]
  | case2 x large ih =>
    intro i acc pos data fits placed
    have low : i + 1 < maxVarintLen := by
      have grow : 2 ^ 7 * 2 ^ (7 * i) ≤ x * 2 ^ (7 * i) :=
        Nat.mul_le_mul_right _ (by omega)
      rw [← Nat.pow_add] at grow
      have : 7 + 7 * i < 64 := (Nat.pow_lt_pow_iff_right (by decide : 1 < 2)).mp (by omega)
      simp only [maxVarintLen]
      omega
    have split : ((x % 128 + 128).toUInt8 :: encodeUVarint (x / 128)).toByteArray =
        [(x % 128 + 128).toUInt8].toByteArray ++ (encodeUVarint (x / 128)).toByteArray := by
      rw [← List.toByteArray_append, List.singleton_append]
    rw [split] at placed
    have byte : data[pos]? = some (x % 128 + 128).toUInt8 := by
      simpa using placed.left.getElem? (i := 0) (by simp)
    have value : (x % 128 + 128).toUInt8.toNat = x % 128 + 128 := by
      simp [Nat.toUInt8, Nat.mod_eq_of_lt (by omega : x % 128 + 128 < 256)]
    have fine : ¬(i + 1 = maxVarintLen ∧ (128 ≤ x % 128 + 128 ∨ 1 < (x % 128 + 128) % 128)) := by
      rintro ⟨last, _⟩
      omega
    have pow : 2 ^ (7 * (i + 1)) = 2 ^ (7 * i) * 128 := by
      rw [Nat.mul_succ, Nat.pow_add]
    have fits' : x / 128 * 2 ^ (7 * (i + 1)) < 2 ^ 64 := by
      rw [pow, ← Nat.mul_assoc, Nat.mul_comm (x / 128), Nat.mul_assoc, Nat.mul_comm _ 128]
      calc 2 ^ (7 * i) * (128 * (x / 128)) ≤ 2 ^ (7 * i) * x :=
            Nat.mul_le_mul_left _ (Nat.mul_div_le x 128)
        _ < 2 ^ 64 := by rw [Nat.mul_comm]; exact fits
    have rest := ih (i + 1) (acc + (x % 128 + 128).toUInt8.toNat % 128 * 2 ^ (7 * i)) (pos + 1)
      data fits' (by simpa using placed.right)
    rw [readGroups, byte]
    simp only [value, if_neg fine, if_neg (show ¬ x % 128 + 128 < 128 by omega), if_pos low,
      Nat.pow_eq]
    rw [value] at rest
    rw [rest]
    have sum : acc + (x % 128 + 128) % 128 * 2 ^ (7 * i) + x / 128 * 2 ^ (7 * (i + 1)) =
        acc + x * 2 ^ (7 * i) := by
      rw [pow, Nat.add_mod_right, Nat.mod_mod, Nat.add_assoc]
      congr 1
      conv => rhs; rw [← Nat.mod_add_div x 128]
      rw [Nat.add_mul]
      simp only [Nat.mul_comm, Nat.mul_left_comm]
    rw [sum, uvarintLen.eq_1 x, if_neg large, Nat.add_comm (uvarintLen _) 1, Nat.add_assoc]

/-- The varint of a 64-bit value, placed anywhere, reads back as the value right after it. -/
theorem readUVarint_placed {x pos : Nat} {data : ByteArray} (fits : x < 2 ^ 64)
    (placed : Placed data pos (encodeUVarint x).toByteArray) :
    readUVarint data pos = .ok x (pos + uvarintLen x) := by
  have run := readGroups_placed x 0 0 pos data (by simpa using fits) placed
  simpa [readUVarint] using run

/-! ## Length-prefixed payloads -/

/-- Writing behind bytes already written appends the prefixed payload to them. -/
theorem writePrefixed_eq_append (out payload : ByteArray) :
    writePrefixed out payload = out ++ writePrefixed ByteArray.empty payload := by
  simp [writePrefixed, writeUVarint, ByteArray.append_assoc]

theorem size_writePrefixed (payload : ByteArray) :
    (writePrefixed ByteArray.empty payload).size = uvarintLen payload.size + payload.size := by
  simp [writePrefixed, size_writeUVarint, ByteArray.size_append, ByteArray.size_empty]

/-- A payload written on its own is its length's varint, then the payload. -/
theorem writePrefixed_empty (payload : ByteArray) :
    writePrefixed ByteArray.empty payload = (encodeUVarint payload.size).toByteArray ++ payload := by
  simp [writePrefixed, writeUVarint]

theorem readPrefixed_framed : Framed readPrefixed := by
  unfold readPrefixed
  refine Framed.bind readUVarint_framed (fun len => ?_)
  intro data pos payload stop inside run
  simp only [bind_apply, get_apply] at run
  split at run
  · rename_i fits
    simp only [bind_apply, set_apply, pure_apply, EStateM.Result.ok.injEq] at run
    obtain ⟨rfl, rfl⟩ := run
    refine ⟨by omega, fits, fun data' agree => ⟨fun reach => ?_, fun start short => ?_⟩⟩
    · simp only [bind_apply, get_apply, if_pos reach, set_apply, pure_apply]
      rw [agree.extract_eq (Nat.le_refl _) fits reach]
    · simp only [bind_apply, get_apply, if_neg (Nat.not_le_of_lt short), throw_apply]
      exact ⟨_, _, rfl⟩
  · simp only [throw_apply] at run
    cases run

/-- A length-prefixed payload of fewer than `2 ^ 64` bytes, placed anywhere, reads back whole. -/
theorem readPrefixed_placed {payload data : ByteArray} {pos : Nat} (fits : payload.size < 2 ^ 64)
    (placed : Placed data pos (writePrefixed ByteArray.empty payload)) :
    readPrefixed data pos =
      .ok payload (pos + (writePrefixed ByteArray.empty payload).size) := by
  rw [writePrefixed_empty] at placed ⊢
  have length := readUVarint_placed fits placed.left
  have body := placed.right
  have reach := body.1
  simp only [List.size_toByteArray, length_encodeUVarint] at body reach
  have total : pos + ((encodeUVarint payload.size).toByteArray ++ payload).size =
      pos + uvarintLen payload.size + payload.size := by
    simp only [ByteArray.size_append, List.size_toByteArray, length_encodeUVarint]
    omega
  unfold readPrefixed
  rw [bind_ok_of_ok length, total]
  simp only [bind_apply, get_apply, if_pos reach, set_apply, pure_apply, body.2]

theorem readText_framed : Framed readText := by
  unfold readText
  refine Framed.bind Framed.get (fun start => Framed.bind readPrefixed_framed (fun raw => ?_))
  cases String.fromUTF8? raw with
  | none => exact Framed.throw _
  | some s => exact Framed.pure s

theorem fromUTF8?_toUTF8 (s : String) : String.fromUTF8? s.toUTF8 = some s := by
  simp [String.fromUTF8?, s.isValidUTF8, String.fromUTF8]

/-- A text of fewer than `2 ^ 64` bytes, written with its length and placed anywhere, reads back
as itself. -/
theorem readText_placed {s : String} {data : ByteArray} {pos : Nat} (fits : s.utf8ByteSize < 2 ^ 64)
    (placed : Placed data pos (writePrefixed ByteArray.empty s.toUTF8)) :
    readText data pos = .ok s (pos + (writePrefixed ByteArray.empty s.toUTF8).size) := by
  have raw := readPrefixed_placed (by simpa [String.size_toByteArray] using fits) placed
  unfold readText
  simp only [bind_apply, get_apply]
  rw [raw]
  simp only [fromUTF8?_toUTF8, pure_apply]

end NativeBlock.Wire
