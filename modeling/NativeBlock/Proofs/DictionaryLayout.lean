import NativeBlock.Proofs.Dictionary
import NativeBlock.Proofs.VarintGrammar
import NativeBlock.Proofs.DecimalColumn

/-!
# The layouts a dictionary column is read from

For a column with rows, `Dictionary.decode` accepts exactly one family of layouts (`Layout`):

* the header: a flags word with bit 9 set on its own, or the version word `1` and then a flags
  word;
* a supported flags word: bit 9 set, bit 8 clear, no bit above bit 10, and one of the four key
  types 0 to 3 in its low byte;
* the dictionary size `D`, then `D` texts, each a varint byte count and that many bytes of
  UTF-8;
* the key count, equal to the row count, then one key of the width per row.

Its failures name what is wrong (`decode_error_cases`): a flags word asking for a dictionary
shared with the server, or carrying no keys, is unsupported; keys cut short, or too many to count
in 64 bits, are a bounds error; every other departure from the layout is a framing error.

Main statement: `decode_reads_exactly_layouts`.
-/

namespace NativeBlock

namespace Dictionary

open Wire

/-! ## The parts of a layout -/

/-- The 64-bit little-endian word `x` stands at `pos`. -/
def WordAt (data : ByteArray) (pos x : Nat) : Prop :=
  x < 2 ^ 64 ∧ Placed data pos (encodeLE 8 x).toByteArray

/-- A text stands at `pos` and ends at `stop`: a varint giving its number of bytes, then those
bytes, which are its UTF-8. -/
def TextAt (data : ByteArray) (pos : Nat) (s : String) (stop : Nat) : Prop :=
  ∃ gs, Placed data pos gs.toByteArray ∧ VarintGroups 0 gs ∧ groupsValue gs = s.utf8ByteSize ∧
    Placed data (pos + gs.length) s.toUTF8 ∧ stop = pos + gs.length + s.utf8ByteSize

/-- Texts stand one after another from `pos`, the last ending at `stop`. -/
def TextsAt (data : ByteArray) : Nat → List String → Nat → Prop
  | pos, [], stop => stop = pos
  | pos, s :: texts, stop => ∃ mid, TextAt data pos s mid ∧ TextsAt data mid texts stop

/-- The header ends at `start` with the flags word `flags`: on its own when it has bit 9 set, or
after the version word. -/
def FlagsAt (data : ByteArray) (flags start : Nat) : Prop :=
  (WordAt data 0 flags ∧ flags.testBit 9 = true ∧ start = 8) ∨
    (WordAt data 0 version ∧ WordAt data 8 flags ∧ start = 16)

/-- A flags word the reader supports, for keys of width `w`: the column carries its own keys
(bit 9), shares no dictionary with the server (bit 8 clear), sets no bit above bit 10, and has
the width's number as its key type. -/
structure SupportedFlags (flags : Nat) (w : KeyWidth) : Prop where
  own : flags.testBit 9 = true
  unshared : flags.testBit 8 = false
  known : flags < 0x800
  keyType : flags % 256 = w.id

/-- The layout of `rows` rows up to its keys: the header with a supported flags word for keys of
width `w`, the dictionary size, the texts and the key count; the keys start at `keysAt`. -/
def BeforeKeys (data : ByteArray) (rows : Nat) (texts : List String) (w : KeyWidth)
    (keysAt : Nat) : Prop :=
  ∃ flags start entriesEnd, FlagsAt data flags start ∧ SupportedFlags flags w ∧
    WordAt data start texts.length ∧ TextsAt data (start + 8) texts entriesEnd ∧
    WordAt data entriesEnd rows ∧ keysAt = entriesEnd + 8

/-- A whole layout of `rows` rows, read as `d`: the part before the keys, then one key of the
width per row, whose byte count is a 64-bit length. -/
def Layout (data : ByteArray) (rows : Nat) (d : Decoded) : Prop :=
  ∃ texts keysAt, BeforeKeys data rows texts d.keyWidth keysAt ∧ d.dictionary = texts.toArray ∧
    rows * d.keyWidth.bytes ≤ Codec.maxLength ∧ keysAt + rows * d.keyWidth.bytes ≤ data.size ∧
    d.keys = data.extract keysAt (keysAt + rows * d.keyWidth.bytes) ∧
    d.consumed = keysAt + rows * d.keyWidth.bytes

/-- The header is there, and its flags word asks for what the reader does not implement: a
dictionary shared with the server, or keys the column does not carry. -/
def UnsupportedFlags (data : ByteArray) : Prop :=
  ∃ flags start, FlagsAt data flags start ∧ (flags.testBit 8 = true ∨ flags.testBit 9 = false)

/-- All before the keys is in order, but the keys are too many to count in 64 bits or are not
all there. -/
def KeysMissing (data : ByteArray) (rows : Nat) : Prop :=
  ∃ texts w keysAt, BeforeKeys data rows texts w keysAt ∧
    (Codec.maxLength < rows * w.bytes ∨ data.size < keysAt + rows * w.bytes)

/-! ## Readers that fail only by framing -/

/-- Every failure of the reader is a framing error. -/
def FailsFraming {α : Type} (read : EStateM Error Nat α) : Prop :=
  ∀ pos e p, read pos = .error e p → ∃ m, e = .framing m

namespace FailsFraming

variable {α β : Type}

theorem pure (a : α) : FailsFraming (Pure.pure a : EStateM Error Nat α) := by
  intro pos e p run
  cases run

theorem get : FailsFraming (MonadState.get : EStateM Error Nat Nat) := by
  intro pos e p run
  cases run

theorem set (n : Nat) : FailsFraming (MonadStateOf.set n : EStateM Error Nat PUnit) := by
  intro pos e p run
  cases run

theorem throw (m : String) : FailsFraming (MonadExcept.throw (.framing m) : EStateM Error Nat α) := by
  intro pos e p run
  cases run
  exact ⟨m, rfl⟩

theorem ite (c : Prop) [Decidable c] {yes no : EStateM Error Nat α} (onYes : FailsFraming yes)
    (onNo : FailsFraming no) : FailsFraming (if c then yes else no) := by
  by_cases h : c
  · simpa only [if_pos h] using onYes
  · simpa only [if_neg h] using onNo

theorem bind {x : EStateM Error Nat α} {f : α → EStateM Error Nat β} (first : FailsFraming x)
    (rest : ∀ a, FailsFraming (f a)) : FailsFraming (x >>= f) := by
  intro pos e p run
  cases ran : x pos with
  | ok a t =>
    rw [bind_ok_of_ok ran] at run
    exact rest a t e p run
  | error e' t =>
    rw [bind_error_of_error ran] at run
    obtain ⟨m, rfl⟩ := first pos e' t ran
    cases run
    exact ⟨m, rfl⟩

end FailsFraming

theorem readGroups_failsFraming (data : ByteArray) (i acc : Nat) :
    FailsFraming (readGroups data i acc) := by
  intro pos e p run
  fun_induction readGroups data i acc pos with
  | case1 => cases run; exact ⟨_, rfl⟩
  | case2 => cases run; exact ⟨_, rfl⟩
  | case3 => cases run
  | case4 _ _ _ _ _ _ _ _ _ _ ih => exact ih run
  | case5 => cases run; exact ⟨_, rfl⟩

theorem readPrefixed_failsFraming (data : ByteArray) : FailsFraming (readPrefixed data) := by
  unfold readPrefixed
  refine FailsFraming.bind (readGroups_failsFraming data 0 0) fun len =>
    FailsFraming.bind FailsFraming.get fun pos => ?_
  exact FailsFraming.ite _ (FailsFraming.bind (FailsFraming.set _) fun _ => FailsFraming.pure _)
    (FailsFraming.throw _)

theorem readText_failsFraming (data : ByteArray) : FailsFraming (readText data) := by
  unfold readText
  refine FailsFraming.bind FailsFraming.get fun start =>
    FailsFraming.bind (readPrefixed_failsFraming data) fun raw => ?_
  cases String.fromUTF8? raw with
  | none => exact FailsFraming.throw _
  | some s => exact FailsFraming.pure s

theorem readWord_failsFraming (data : ByteArray) : FailsFraming (readWord data) := by
  intro pos e p run
  unfold readWord at run
  split at run
  · cases run
  · cases run
    exact ⟨_, rfl⟩

theorem readTexts_failsFraming (data : ByteArray) (n : Nat) (acc : Array String) :
    FailsFraming (readTexts data n acc) := by
  induction n generalizing acc with
  | zero => exact FailsFraming.pure acc
  | succ n ih => exact FailsFraming.bind (readText_failsFraming data) fun s => ih (acc.push s)

theorem readFlags_failsFraming (data : ByteArray) : FailsFraming (readFlags data) := by
  unfold readFlags
  refine FailsFraming.bind (readWord_failsFraming data) fun first => ?_
  exact FailsFraming.ite _ (FailsFraming.pure _)
    (FailsFraming.ite _ (readWord_failsFraming data) (FailsFraming.throw _))

/-! ## Words -/

theorem encodeLE_decodeLE (bs : List UInt8) : encodeLE bs.length (decodeLE bs) = bs := by
  induction bs with
  | nil => rfl
  | cons b bs ih =>
    have byte := b.toNat_lt
    have low : (b.toNat + 256 * decodeLE bs) % 256 = b.toNat := by omega
    have high : (b.toNat + 256 * decodeLE bs) / 256 = decodeLE bs := by omega
    simp only [List.length_cons, decodeLE, encodeLE, low, high, ih]
    simp

/-- Reading a word succeeds exactly when the buffer has its eight bytes at the position, and
moves past them. -/
theorem readWord_eq_ok_iff {data : ByteArray} {pos x p : Nat} :
    readWord data pos = .ok x p ↔ WordAt data pos x ∧ p = pos + 8 := by
  constructor
  · intro run
    unfold readWord at run
    split at run
    · rename_i reach
      cases run
      have eight : (data.extract pos (pos + 8)).toList.length = 8 := by
        rw [toList_eq_data_toList, Array.length_toList, ByteArray.size_data, ByteArray.size_extract]
        omega
      have below := decodeLE_lt (data.extract pos (pos + 8)).toList
      rw [eight] at below
      have bytes := encodeLE_decodeLE (data.extract pos (pos + 8)).toList
      rw [eight] at bytes
      refine ⟨⟨by simpa using below, by simpa using reach, ?_⟩, rfl⟩
      rw [List.size_toByteArray, encodeLE_length, bytes, toByteArray_toList]
    · cases run
  · rintro ⟨⟨fits, placed⟩, rfl⟩
    exact readWord_placed fits placed

/-! ## Texts -/

theorem fromUTF8?_eq_some_iff {raw : ByteArray} {s : String} :
    String.fromUTF8? raw = some s ↔ s.toUTF8 = raw := by
  constructor
  · intro decoded
    unfold String.fromUTF8? at decoded
    split at decoded
    · cases decoded
      rfl
    · cases decoded
  · rintro rfl
    exact fromUTF8?_toUTF8 s

/-- Reading a length-prefixed payload succeeds exactly when a varint stands at the position and
that many bytes after it. -/
theorem readPrefixed_eq_ok_iff {data : ByteArray} {pos p : Nat} {raw : ByteArray} :
    readPrefixed data pos = .ok raw p ↔ ∃ gs, Placed data pos gs.toByteArray ∧
      VarintGroups 0 gs ∧ groupsValue gs = raw.size ∧ Placed data (pos + gs.length) raw ∧
      p = pos + gs.length + raw.size := by
  unfold readPrefixed
  constructor
  · intro run
    obtain ⟨len, next, lenRun, rest⟩ := bind_eq_ok run
    obtain ⟨gs, placed, groups, rfl, rfl⟩ := readUVarint_eq_ok_iff.mp lenRun
    simp only [bind_apply, get_apply] at rest
    split at rest
    · rename_i reach
      simp only [bind_apply, set_apply, pure_apply, EStateM.Result.ok.injEq] at rest
      obtain ⟨rfl, rfl⟩ := rest
      have size : (data.extract (pos + gs.length) (pos + gs.length + groupsValue gs)).size =
          groupsValue gs := by
        simp only [ByteArray.size_extract]
        omega
      refine ⟨gs, placed, groups, size.symm, ⟨by omega, by rw [size]⟩, by rw [size]⟩
    · cases rest
  · rintro ⟨gs, placed, groups, value, ⟨reach, bytes⟩, rfl⟩
    rw [bind_ok_of_ok (readUVarint_eq_ok_iff.mpr ⟨gs, placed, groups, rfl, rfl⟩), value]
    simp only [bind_apply, get_apply, if_pos reach, set_apply, pure_apply, bytes]

/-- Reading a text succeeds exactly when one stands at the position, and moves past it. -/
theorem readText_eq_ok_iff {data : ByteArray} {pos p : Nat} {s : String} :
    readText data pos = .ok s p ↔ TextAt data pos s p := by
  have size : s.toUTF8.size = s.utf8ByteSize := by
    rw [String.toUTF8_eq_toByteArray, String.size_toByteArray]
  unfold readText
  constructor
  · intro run
    rw [bind_ok_of_ok (get_apply pos)] at run
    obtain ⟨raw, stop, rawRun, run⟩ := bind_eq_ok run
    cases decoded : String.fromUTF8? raw with
    | none =>
      rw [decoded] at run
      cases run
    | some s' =>
      rw [decoded] at run
      simp only [pure_apply, EStateM.Result.ok.injEq] at run
      obtain ⟨rfl, rfl⟩ := run
      obtain ⟨gs, placed, groups, value, body, rfl⟩ := readPrefixed_eq_ok_iff.mp rawRun
      rw [← fromUTF8?_eq_some_iff.mp decoded] at value body ⊢
      exact ⟨gs, placed, groups, by rw [value, size], body, by rw [size]⟩
  · rintro ⟨gs, placed, groups, value, body, rfl⟩
    rw [bind_ok_of_ok (get_apply pos), bind_ok_of_ok (readPrefixed_eq_ok_iff.mpr
      ⟨gs, placed, groups, by rw [value, size], body, by rw [size]⟩)]
    simp only [fromUTF8?_toUTF8, pure_apply]

/-- Reading `n` texts succeeds exactly when `n` of them stand one after another, and appends them
to those read before. -/
theorem readTexts_eq_ok_iff {data : ByteArray} (n : Nat) :
    ∀ {acc r : Array String} {pos p : Nat}, readTexts data n acc pos = .ok r p ↔
      ∃ texts, texts.length = n ∧ r = acc ++ texts.toArray ∧ TextsAt data pos texts p := by
  induction n with
  | zero =>
    intro acc r pos p
    simp only [readTexts, pure_apply, EStateM.Result.ok.injEq]
    constructor
    · rintro ⟨rfl, rfl⟩
      exact ⟨[], rfl, by simp, rfl⟩
    · rintro ⟨texts, empty, rfl, placed⟩
      obtain rfl := List.eq_nil_of_length_eq_zero empty
      exact ⟨by simp, placed.symm⟩
  | succ n ih =>
    intro acc r pos p
    simp only [readTexts]
    constructor
    · intro run
      obtain ⟨s, mid, first, rest⟩ := bind_eq_ok run
      obtain ⟨texts, counted, rfl, after⟩ := ih.mp rest
      exact ⟨s :: texts, by simp [counted], by simp, mid, readText_eq_ok_iff.mp first, after⟩
    · rintro ⟨_ | ⟨s, texts⟩, counted, rfl, placed⟩
      · cases counted
      · obtain ⟨mid, first, after⟩ := placed
        rw [bind_ok_of_ok (readText_eq_ok_iff.mpr first)]
        exact ih.mpr ⟨texts, by simpa using counted, by simp, after⟩

/-! ## The flags word -/

theorem and_two_pow_ne_zero_iff (flags i : Nat) : flags &&& 2 ^ i ≠ 0 ↔ flags.testBit i = true := by
  rw [Nat.and_two_pow]
  cases flags.testBit i <;> simp

/-- The check for unknown flags passes exactly when no bit above bit 10 is set. -/
theorem and_unknownFlags_eq_zero_iff {flags : Nat} (fits : flags < 2 ^ 64) :
    flags &&& (0xFFFFFFFFFFFFFFFF - knownFlags) = 0 ↔ flags < 0x800 := by
  have mask : 0xFFFFFFFFFFFFFFFF - knownFlags = 18446744073709549568 := by
    simp [knownFlags, needGlobal, hasAdditional, needUpdate]
  -- The mask clears the eleven low bits and keeps every higher bit of a 64-bit word.
  have low : (flags &&& 18446744073709549568) % 2 ^ 11 = 0 := by
    rw [Nat.and_mod_two_pow]
    simp
  have high : (flags &&& 18446744073709549568) / 2 ^ 11 = flags / 2 ^ 11 := by
    rw [Nat.and_div_two_pow, show (18446744073709549568 : Nat) / 2 ^ 11 = 2 ^ 53 - 1 by norm_num,
      Nat.and_two_pow_sub_one_eq_mod, Nat.mod_eq_of_lt (by omega)]
  have whole := Nat.div_add_mod (flags &&& 18446744073709549568) (2 ^ 11)
  rw [mask]
  omega

theorem ofId_eq_ok_iff {n : Nat} {w : KeyWidth} : KeyWidth.ofId n = .ok w ↔ n = w.id := by
  unfold KeyWidth.ofId
  split <;> cases w <;> simp [KeyWidth.id] <;> omega

theorem ofId_failsFraming {n : Nat} {e : Error} (run : KeyWidth.ofId n = .error e) :
    ∃ m, e = .framing m := by
  unfold KeyWidth.ofId at run
  split at run <;> cases run
  exact ⟨_, rfl⟩

theorem and_needGlobal_ne_zero_iff (flags : Nat) :
    flags &&& needGlobal ≠ 0 ↔ flags.testBit 8 = true :=
  and_two_pow_ne_zero_iff flags 8

theorem and_hasAdditional_ne_zero_iff (flags : Nat) :
    flags &&& hasAdditional ≠ 0 ↔ flags.testBit 9 = true :=
  and_two_pow_ne_zero_iff flags 9

/-- A 64-bit flags word is supported exactly when it passes the reader's four checks. -/
theorem supportedFlags_iff {flags : Nat} {w : KeyWidth} (fits : flags < 2 ^ 64) :
    SupportedFlags flags w ↔ flags &&& needGlobal = 0 ∧ flags &&& hasAdditional ≠ 0 ∧
      flags &&& (0xFFFFFFFFFFFFFFFF - knownFlags) = 0 ∧ KeyWidth.ofId (flags &&& 255) = .ok w := by
  have clear : flags &&& needGlobal = 0 ↔ flags.testBit 8 = false := by
    simpa using not_congr (and_needGlobal_ne_zero_iff flags)
  have keyType : flags &&& 255 = flags % 256 := Nat.and_two_pow_sub_one_eq_mod flags 8
  rw [clear, and_hasAdditional_ne_zero_iff, and_unknownFlags_eq_zero_iff fits, keyType,
    ofId_eq_ok_iff]
  constructor
  · rintro ⟨set, unshared, known, code⟩
    exact ⟨unshared, set, known, code⟩
  · rintro ⟨unshared, set, known, code⟩
    exact ⟨set, unshared, known, code⟩

theorem FlagsAt.fits {data : ByteArray} {flags start : Nat} (header : FlagsAt data flags start) :
    flags < 2 ^ 64 := by
  rcases header with ⟨flagsAt, -, -⟩ | ⟨-, flagsAt, -⟩ <;> exact flagsAt.1

/-- Reading the header succeeds exactly when one stands at the start of the buffer. -/
theorem readFlags_eq_ok_iff {data : ByteArray} {flags p : Nat} :
    readFlags data 0 = .ok flags p ↔ FlagsAt data flags p := by
  unfold readFlags
  constructor
  · intro run
    obtain ⟨first, mid, firstRun, rest⟩ := bind_eq_ok run
    obtain ⟨firstAt, rfl⟩ := readWord_eq_ok_iff.mp firstRun
    by_cases carried : first &&& hasAdditional ≠ 0
    · rw [if_pos carried] at rest
      cases rest
      exact .inl ⟨firstAt, (and_hasAdditional_ne_zero_iff _).mp carried, rfl⟩
    · rw [if_neg carried] at rest
      by_cases versioned : first = version
      · rw [if_pos versioned] at rest
        obtain ⟨flagsAt, rfl⟩ := readWord_eq_ok_iff.mp rest
        exact .inr ⟨versioned ▸ firstAt, flagsAt, rfl⟩
      · rw [if_neg versioned] at rest
        cases rest
  · rintro (⟨flagsAt, set, rfl⟩ | ⟨versionAt, flagsAt, rfl⟩)
    · rw [bind_ok_of_ok (readWord_eq_ok_iff.mpr ⟨flagsAt, rfl⟩), if_pos ((and_hasAdditional_ne_zero_iff flags).mpr set)]
      rfl
    · rw [bind_ok_of_ok (readWord_eq_ok_iff.mpr ⟨versionAt, rfl⟩), if_neg (by decide), if_pos rfl]
      exact readWord_eq_ok_iff.mpr ⟨flagsAt, rfl⟩

/-- A buffer starts with at most one header. -/
theorem FlagsAt.unique {data : ByteArray} {flags flags' start start' : Nat}
    (first : FlagsAt data flags start) (second : FlagsAt data flags' start') : flags' = flags := by
  have same := (readFlags_eq_ok_iff.mpr first).symm.trans (readFlags_eq_ok_iff.mpr second)
  cases same
  rfl

/-- A supported header is not one the reader refuses as unsupported. -/
theorem not_unsupportedFlags {data : ByteArray} {flags start : Nat} {w : KeyWidth}
    (header : FlagsAt data flags start) (supported : SupportedFlags flags w) :
    ¬ UnsupportedFlags data := by
  rintro ⟨flags', start', header', refused⟩
  obtain rfl := header.unique header'
  rw [supported.unshared, supported.own] at refused
  simp at refused

/-! ## The layout before the keys -/

/-- Reading up to the keys succeeds exactly on the part of a layout before them. -/
theorem readDictionary_eq_ok_iff {data : ByteArray} {rows p : Nat} {dictionary : Array String}
    {w : KeyWidth} :
    readDictionary data rows 0 = .ok (dictionary, w) p ↔
      ∃ texts, dictionary = texts.toArray ∧ BeforeKeys data rows texts w p := by
  unfold readDictionary
  constructor
  · intro run
    obtain ⟨flags, start, flagsRun, rest⟩ := bind_eq_ok run
    have header := readFlags_eq_ok_iff.mp flagsRun
    dsimp only at rest
    simp only [throw_bind_eq] at rest
    -- Each check of the flags word either throws or lets the reading go on.
    by_cases global : flags &&& needGlobal ≠ 0
    · rw [if_pos global] at rest
      cases rest
    rw [if_neg global] at rest
    by_cases lacking : flags &&& hasAdditional = 0
    · rw [if_pos lacking] at rest
      cases rest
    rw [if_neg lacking] at rest
    by_cases unknown : flags &&& (0xFFFFFFFFFFFFFFFF - knownFlags) ≠ 0
    · rw [if_pos unknown] at rest
      cases rest
    rw [if_neg unknown] at rest
    cases width : KeyWidth.ofId (flags &&& 255) with
    | error e =>
      rw [width] at rest
      cases rest
    | ok w' =>
      rw [width] at rest
      simp only [pure_bind] at rest
      obtain ⟨size, sizeEnd, sizeRun, afterSize⟩ := bind_eq_ok rest
      obtain ⟨texts, entriesEnd, textsRun, afterTexts⟩ := bind_eq_ok afterSize
      obtain ⟨keyRows, keysAt, countRun, afterCount⟩ := bind_eq_ok afterTexts
      by_cases mismatch : keyRows ≠ rows
      · rw [if_pos mismatch] at afterCount
        cases afterCount
      rw [if_neg mismatch] at afterCount
      change EStateM.Result.ok (texts, w') keysAt = _ at afterCount
      simp only [EStateM.Result.ok.injEq, Prod.mk.injEq] at afterCount
      obtain ⟨⟨rfl, rfl⟩, rfl⟩ := afterCount
      obtain rfl : keyRows = rows := not_not.mp mismatch
      obtain ⟨sizeAt, rfl⟩ := readWord_eq_ok_iff.mp sizeRun
      obtain ⟨read, counted, rfl, entries⟩ := (readTexts_eq_ok_iff size).mp textsRun
      obtain ⟨countAt, rfl⟩ := readWord_eq_ok_iff.mp countRun
      rw [← counted] at sizeAt
      refine ⟨read, by simp, flags, start, entriesEnd, header, ?_, sizeAt, entries, countAt, rfl⟩
      exact (supportedFlags_iff header.fits).mpr ⟨not_not.mp global, lacking, not_not.mp unknown, width⟩
  · rintro ⟨texts, rfl, flags, start, entriesEnd, header, supported, sizeAt, entries, countAt, rfl⟩
    obtain ⟨global, lacking, unknown, width⟩ := (supportedFlags_iff header.fits).mp supported
    rw [bind_ok_of_ok (readFlags_eq_ok_iff.mpr header)]
    dsimp only
    simp only [global, lacking, unknown, width, ne_eq, not_true_eq_false, if_false,
      throw_bind_eq, pure_bind]
    rw [bind_ok_of_ok (readWord_eq_ok_iff.mpr ⟨sizeAt, rfl⟩),
      bind_ok_of_ok ((readTexts_eq_ok_iff texts.length).mpr ⟨texts, rfl, rfl, entries⟩),
      bind_ok_of_ok (readWord_eq_ok_iff.mpr ⟨countAt, rfl⟩)]
    simp

/-- Reading up to the keys fails with an unsupported error exactly on an unsupported header, and
with a framing error otherwise. -/
theorem readDictionary_error {data : ByteArray} {rows p : Nat} {e : Error}
    (run : readDictionary data rows 0 = .error e p) :
    ((∃ m, e = .unsupported m) ∧ UnsupportedFlags data) ∨
      ((∃ m, e = .framing m) ∧ ¬ UnsupportedFlags data) := by
  unfold readDictionary at run
  cases flagsRun : readFlags data 0 with
  | error e' p' =>
    rw [bind_error_of_error flagsRun] at run
    obtain ⟨m, rfl⟩ := readFlags_failsFraming data 0 e' p' flagsRun
    injection run with kind
    subst kind
    refine .inr ⟨⟨m, rfl⟩, ?_⟩
    rintro ⟨flags, start, header, -⟩
    rw [readFlags_eq_ok_iff.mpr header] at flagsRun
    cases flagsRun
  | ok flags start =>
    have header := readFlags_eq_ok_iff.mp flagsRun
    rw [bind_ok_of_ok flagsRun] at run
    dsimp only at run
    simp only [throw_bind_eq] at run
    by_cases global : flags &&& needGlobal ≠ 0
    · rw [if_pos global, throw_apply] at run
      injection run with kind
      subst kind
      have set := (and_needGlobal_ne_zero_iff flags).mp global
      exact .inl ⟨⟨_, rfl⟩, flags, start, header, .inl set⟩
    rw [if_neg global] at run
    by_cases lacking : flags &&& hasAdditional = 0
    · rw [if_pos lacking, throw_apply] at run
      injection run with kind
      subst kind
      have clear : flags.testBit 9 = false := by
        simpa using mt (and_hasAdditional_ne_zero_iff flags).mpr (not_not.mpr lacking)
      exact .inl ⟨⟨_, rfl⟩, flags, start, header, .inr clear⟩
    rw [if_neg lacking] at run
    -- The header is supported from here on, and every later failure is one of framing.
    refine .inr ⟨(?_ : FailsFraming _) start e p run, ?_⟩
    · refine FailsFraming.ite _ (FailsFraming.throw _) ?_
      split
      · exact FailsFraming.bind (FailsFraming.pure _) fun _ =>
          FailsFraming.bind (readWord_failsFraming data) fun size =>
            FailsFraming.bind (readTexts_failsFraming data size #[]) fun _ =>
              FailsFraming.bind (readWord_failsFraming data) fun _ =>
                FailsFraming.ite _ (FailsFraming.throw _) (FailsFraming.pure _)
      · rename_i e' width
        obtain ⟨m, rfl⟩ := ofId_failsFraming width
        exact FailsFraming.throw m
    · rintro ⟨flags', start', header', refused⟩
      rw [header.unique header'] at refused
      rcases refused with set | clear
      · exact global ((and_needGlobal_ne_zero_iff flags).mpr set)
      · have carried := mt (and_hasAdditional_ne_zero_iff flags).mp (by simp [clear])
        exact lacking (not_not.mp carried)

/-! ## The whole layout -/

theorem fixedSpan_eq_error {data : ByteArray} {rows width : Nat} {e : Error}
    (run : Codec.fixedSpan data rows width = .error e) :
    (∃ m, e = .bounds m) ∧ (Codec.maxLength < rows * width ∨ data.size < rows * width) := by
  unfold Codec.fixedSpan at run
  dsimp only at run
  split at run
  · cases run
    exact ⟨⟨_, rfl⟩, .inl ‹_›⟩
  · split at run
    · cases run
      exact ⟨⟨_, rfl⟩, .inr ‹_›⟩
    · cases run

/-- For a column with rows, reading succeeds exactly on a layout, and gives what the layout
holds. -/
theorem decode_eq_ok_iff {data : ByteArray} {rows : Nat} {d : Decoded} (nonzero : rows ≠ 0) :
    decode data rows = .ok d ↔ Layout data rows d := by
  constructor
  · intro run
    obtain ⟨pos, prefixRun, keysRun, before, keys⟩ := decode_eq_ok nonzero run
    obtain ⟨texts, dictionary, beforeKeys⟩ := readDictionary_eq_ok_iff.mp prefixRun
    obtain ⟨length, fits, reach⟩ := Codec.fixedSpan_eq_ok.mp keysRun
    simp only [ByteArray.size_extract, Nat.min_self] at reach
    have within := consumed_le_size run
    have consumed : d.consumed = pos + rows * d.keyWidth.bytes := by omega
    refine ⟨texts, pos, beforeKeys, dictionary, fits, by omega, by rw [keys, consumed], consumed⟩
  · rintro ⟨texts, keysAt, beforeKeys, dictionary, fits, reach, keys, consumed⟩
    have prefixRun := readDictionary_eq_ok_iff.mpr ⟨texts, dictionary, beforeKeys⟩
    have keysRun : Codec.fixedSpan (data.extract keysAt data.size) rows d.keyWidth.bytes =
        .ok (rows * d.keyWidth.bytes) :=
      Codec.fixedSpan_eq_ok.mpr ⟨rfl, fits, by simp only [ByteArray.size_extract]; omega⟩
    obtain ⟨dictionary', keys', width', consumed'⟩ := d
    simp only at prefixRun keysRun keys consumed
    simp only [decode, if_neg nonzero, prefixRun, keysRun, keys, consumed]

/-- How reading a column can fail: on an unsupported header with an unsupported error; on keys
cut short or uncountable, after all before them is in order, with a bounds error; and otherwise
with a framing error. -/
theorem decode_error_cases {data : ByteArray} {rows : Nat} {e : Error}
    (run : decode data rows = .error e) :
    ((∃ m, e = .unsupported m) ∧ UnsupportedFlags data ∧ ¬ KeysMissing data rows) ∨
      ((∃ m, e = .framing m) ∧ ¬ UnsupportedFlags data ∧ ¬ KeysMissing data rows) ∨
      ((∃ m, e = .bounds m) ∧ ¬ UnsupportedFlags data ∧ KeysMissing data rows) := by
  by_cases empty : rows = 0
  · subst empty
    rw [decode_zero] at run
    cases run
  unfold decode at run
  rw [if_neg empty] at run
  split at run
  · rename_i e' p failed
    cases run
    have readable : ¬ KeysMissing data rows := by
      rintro ⟨texts, w, keysAt, beforeKeys, -⟩
      rw [readDictionary_eq_ok_iff.mpr ⟨texts, rfl, beforeKeys⟩] at failed
      cases failed
    rcases readDictionary_error failed with ⟨kind, refused⟩ | ⟨kind, supported⟩
    · exact .inl ⟨kind, refused, readable⟩
    · exact .inr (.inl ⟨kind, supported, readable⟩)
  · rename_i dictionary width pos prefixRun
    split at run
    · rename_i e' short
      cases run
      obtain ⟨kind, missing⟩ := fixedSpan_eq_error short
      have within := (readDictionary_framed rows data 0 _ pos (Nat.zero_le _) prefixRun).2.1
      obtain ⟨texts, rfl, beforeKeys⟩ := readDictionary_eq_ok_iff.mp prefixRun
      have supported : ¬ UnsupportedFlags data := by
        obtain ⟨flags, start, entriesEnd, header, supportedFlags, -⟩ := beforeKeys
        exact not_unsupportedFlags header supportedFlags
      simp only [ByteArray.size_extract, Nat.min_self] at missing
      refine .inr (.inr ⟨kind, supported, texts, width, pos, beforeKeys, ?_⟩)
      omega
    · cases run

/-- A dictionary column is read from exactly its layouts. Without rows it takes no bytes and has
an empty dictionary. With rows, reading succeeds exactly on a `Layout`, and gives the texts, keys,
width and length the layout has. A failure is unsupported exactly when the header's flags word
asks for a dictionary shared with the server or carries no keys, a bounds error exactly when all
before the keys is in order but the keys are cut short or too many to count, and a framing error
otherwise. -/
theorem decode_reads_exactly_layouts (data : ByteArray) (rows : Nat) :
    (∀ d, decode data rows = .ok d ↔
      (rows = 0 ∧ d = ⟨#[], ByteArray.empty, .u8, 0⟩) ∨ (rows ≠ 0 ∧ Layout data rows d)) ∧
    ∀ e, decode data rows = .error e →
      (e.kind = "Unsupported" ↔ UnsupportedFlags data) ∧
      (e.kind = "Bounds" ↔ KeysMissing data rows) ∧
      (e.kind = "Framing" ∨ e.kind = "Unsupported" ∨ e.kind = "Bounds") := by
  refine ⟨fun d => ?_, fun e run => ?_⟩
  · by_cases empty : rows = 0
    · subst empty
      rw [decode_zero]
      simp only [Except.ok.injEq, true_and, ne_eq, not_true_eq_false, false_and, or_false]
      exact eq_comm
    · simp only [empty, false_and, false_or, ne_eq, not_false_eq_true, true_and]
      exact decode_eq_ok_iff empty
  · rcases decode_error_cases run with ⟨⟨m, rfl⟩, refused, readable⟩ |
        ⟨⟨m, rfl⟩, supported, readable⟩ | ⟨⟨m, rfl⟩, supported, missing⟩
    · simp [Error.kind, refused, readable]
    · simp [Error.kind, supported, readable]
    · simp [Error.kind, supported, missing]

end Dictionary

end NativeBlock
