import NativeBlock.Codec.Dictionary
import NativeBlock.Proofs.Spans

/-!
# Dictionary layouts

A `LowCardinality(String)` column is read in two parts: `readDictionary` walks the words, the
entries and the key count, and the keys after them are measured as fixed slots. The first part
is a framed reader, so the whole layout decides its own length:

* `decode_selfDelimiting`: the bytes a decoded column consumes decide it, dictionary and keys
  included; a buffer cut short of them fails;
* `keys_size_decode`: the keys hold exactly one slot of the key width per row;
* `decode_encode`: the layout that `encode` writes for texts and keys reads back as those texts,
  with every row's key.
-/

namespace NativeBlock.Dictionary

open Wire

/-! ## The words and texts before the keys -/

theorem readWord_framed : Framed readWord := by
  intro data pos v stop _ run
  unfold readWord at run
  split at run
  · rename_i fits
    cases run
    refine ⟨by omega, fits, fun data' agree => ⟨fun reach => ?_, fun start short => ?_⟩⟩
    · unfold readWord
      rw [if_pos reach, agree.extract_eq (Nat.le_refl _) fits reach]
    · unfold readWord
      rw [if_neg (by omega)]
      exact ⟨_, _, rfl⟩
  · cases run

theorem readFlags_framed : Framed readFlags := by
  unfold readFlags
  refine Framed.bind readWord_framed fun first => ?_
  exact Framed.ite _ (Framed.pure _) (Framed.ite _ readWord_framed (Framed.throw _))

theorem readTexts_framed (n : Nat) (acc : Array String) :
    Framed (fun data => readTexts data n acc) := by
  induction n generalizing acc with
  | zero => exact Framed.pure acc
  | succ n ih => exact Framed.bind readText_framed fun s => ih (acc.push s)

theorem readDictionary_framed (rows : Nat) : Framed (fun data => readDictionary data rows) := by
  unfold readDictionary
  refine Framed.bind readFlags_framed fun flags => ?_
  dsimp only
  simp only [throw_bind_eq]
  -- The three checks of the flags word look at no byte.
  refine Framed.ite _ (Framed.throw _) (Framed.ite _ (Framed.throw _) (Framed.ite _ (Framed.throw _) ?_))
  cases KeyWidth.ofId (flags &&& 255) with
  | error e => exact Framed.throw e
  | ok width =>
    simp only [pure_bind]
    refine Framed.bind readWord_framed fun size => Framed.bind (readTexts_framed size #[])
      fun dictionary => Framed.bind readWord_framed fun keyRows => ?_
    exact Framed.ite _ (Framed.throw _) (Framed.pure _)

theorem readWord_placed {x pos : Nat} {data : ByteArray} (fits : x < 2 ^ 64)
    (placed : Placed data pos (encodeLE 8 x).toByteArray) :
    readWord data pos = .ok x (pos + 8) := by
  obtain ⟨reach, bytes⟩ := placed.sized (show (encodeLE 8 x).toByteArray.size = 8 by simp)
  unfold readWord
  rw [if_pos reach, bytes, toList_toByteArray, decodeLE_encodeLE,
    Nat.mod_eq_of_lt (by simpa using fits)]

/-! ## The whole layout -/

/-- A column without rows is no bytes at all. -/
theorem decode_zero (data : ByteArray) : decode data 0 = .ok ⟨#[], ByteArray.empty, .u8, 0⟩ := by
  simp [decode]

/-- The layout of a column with rows, read in its two parts. -/
theorem decode_eq_ok {data : ByteArray} {rows : Nat} {d : Decoded} (nonzero : rows ≠ 0)
    (run : decode data rows = .ok d) :
    ∃ pos, readDictionary data rows 0 = .ok (d.dictionary, d.keyWidth) pos ∧
      Codec.fixedSpan (data.extract pos data.size) rows d.keyWidth.bytes = .ok (d.consumed - pos) ∧
      pos ≤ d.consumed ∧ d.keys = data.extract pos d.consumed := by
  simp only [decode, if_neg nonzero] at run
  split at run
  · cases run
  · rename_i dictionary width pos prefixRun
    split at run
    · cases run
    · rename_i keysLen keysRun
      cases run
      refine ⟨pos, prefixRun, ?_, Nat.le_add_right _ _, rfl⟩
      rw [Nat.add_sub_cancel_left]
      exact keysRun

/-- The layout decides its own length: the bytes it consumes are in the buffer, a buffer that
holds the same bytes reads the same dictionary and keys, and one cut short of them fails. -/
theorem decode_selfDelimiting (rows : Nat) :
    SelfDelimiting (fun data => decode data rows) Decoded.consumed := by
  intro data d run
  dsimp only at run ⊢
  by_cases empty : rows = 0
  · subst empty
    rw [decode_zero] at run
    cases run
    exact ⟨Nat.zero_le _, fun data' _ =>
      ⟨fun _ => decode_zero data', fun short => absurd short (Nat.not_lt_zero _)⟩⟩
  · obtain ⟨pos, prefixRun, keysRun, before, keys⟩ := decode_eq_ok empty run
    obtain ⟨_, within, agreeing⟩ :=
      readDictionary_framed rows data 0 _ pos (Nat.zero_le _) prefixRun
    obtain ⟨keysLen, fits, reach⟩ := Codec.fixedSpan_eq_ok.mp keysRun
    simp only [ByteArray.size_extract] at reach
    refine ⟨by omega, fun data' agree => ⟨fun long => ?_, fun short => ?_⟩⟩
    · have again := (agreeing data' (agree.mono before)).1 (by omega)
      have keysRun' : Codec.fixedSpan (data'.extract pos data'.size) rows d.keyWidth.bytes =
          .ok (d.consumed - pos) :=
        Codec.fixedSpan_eq_ok.mpr ⟨keysLen, fits, by simp only [ByteArray.size_extract]; omega⟩
      have sameKeys : data'.extract pos d.consumed = d.keys := by
        rw [keys]
        exact agree.extract_eq (Nat.le_refl _) (by omega) long
      simp only [decode, if_neg empty, again, keysRun', Nat.add_sub_cancel' before, sameKeys]
    · by_cases early : data'.size < pos
      · obtain ⟨e, s, failed⟩ := (agreeing data' (agree.mono before)).2 (Nat.zero_le _) early
        exact ⟨e, by simp only [decode, if_neg empty, failed]⟩
      · have again := (agreeing data' (agree.mono before)).1 (Nat.le_of_not_lt early)
        have short' : (data'.extract pos data'.size).size < rows * d.keyWidth.bytes := by
          simp only [ByteArray.size_extract]
          omega
        obtain ⟨e, failed⟩ := Codec.fixedSpan_error_of_lt short'
        exact ⟨e, by simp only [decode, if_neg empty, again, failed]⟩

/-- The bytes a decoded column consumes are in the buffer. -/
theorem consumed_le_size {data : ByteArray} {rows : Nat} {d : Decoded}
    (run : decode data rows = .ok d) : d.consumed ≤ data.size :=
  (decode_selfDelimiting rows data d run).1

/-- The keys hold one slot of the key width per row. -/
theorem keys_size_decode {data : ByteArray} {rows : Nat} {d : Decoded}
    (run : decode data rows = .ok d) : d.keys.size = rows * d.keyWidth.bytes := by
  by_cases empty : rows = 0
  · subst empty
    rw [decode_zero] at run
    cases run
    rfl
  · obtain ⟨pos, _, keysRun, before, keys⟩ := decode_eq_ok empty run
    obtain ⟨keysLen, _, reach⟩ := Codec.fixedSpan_eq_ok.mp keysRun
    simp only [ByteArray.size_extract] at reach
    rw [keys, ByteArray.size_extract]
    omega

/-- Keys of one slot per row hold the key of every row. -/
theorem KeyWidth.read_eq_some {w : KeyWidth} {keys : ByteArray} {rows row : Nat}
    (size : keys.size = rows * w.bytes) (lt : row < rows) : ∃ key, w.read keys row = some key := by
  have slots : (row + 1) * w.bytes ≤ rows * w.bytes := Nat.mul_le_mul_right _ lt
  have reach : row * w.bytes + w.bytes ≤ keys.size := by
    rw [size, ← Nat.succ_mul]
    exact slots
  unfold KeyWidth.read
  exact ⟨_, if_pos reach⟩

/-! ## Reading back what `encode` writes -/

/-- Texts written one after another, each behind its length, as a dictionary's entries are. -/
def entriesOf (texts : List String) : ByteArray :=
  texts.foldl (fun out s => writePrefixed out s.toUTF8) ByteArray.empty

/-- The layout before the keys as `encode` writes it: the version, the flags word for keys of
width `w`, the dictionary size, the entries and the key count. -/
def headerOf (w : KeyWidth) (texts : List String) (rows : Nat) : ByteArray :=
  (encodeLE 8 version ++ encodeLE 8 (w.id ||| hasAdditional ||| needUpdate) ++
    encodeLE 8 texts.length).toByteArray ++ entriesOf texts ++ (encodeLE 8 rows).toByteArray

/-- The keys of the rows, one little-endian slot of width `w` each. -/
def keysOf (w : KeyWidth) (indices : List Nat) : ByteArray :=
  (indices.flatMap (encodeLE w.bytes)).toByteArray

theorem foldl_writePrefixed (out : ByteArray) (texts : List String) :
    texts.foldl (fun out s => writePrefixed out s.toUTF8) out = out ++ entriesOf texts := by
  induction texts generalizing out with
  | nil => simp [entriesOf]
  | cons s texts ih =>
    simp only [List.foldl_cons, entriesOf]
    rw [ih, ih (writePrefixed ByteArray.empty s.toUTF8), writePrefixed_eq_append out,
      ByteArray.append_assoc]

theorem entriesOf_cons (s : String) (texts : List String) :
    entriesOf (s :: texts) = writePrefixed ByteArray.empty s.toUTF8 ++ entriesOf texts := by
  rw [entriesOf, List.foldl_cons, foldl_writePrefixed]

/-- Entries placed anywhere read back as their texts, appended to those read before. -/
theorem readTexts_placed (texts : List String) (fits : ∀ s ∈ texts, s.utf8ByteSize < 2 ^ 64) :
    ∀ (acc : Array String) (pos : Nat) (data : ByteArray), Placed data pos (entriesOf texts) →
      readTexts data texts.length acc pos =
        .ok (acc ++ texts.toArray) (pos + (entriesOf texts).size) := by
  induction texts with
  | nil =>
    intro acc pos data _
    simp [readTexts, entriesOf]
  | cons s texts ih =>
    intro acc pos data placed
    rw [entriesOf_cons] at placed ⊢
    have first := readText_placed (fits s List.mem_cons_self) placed.left
    have rest := ih (fun t mem => fits t (List.mem_cons_of_mem s mem)) (acc.push s) _ data placed.right
    simp only [List.length_cons, readTexts]
    rw [bind_ok_of_ok first, rest]
    simp [ByteArray.size_append, Nat.add_assoc]

/-- The flags word that `encode` writes passes every check the reader makes of it. -/
theorem flags_checks (w : KeyWidth) :
    (w.id ||| hasAdditional ||| needUpdate) < 2 ^ 64 ∧
    ¬ ((w.id ||| hasAdditional ||| needUpdate) &&& needGlobal ≠ 0) ∧
    ¬ ((w.id ||| hasAdditional ||| needUpdate) &&& hasAdditional = 0) ∧
    ¬ ((w.id ||| hasAdditional ||| needUpdate) &&& (0xFFFFFFFFFFFFFFFF - knownFlags) ≠ 0) ∧
    KeyWidth.ofId ((w.id ||| hasAdditional ||| needUpdate) &&& 255) = .ok w := by
  cases w <;> exact ⟨by decide, by decide, by decide, by decide, rfl⟩

theorem readDictionary_placed {texts : List String} {w : KeyWidth} {rows : Nat} {data : ByteArray}
    (textsFit : ∀ s ∈ texts, s.utf8ByteSize < 2 ^ 64) (countFits : texts.length < 2 ^ 64)
    (rowsFit : rows < 2 ^ 64) (placed : Placed data 0 (headerOf w texts rows)) :
    readDictionary data rows 0 = .ok (texts.toArray, w) (headerOf w texts rows).size := by
  obtain ⟨flagsFit, global, additional, unknown, width⟩ := flags_checks w
  have parts : headerOf w texts rows =
      (encodeLE 8 version).toByteArray ++
        (encodeLE 8 (w.id ||| hasAdditional ||| needUpdate)).toByteArray ++
        (encodeLE 8 texts.length).toByteArray ++ entriesOf texts ++ (encodeLE 8 rows).toByteArray := by
    simp only [headerOf, List.toByteArray_append]
  rw [parts] at placed ⊢
  -- One read per section of the header, each at the offset the sections before it end.
  have versionRun := readWord_placed (by decide) placed.left.left.left.left
  have flagsWordRun := readWord_placed flagsFit placed.left.left.left.right
  have sizeRun := readWord_placed countFits placed.left.left.right
  have entriesRun := readTexts_placed texts textsFit #[] _ data placed.left.right
  have rowsRun := readWord_placed rowsFit placed.right
  simp only [ByteArray.size_append, List.size_toByteArray, encodeLE_length, Nat.zero_add]
    at flagsWordRun sizeRun entriesRun rowsRun ⊢
  have flagsRun : readFlags data 0 = .ok (w.id ||| hasAdditional ||| needUpdate) 16 := by
    unfold readFlags
    rw [bind_ok_of_ok versionRun]
    simpa [version, hasAdditional] using flagsWordRun
  unfold readDictionary
  rw [bind_ok_of_ok flagsRun]
  dsimp only
  simp only [global, additional, unknown, width, if_false, throw_bind_eq, pure_bind]
  rw [bind_ok_of_ok sizeRun, bind_ok_of_ok entriesRun, bind_ok_of_ok rowsRun]
  simp

theorem size_keysOf (w : KeyWidth) (indices : List Nat) :
    (keysOf w indices).size = indices.length * w.bytes := by
  induction indices with
  | nil => simp [keysOf]
  | cons x rest ih =>
    simp only [keysOf, List.flatMap_cons, List.toByteArray_append, ByteArray.size_append] at ih ⊢
    simp only [List.size_toByteArray, encodeLE_length, ih, List.length_cons, Nat.succ_mul]
    omega

theorem placed_keysOf (w : KeyWidth) (indices : List Nat) (i : Nat) (lt : i < indices.length) :
    Placed (keysOf w indices) (i * w.bytes) (encodeLE w.bytes indices[i]).toByteArray := by
  induction indices generalizing i with
  | nil => cases lt
  | cons x rest ih =>
    have parts : keysOf w (x :: rest) = (encodeLE w.bytes x).toByteArray ++ keysOf w rest := by
      simp only [keysOf, List.flatMap_cons, List.toByteArray_append]
    rw [parts]
    cases i with
    | zero => simpa using Placed.front (encodeLE w.bytes x).toByteArray (keysOf w rest)
    | succ i =>
      have later := (ih i (by simpa using lt)).after (encodeLE w.bytes x).toByteArray
      simpa [Nat.succ_mul, Nat.add_comm] using later

/-- Each row's key reads back from its slot, when the slot is wide enough for it. -/
theorem read_keysOf (w : KeyWidth) (indices : List Nat) (i : Nat) (lt : i < indices.length)
    (bound : indices[i] < 256 ^ w.bytes) : w.read (keysOf w indices) i = some indices[i] := by
  obtain ⟨reach, bytes⟩ := (placed_keysOf w indices i lt).sized
    (show (encodeLE w.bytes indices[i]).toByteArray.size = w.bytes by simp)
  unfold KeyWidth.read
  rw [if_pos reach, bytes, toList_toByteArray, decodeLE_encodeLE, Nat.mod_eq_of_lt bound]

/-- The narrowest key width for a dictionary is wide enough for every key into it. -/
theorem lt_pow_forCardinality {n idx : Nat} (lt : idx < n) (fits : n < 2 ^ 64) :
    idx < 256 ^ (KeyWidth.forCardinality n).bytes := by
  unfold KeyWidth.forCardinality
  by_cases small : n ≤ 256
  · simp only [if_pos small, KeyWidth.bytes]
    omega
  · by_cases medium : n ≤ 65536
    · simp only [if_neg small, if_pos medium, KeyWidth.bytes]
      omega
    · by_cases large : n ≤ 4294967296
      · simp only [if_neg small, if_neg medium, if_pos large, KeyWidth.bytes]
        omega
      · simp only [if_neg small, if_neg medium, if_neg large, KeyWidth.bytes]
        omega

/-- The width for a dictionary of `n` entries is the narrowest of the four whose keys reach its
last entry `n - 1`: a width reaches it exactly when it is at least as wide. -/
theorem forCardinality_narrowest {n : Nat} (fits : n ≤ 2 ^ 64) (w : KeyWidth) :
    n - 1 < 256 ^ w.bytes ↔ (KeyWidth.forCardinality n).bytes ≤ w.bytes := by
  unfold KeyWidth.forCardinality
  -- One case per width asked about and per tier the count falls in.
  cases w <;> split_ifs <;> simp only [KeyWidth.bytes] <;> omega

theorem KeyWidth.bytes_pos (w : KeyWidth) : 0 < w.bytes := by
  cases w <;> decide

/-- Appending one slot per element, where each element passes, appends all the slots. -/
theorem foldlM_append_eq {step : ByteArray → Nat → Except Error ByteArray} {g : Nat → List UInt8}
    {p : Nat → Prop} (ok : ∀ out x, p x → step out x = .ok (out ++ (g x).toByteArray)) :
    ∀ (l : List Nat) (out : ByteArray), (∀ x ∈ l, p x) →
      l.foldlM step out = .ok (out ++ (l.flatMap g).toByteArray)
  | [], out, _ => by simp [pure, Except.pure]
  | x :: l, out, all => by
    rw [List.foldlM_cons, ok out x (all x List.mem_cons_self)]
    have rest := foldlM_append_eq ok l (out ++ (g x).toByteArray)
      (fun y mem => all y (List.mem_cons_of_mem x mem))
    simp only [bind, Except.bind, rest, List.flatMap_cons, List.toByteArray_append,
      ByteArray.append_assoc]

/-- Without rows `encode` writes nothing. -/
theorem encode_nil (entries : ByteArray) (dictLen : Nat) : encode entries dictLen [] = .ok ByteArray.empty := by
  simp [encode]

/-- With rows and every key inside the dictionary, `encode` writes the header and then the keys
at the narrowest width. -/
theorem encode_eq_ok {texts : List String} {indices : List Nat} (nonempty : indices ≠ [])
    (inside : ∀ i ∈ indices, i < texts.length) :
    encode (entriesOf texts) texts.length indices =
      .ok (headerOf (KeyWidth.forCardinality texts.length) texts indices.length ++
        keysOf (KeyWidth.forCardinality texts.length) indices) := by
  unfold encode
  rw [if_neg (by simpa using nonempty)]
  exact foldlM_append_eq (fun out x lt => if_pos lt) indices _ inside

/-- The header and keys that `encode` writes for rows read back, whatever follows them, as the
texts, those keys and that width, consumed up to the last key. -/
theorem decode_headerOf_keysOf {w : KeyWidth} {texts : List String} {indices : List Nat}
    (nonempty : indices ≠ []) (textsFit : ∀ s ∈ texts, s.utf8ByteSize < 2 ^ 64)
    (countFits : texts.length < 2 ^ 64) (keysFit : indices.length * w.bytes ≤ Codec.maxLength)
    (rest : ByteArray) :
    decode (headerOf w texts indices.length ++ keysOf w indices ++ rest) indices.length =
      .ok ⟨texts.toArray, keysOf w indices, w,
        (headerOf w texts indices.length).size + indices.length * w.bytes⟩ := by
  have nonzero : indices.length ≠ 0 := by simpa using nonempty
  have rowsFit : indices.length < 2 ^ 64 := by
    have wide := Nat.le_mul_of_pos_right indices.length (KeyWidth.bytes_pos w)
    unfold Codec.maxLength at keysFit
    omega
  have header := readDictionary_placed textsFit countFits rowsFit
    (Placed.front (headerOf w texts indices.length) (keysOf w indices ++ rest))
  rw [← ByteArray.append_assoc] at header
  obtain ⟨reach, keys⟩ :=
    (Placed.middle (headerOf w texts indices.length) (keysOf w indices) rest).sized
      (size_keysOf w indices)
  have span : Codec.fixedSpan ((headerOf w texts indices.length ++ keysOf w indices ++ rest).extract
      (headerOf w texts indices.length).size
      (headerOf w texts indices.length ++ keysOf w indices ++ rest).size) indices.length w.bytes =
      .ok (indices.length * w.bytes) :=
    Codec.fixedSpan_eq_ok.mpr ⟨rfl, keysFit, by simp only [ByteArray.size_extract]; omega⟩
  simp only [decode, if_neg nonzero, header, span, keys]

/-- What `encode` writes for texts and keys into them reads back, whatever follows it: the
layout is consumed exactly, the dictionary is the texts, and every row has its key. The texts
and counts are 64-bit lengths, and the keys' bytes are one. -/
theorem decode_encode {texts : List String} {indices : List Nat}
    (inside : ∀ i ∈ indices, i < texts.length)
    (textsFit : ∀ s ∈ texts, s.utf8ByteSize < 2 ^ 64) (countFits : texts.length < 2 ^ 64)
    (keysFit : indices.length * (KeyWidth.forCardinality texts.length).bytes ≤ Codec.maxLength)
    (rest : ByteArray) :
    ∃ payload, encode (entriesOf texts) texts.length indices = .ok payload ∧
      ∃ d, decode (payload ++ rest) indices.length = .ok d ∧ d.consumed = payload.size ∧
        (indices ≠ [] → d.dictionary = texts.toArray) ∧
        ∀ i (lt : i < indices.length), d.keyWidth.read d.keys i = some indices[i] := by
  by_cases empty : indices = []
  · subst empty
    exact ⟨ByteArray.empty, by simp [encode], _, decode_zero _, rfl, fun absent => absurd rfl absent,
      fun i lt => absurd lt (Nat.not_lt_zero i)⟩
  · have bound : ∀ i (lt : i < indices.length),
        indices[i] < 256 ^ (KeyWidth.forCardinality texts.length).bytes :=
      fun i lt => lt_pow_forCardinality (inside _ (List.getElem_mem lt)) countFits
    refine ⟨_, encode_eq_ok empty inside, _,
      decode_headerOf_keysOf empty textsFit countFits keysFit rest, ?_, fun _ => rfl,
      fun i lt => read_keysOf _ indices i lt (bound i lt)⟩
    simp only [ByteArray.size_append, size_keysOf]

/-- Every text stands in the entries behind its length, so the entries are at least as long as
the number of texts and as any one text. -/
theorem size_entriesOf_ge (texts : List String) :
    texts.length ≤ (entriesOf texts).size ∧
      ∀ s ∈ texts, s.utf8ByteSize ≤ (entriesOf texts).size := by
  induction texts with
  | nil => simp [entriesOf]
  | cons s texts ih =>
    rw [entriesOf_cons, ByteArray.size_append, size_writePrefixed, String.toUTF8_eq_toByteArray,
      String.size_toByteArray]
    have varint := uvarintLen_pos s.utf8ByteSize
    refine ⟨by simp only [List.length_cons]; omega, fun t mem => ?_⟩
    rcases List.mem_cons.mp mem with rfl | mem
    · omega
    · have := ih.2 t mem
      omega

/-- A layout that `encode` wrote in fewer than `2 ^ 64` bytes, for no more texts than rows, has
texts, a text count and a key array of 64-bit lengths: what `decode_encode` asks of it. -/
theorem fits_of_encode {texts : List String} {indices : List Nat} {payload : ByteArray}
    (inside : ∀ i ∈ indices, i < texts.length) (fewer : texts.length ≤ indices.length)
    (run : encode (entriesOf texts) texts.length indices = .ok payload)
    (fits : payload.size < 2 ^ 64) :
    (∀ s ∈ texts, s.utf8ByteSize < 2 ^ 64) ∧ texts.length < 2 ^ 64 ∧
      indices.length * (KeyWidth.forCardinality texts.length).bytes ≤ Codec.maxLength := by
  by_cases empty : indices = []
  · subst empty
    obtain rfl : texts = [] := by simpa using fewer
    exact ⟨fun s mem => absurd mem List.not_mem_nil, by decide, by simp⟩
  · rw [encode_eq_ok empty inside] at run
    obtain rfl := Except.ok.inj run
    obtain ⟨count, each⟩ := size_entriesOf_ge texts
    simp only [headerOf, ByteArray.size_append, List.size_toByteArray, encodeLE_length,
      size_keysOf] at fits
    refine ⟨fun s mem => by have := each s mem; omega, by omega, ?_⟩
    unfold Codec.maxLength
    omega

end NativeBlock.Dictionary
