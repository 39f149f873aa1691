import NativeBlock.Proofs.ColumnWrite

/-!
# The dictionary a text column writes

A `LowCardinality(String)` writer gives each text the position it has in the dictionary, and adds
the text at the end when it has none. So the dictionary is the distinct texts in the order they
were first written, each once (`FirstSeen`): the list `List.eraseDups` keeps of the rows.

Main statement: `dictionary_column_round_trip`. Texts written to a dictionary column and finished
give a layout that the reader takes back whole: its dictionary is the first-seen one, its keys are
of the narrowest width that reaches the dictionary's last entry, and every row's key points at the
row's text. This holds whatever the workspace's scratch held before, since opening the column
clears it.
-/

namespace NativeBlock

namespace DictionaryScratch

/-- A text gets the next position exactly when the texts do not hold it yet. -/
theorem keyOf_eq_size_iff {texts : Array String} {v : String} :
    keyOf texts v = texts.size ↔ v ∉ texts := by
  unfold keyOf
  cases found : texts.idxOf? v with
  | none => simpa using Array.idxOf?_eq_none_iff.mp found
  | some k =>
    have held : v ∈ texts := Array.isSome_idxOf?.mp (by simp [found])
    rw [Array.idxOf?_eq_map_finIdxOf?_val, Option.map_eq_some_iff] at found
    obtain ⟨i, -, rfl⟩ := found
    simp only [Option.getD_some, held, not_true_eq_false, iff_false]
    exact Nat.ne_of_lt i.isLt

/-- A write adds its text exactly when the text is new. -/
theorem grown_eq (texts : Array String) (v : String) :
    grown texts v = if v ∈ texts then texts else texts.push v := by
  unfold grown
  by_cases held : v ∈ texts
  · rw [if_neg (mt keyOf_eq_size_iff.mp (not_not.mpr held)), if_pos held]
  · rw [if_pos (keyOf_eq_size_iff.mpr held), if_neg held]

/-- One more row: its text is new to the rows before it or it adds nothing to their distinct
texts. -/
theorem eraseDups_append_singleton (rows : List String) (v : String) :
    (rows ++ [v]).eraseDups = rows.eraseDups ++ if v ∈ rows then [] else [v] := by
  rw [List.eraseDups_append]
  by_cases seen : v ∈ rows <;> simp [List.removeAll, List.eraseDups_cons, seen]

/-- Texts that are the distinct texts of `rows`, each once, in the order first written. -/
structure FirstSeen (texts : Array String) (rows : List String) : Prop where
  eq_eraseDups : texts.toList = rows.eraseDups
  nodup : texts.toList.Nodup

theorem firstSeen_empty : FirstSeen #[] [] := ⟨rfl, List.nodup_nil⟩

/-- A write keeps the texts first-seen: a text already held adds nothing, a new one goes at the
end, where it is the only copy. -/
theorem FirstSeen.grown {texts : Array String} {rows : List String}
    (seen : FirstSeen texts rows) (v : String) : FirstSeen (grown texts v) (rows ++ [v]) := by
  obtain ⟨same, distinct⟩ := seen
  have held : v ∈ texts ↔ v ∈ rows := by
    rw [← Array.mem_toList_iff, same, List.mem_eraseDups]
  rw [grown_eq]
  by_cases old : v ∈ rows
  · rw [if_pos (held.mpr old)]
    refine ⟨?_, distinct⟩
    rw [same, eraseDups_append_singleton, if_pos old, List.append_nil]
  · rw [if_neg (mt held.mp old)]
    refine ⟨by rw [Array.toList_push, same, eraseDups_append_singleton, if_neg old], ?_⟩
    rw [Array.toList_push]
    refine List.nodup_append.mpr ⟨distinct, List.nodup_singleton v, ?_⟩
    intro a mem b single
    obtain rfl := List.mem_singleton.mp single
    rintro rfl
    exact old (held.mp (Array.mem_toList_iff.mp mem))

/-- Texts recorded one after another keep the scratch's texts first-seen. -/
theorem FirstSeen.foldl_add {d : DictionaryScratch} {rows : List String}
    (seen : FirstSeen d.texts rows) (vs : List String) :
    FirstSeen (vs.foldl add d).texts (rows ++ vs) := by
  induction vs generalizing d rows with
  | nil => simpa using seen
  | cons v vs ih =>
    have grownSeen := seen.grown v
    rw [← texts_add] at grownSeen
    simpa using ih grownSeen

end DictionaryScratch

/-- A dictionary column, opened in a block with a column left and as many rows as `vs`, takes
every text and is committed as its header and a payload, which is empty without rows; the
scratch is cleared when the column opens, whatever it held. When the payload has a 64-bit length
the reader takes it back whole: the dictionary is the distinct texts in the order first written,
each once, as many as the column's cardinality; the key width is the one for that many entries,
the narrowest whose keys reach the last of them; and every row's key points at the row's
text. -/
theorem dictionary_column_round_trip (w : BlockWriter) (name : String) (vs : List String)
    (unsealed : w.sealed = false) (left : w.started < w.columns) (counted : vs.length = w.rows) :
    ∃ cw w₁ cw' d payload, w.createDictionary name = .ok (cw, w₁) ∧
      writeAll (fun st v => st.1.write st.2 v) (cw, w₁.ws.scratch) vs = .ok (cw', d) ∧
      ((w₁.withScratch d).finishDictionary cw').1 = .ok () ∧
      ((w₁.withScratch d).finishDictionary cw').2.segments = w.segments ++
        [ColumnHeader.bytes ⟨name, (ColumnType.lowCardinality .string).render⟩ ++ payload] ∧
      (vs = [] → payload = ByteArray.empty) ∧
      (payload.size < 2 ^ 64 → ∃ dec, Dictionary.decode payload vs.length = .ok dec ∧
        dec.consumed = payload.size ∧ dec.dictionary.toList = vs.eraseDups ∧
        dec.dictionary.toList.Nodup ∧ d.cardinality = dec.dictionary.size ∧
        dec.keyWidth = Dictionary.KeyWidth.forCardinality dec.dictionary.size ∧
        (∀ kw : Dictionary.KeyWidth,
          dec.dictionary.size - 1 < 256 ^ kw.bytes ↔ dec.keyWidth.bytes ≤ kw.bytes) ∧
        ∀ i (lt : i < vs.length), ∃ key, dec.keyWidth.read dec.keys i = some key ∧
          dec.dictionary[key]? = some vs[i]) := by
  obtain ⟨cap, ws, created⟩ := BlockWriter.createDictionary_eq_ok unsealed left name
  -- The texts are recorded in the scratch, which opening the column cleared.
  have holds := DictionaryScratch.holds_empty.foldl_add vs
  have seen := DictionaryScratch.firstSeen_empty.foldl_add (d := .empty) vs
  rw [List.nil_append] at holds seen
  set d := vs.foldl DictionaryScratch.add .empty
  have run := DictionaryWriter.writeAll_eq_ok vs
    ⟨⟨name, w.rows, ⟨ColumnHeader.bytes ⟨name, (ColumnType.lowCardinality .string).render⟩, cap⟩⟩,
      0⟩ DictionaryScratch.empty (Nat.le_of_eq (by simpa using counted))
  obtain ⟨payload, encoded, finished⟩ :=
    BlockWriter.finishDictionary_of_holds (w := { w with ws := ws, started := w.started + 1 })
      (c := ⟨⟨name, w.rows, ⟨ColumnHeader.bytes ⟨name, (ColumnType.lowCardinality .string).render⟩,
        cap⟩⟩, 0 + vs.length⟩) holds (by simpa using counted)
  -- The keys the scratch keeps are the rows' keys, one per row, each among the texts.
  have keyCount : d.keys.toList.length = vs.length := by
    rw [Array.length_toList, holds.size_keys]
  have inside : ∀ k ∈ d.keys.toList, k < d.texts.toList.length := fun k mem => by
    rw [Array.length_toList]
    exact holds.key_lt mem
  have emptyPayload : vs = [] → payload = ByteArray.empty := fun empty => by
    subst empty
    rw [List.eq_nil_of_length_eq_zero keyCount, Dictionary.encode_nil] at encoded
    exact (Except.ok.inj encoded).symm
  refine ⟨_, _, _, d, payload, created, run, ?_, ?_, emptyPayload, fun fits => ?_⟩
  · rw [BlockWriter.withScratch_withScratch, finished]
  · rw [BlockWriter.withScratch_withScratch, finished]
    simp [BlockWriter.segments, ColumnSlot.setBytes, Buffer.setBytes]
  obtain ⟨textsFit, countFits, keysFit⟩ := Dictionary.fits_of_encode inside
    (by rw [keyCount, ← holds.size_keys, Array.length_toList]; exact holds.size_le) encoded fits
  by_cases empty : vs = []
  · have noPayload := emptyPayload empty
    subst empty
    have noTexts : d.texts.toList = [] := by simpa using seen.eq_eraseDups
    have noEntries : d.texts.size = 0 := by simpa using noTexts
    refine ⟨_, Dictionary.decode_zero payload, by rw [noPayload]; rfl, rfl, List.nodup_nil,
      noEntries, rfl, Dictionary.forCardinality_narrowest (by decide),
      fun i lt => absurd lt (Nat.not_lt_zero i)⟩
  · have keysNonempty : d.keys.toList ≠ [] := by
      rw [← List.length_pos_iff, keyCount]
      exact List.length_pos_iff.mpr empty
    rw [Dictionary.encode_eq_ok keysNonempty inside] at encoded
    obtain rfl := Except.ok.inj encoded
    have decoded := Dictionary.decode_headerOf_keysOf keysNonempty textsFit countFits keysFit
      ByteArray.empty
    -- The row count the layout is written for is the number of rows.
    rw [ByteArray.append_empty, keyCount] at decoded
    rw [keyCount]
    refine ⟨_, decoded, ?_, by simpa using seen.eq_eraseDups, by simpa using seen.nodup,
      by simp [DictionaryScratch.cardinality], by simp,
      Dictionary.forCardinality_narrowest (by simp only [List.size_toArray]; omega), ?_⟩
    · simp only [ByteArray.size_append, Dictionary.size_keysOf, keyCount]
    · intro i lt
      obtain ⟨key, keyAt, textAt⟩ := holds.lookup i lt
      have row : i < d.keys.toList.length := by rw [keyCount]; exact lt
      have onList : d.keys.toList[i] = key := by
        rw [Array.getElem_toList]
        exact (Array.getElem?_eq_some_iff.mp keyAt).2
      refine ⟨key, ?_, by simpa using textAt⟩
      rw [← onList]
      exact Dictionary.read_keysOf _ _ i row
        (Dictionary.lt_pow_forCardinality (inside _ (List.getElem_mem _)) countFits)

/-- Three rows, one repeated, written on a workspace whose scratch an earlier dictionary column
left holding a text of its own. -/
theorem dictionary_column_round_trip_repeated :
    (BlockWriter.new ⟨64, 0, #[], ⟨#["z"], ⟨#[1, 122]⟩, #[0]⟩⟩ 1 3).sealed = false ∧
    (BlockWriter.new ⟨64, 0, #[], ⟨#["z"], ⟨#[1, 122]⟩, #[0]⟩⟩ 1 3).started <
      (BlockWriter.new ⟨64, 0, #[], ⟨#["z"], ⟨#[1, 122]⟩, #[0]⟩⟩ 1 3).columns ∧
    ∃ cw w₁ cw' d, (BlockWriter.new ⟨64, 0, #[], ⟨#["z"], ⟨#[1, 122]⟩, #[0]⟩⟩ 1 3).createDictionary
        "s" = .ok (cw, w₁) ∧
      writeAll (fun st v => st.1.write st.2 v) (cw, w₁.ws.scratch) ["a", "b", "a"] = .ok (cw', d) ∧
      ((w₁.withScratch d).finishDictionary cw').1 = .ok () := by
  obtain ⟨cw, w₁, cw', d, -, created, run, finished, -⟩ :=
    dictionary_column_round_trip (BlockWriter.new ⟨64, 0, #[], ⟨#["z"], ⟨#[1, 122]⟩, #[0]⟩⟩ 1 3)
      "s" ["a", "b", "a"] rfl (by decide) rfl
  exact ⟨rfl, by decide, cw, w₁, cw', d, created, run, finished⟩

end NativeBlock
