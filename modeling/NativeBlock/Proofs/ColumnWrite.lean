import NativeBlock.Block.Writer
import NativeBlock.Block.Reader
import NativeBlock.Proofs.Values
import NativeBlock.Proofs.Dictionary

/-!
# Columns as the writers lay them out

A column to write is its name and its rows, in one of the three layouts. Writing it opens it in
the block, writes every row in order, finishes it and commits its buffer as the block's next
segment. This module says what each write does to the column's buffer, and what the committed
segment is (`ColumnData.Laid`): the column's header, then

* for plain values, every value's encoding in row order;
* for values that may be missing, the null mask and then every row's slot, a null row holding
  the codec's placeholder;
* for texts, the dictionary layout of the distinct texts in the order first written, with every
  row's key pointing at its text.

A write that fails leaves its writer as it was (`ValueWriter.write_of_failed` and its siblings):
a row past the last is refused before anything is written, a text is checked before it is
appended, and a slot grown for a value its codec refuses is cut back.

Main statement: `ColumnData.write_eq_ok`, a column whose every row encodes is committed as one
segment laid out so.
-/

namespace NativeBlock

open Wire

/-! ## Joined bytes -/

/-- Byte arrays joined in order, as a column joins its slots and a block its segments. -/
def joinBytes (parts : List ByteArray) : ByteArray := parts.foldl (· ++ ·) ByteArray.empty

theorem foldl_append_eq (acc : ByteArray) (parts : List ByteArray) :
    parts.foldl (· ++ ·) acc = acc ++ joinBytes parts := by
  induction parts generalizing acc with
  | nil => simp [joinBytes, ByteArray.append_empty]
  | cons b parts ih =>
    show parts.foldl _ (acc ++ b) = acc ++ parts.foldl _ (ByteArray.empty ++ b)
    rw [ih, ih, ByteArray.empty_append, ByteArray.append_assoc]

@[simp] theorem joinBytes_nil : joinBytes [] = ByteArray.empty := rfl

@[simp] theorem joinBytes_cons (b : ByteArray) (parts : List ByteArray) :
    joinBytes (b :: parts) = b ++ joinBytes parts := by
  rw [joinBytes, List.foldl_cons, foldl_append_eq, ByteArray.empty_append]

/-! ## Rows the writers take -/

/-- The bytes of a column header: the name, then the type's text, each with its length. -/
def ColumnHeader.bytes (h : ColumnHeader) : ByteArray :=
  writePrefixed (writePrefixed ByteArray.empty h.name.toUTF8) h.typeName.toUTF8

namespace Codec

variable {c : Codec} {v : c.Value}

/-- A value its codec encodes. -/
def Encodes (c : Codec) (v : c.Value) : Prop := ∃ bytes, encode c v = .ok bytes

/-- A value the writer takes and the reader gives back: its codec encodes it, and it is no leap
second. -/
def Writable (c : Codec) (v : c.Value) : Prop := c.Encodes v ∧ c.NotLeap v

/-- The bytes under a row of a nullable column: the placeholder for a null, else the value's
encoding. -/
def NullableSlot (c : Codec) : Option c.Value → ByteArray → Prop
  | none, bytes => bytes = c.placeholder
  | some v, bytes => encode c v = .ok bytes

theorem encodeInto_of_ok {bytes : ByteArray} (encoded : c.encode v = .ok bytes) (out : ByteArray) :
    c.encodeInto v out = (.ok (), out ++ bytes) := by
  unfold encodeInto
  split <;> rw [encoded]

/-- A value its codec refuses leaves the buffer as it was: a text is checked before it is
appended, and the slot grown for any other value is cut back. -/
theorem encodeInto_of_error {e : Error} (refused : c.encode v = .error e) (out : ByteArray) :
    c.encodeInto v out = (.error e, out) := by
  unfold encodeInto
  split
  · rw [refused]
  · simp only [refused, ByteArray.extract_append_eq_left rfl]

end Codec

/-- A row's byte in a null mask: one for a null. -/
def nullByte {α : Type} : Option α → UInt8
  | none => 1
  | some _ => 0

def maskOf {α : Type} (rows : List (Option α)) : ByteArray := (rows.map nullByte).toByteArray

def zeros (n : Nat) : ByteArray := (List.replicate n 0).toByteArray

theorem zeros_eq (n : Nat) : (⟨Array.replicate n 0⟩ : ByteArray) = zeros n := by
  apply eq_of_toList_eq
  rw [toList_eq_data_toList, Array.toList_replicate, zeros, toList_toByteArray]

@[simp] theorem size_maskOf {α : Type} (rows : List (Option α)) : (maskOf rows).size = rows.length := by
  simp [maskOf]

theorem maskOf_cons {α : Type} (o : Option α) (rows : List (Option α)) :
    maskOf (o :: rows) = [nullByte o].toByteArray ++ maskOf rows := by
  rw [maskOf, List.map_cons, ← List.singleton_append, List.toByteArray_append, maskOf]

/-- A value's row leaves its mask byte zero. -/
theorem maskOf_append_some {α : Type} (done : List (Option α)) (v : α) (k : Nat)
    (rest : ByteArray) :
    maskOf done ++ (zeros (k + 1) ++ rest) = maskOf (done ++ [some v]) ++ (zeros k ++ rest) := by
  apply eq_of_toList_eq
  simp only [maskOf, zeros, toList_byteArray_append, toList_toByteArray, List.map_append,
    List.replicate_succ]
  simp [nullByte]

/-- Setting a byte past `a` leaves `a` in front. -/
theorem set!_append_right (a b : ByteArray) {i : Nat} (past : a.size ≤ i) (x : UInt8) :
    (a ++ b).set! i x = a ++ b.set! (i - a.size) x := by
  apply eq_of_toList_eq
  simp [ByteArray.set!, toList_eq_data_toList, List.set_append_right _ _ past]

/-- A null row sets its mask byte, the first of those still zero. -/
theorem set_maskOf (head body : ByteArray) {α : Type} (done : List (Option α)) (k : Nat) :
    (head ++ maskOf done ++ zeros (k + 1) ++ body).set! (head.size + done.length) 1 =
      head ++ maskOf (done ++ [none]) ++ zeros k ++ body := by
  apply eq_of_toList_eq
  simp [ByteArray.set!, maskOf, zeros, List.replicate_succ, nullByte, toList_eq_data_toList]

/-! ## Writing a column's rows -/

namespace ColumnSlot

variable {s : ColumnSlot} {codec : Codec} {v : codec.Value}

@[simp] theorem setBytes_self (s : ColumnSlot) : s.setBytes s.buf.bytes = s := rfl

@[simp] theorem setBytes_setBytes (s : ColumnSlot) (a b : ByteArray) :
    (s.setBytes a).setBytes b = s.setBytes b := rfl

@[simp] theorem bytes_setBytes (s : ColumnSlot) (b : ByteArray) : (s.setBytes b).buf.bytes = b :=
  rfl

@[simp] theorem name_setBytes (s : ColumnSlot) (b : ByteArray) : (s.setBytes b).name = s.name :=
  rfl

@[simp] theorem rows_setBytes (s : ColumnSlot) (b : ByteArray) : (s.setBytes b).rows = s.rows :=
  rfl

theorem encodeRow_of_ok {bytes : ByteArray} (encoded : codec.encode v = .ok bytes) (row : Nat) :
    s.encodeRow codec v row = (.ok (), s.setBytes (s.buf.bytes ++ bytes)) := by
  simp only [encodeRow, Codec.encodeInto_of_ok encoded]

/-- A value the codec refuses leaves the slot as it was; the failure names the row. -/
theorem encodeRow_of_error {e : Error} (refused : codec.encode v = .error e) (row : Nat) :
    s.encodeRow codec v row = (.error (e.within (rowPlace s.name row)), s) := by
  simp only [encodeRow, Codec.encodeInto_of_error refused, ByteArray.extract_zero_size,
    setBytes_self]

end ColumnSlot

section WriteAll

variable {σ α : Type} {write : σ → α → Except Error Unit × σ}

@[simp] theorem writeAll_nil (s : σ) : writeAll write s [] = .ok s := rfl

theorem writeAll_cons_of_ok {s s' : σ} {v : α} (ran : write s v = (.ok (), s')) (vs : List α) :
    writeAll write s (v :: vs) = writeAll write s' vs := by
  rw [writeAll, ran]
  rfl

end WriteAll

namespace ValueWriter

variable {c : Codec} {cw : ValueWriter c} {v : c.Value}

theorem write_of_full (full : cw.slot.rows ≤ cw.written) (v : c.Value) :
    cw.write v = (.error (columnFull cw.slot.name cw.slot.rows), cw) := by
  unfold write
  rw [if_pos full]

theorem write_of_ok {bytes : ByteArray} (room : cw.written < cw.slot.rows)
    (encoded : c.encode v = .ok bytes) :
    cw.write v = (.ok (), ⟨cw.slot.setBytes (cw.slot.buf.bytes ++ bytes), cw.written + 1⟩) := by
  unfold write
  rw [if_neg (Nat.not_le.mpr room), ColumnSlot.encodeRow_of_ok encoded]

theorem write_of_error {e : Error} (room : cw.written < cw.slot.rows)
    (refused : c.encode v = .error e) :
    cw.write v = (.error (e.within (rowPlace cw.slot.name cw.written)), cw) := by
  unfold write
  rw [if_neg (Nat.not_le.mpr room), ColumnSlot.encodeRow_of_error refused]

/-- A write either changes nothing or, with a row left, appends the value's bytes as one more
row. -/
theorem write_cases (cw : ValueWriter c) (v : c.Value) :
    (cw.write v).2 = cw ∨ cw.written < cw.slot.rows ∧
      ∃ bytes, (cw.write v).2 = ⟨cw.slot.setBytes (cw.slot.buf.bytes ++ bytes), cw.written + 1⟩ := by
  by_cases full : cw.slot.rows ≤ cw.written
  · exact .inl (by rw [write_of_full full])
  · have room := Nat.lt_of_not_le full
    cases encoded : c.encode v with
    | ok bytes => exact .inr ⟨room, bytes, by rw [write_of_ok room encoded]⟩
    | error e => exact .inl (by rw [write_of_error room encoded])

/-- A write that fails, on the row count or on the value, leaves the writer as it was. -/
theorem write_of_failed {e : Error} (failed : (cw.write v).1 = .error e) : (cw.write v).2 = cw := by
  by_cases full : cw.slot.rows ≤ cw.written
  · rw [write_of_full full]
  · cases encoded : c.encode v with
    | ok bytes =>
      rw [write_of_ok (Nat.lt_of_not_le full) encoded] at failed
      cases failed
    | error e' => rw [write_of_error (Nat.lt_of_not_le full) encoded]

/-- Values the codec encodes, written while there is room, append their encodings in order. -/
theorem writeAll_eq_ok {vs : List c.Value} (encodes : ∀ v ∈ vs, c.Encodes v) :
    ∀ (cw : ValueWriter c), cw.written + vs.length ≤ cw.slot.rows →
      ∃ slots, List.Forall₂ (fun v b => c.encode v = .ok b) vs slots ∧
        writeAll write cw vs =
          .ok ⟨cw.slot.setBytes (cw.slot.buf.bytes ++ joinBytes slots), cw.written + vs.length⟩ := by
  induction vs with
  | nil =>
    intro cw _
    exact ⟨[], .nil, by simp [ByteArray.append_empty]⟩
  | cons v vs ih =>
    intro cw room
    obtain ⟨bytes, encoded⟩ := encodes v (List.mem_cons_self ..)
    simp only [List.length_cons] at room
    obtain ⟨slots, fit, run⟩ := ih (fun v mem => encodes v (List.mem_cons_of_mem _ mem))
      ⟨cw.slot.setBytes (cw.slot.buf.bytes ++ bytes), cw.written + 1⟩ (by simp; omega)
    refine ⟨bytes :: slots, .cons encoded fit, ?_⟩
    rw [writeAll_cons_of_ok (write_of_ok (by omega) encoded), run]
    simp only [ColumnSlot.setBytes_setBytes, ColumnSlot.bytes_setBytes, joinBytes_cons,
      ByteArray.append_assoc, List.length_cons]
    rw [show cw.written + 1 + vs.length = cw.written + (vs.length + 1) by omega]

end ValueWriter

namespace NullableWriter

variable {c : Codec} {cw : NullableWriter c}

theorem write_of_full (full : cw.slot.rows ≤ cw.written) (o : Option c.Value) :
    cw.write o = (.error (columnFull cw.slot.name cw.slot.rows), cw) := by
  unfold write
  rw [if_pos full]

/-- A null sets its byte of the mask and takes the codec's placeholder as its slot. -/
theorem write_of_none (room : cw.written < cw.slot.rows) :
    cw.write none = (.ok (), ⟨cw.slot.setBytes (cw.slot.buf.bytes.set! (cw.maskStart + cw.written) 1 ++
      c.placeholder), cw.maskStart, cw.written + 1⟩) := by
  unfold write
  rw [if_neg (Nat.not_le.mpr room)]

theorem write_of_some {v : c.Value} {bytes : ByteArray} (room : cw.written < cw.slot.rows)
    (encoded : c.encode v = .ok bytes) :
    cw.write (some v) =
      (.ok (), ⟨cw.slot.setBytes (cw.slot.buf.bytes ++ bytes), cw.maskStart, cw.written + 1⟩) := by
  unfold write
  rw [if_neg (Nat.not_le.mpr room)]
  dsimp only
  rw [ColumnSlot.encodeRow_of_ok encoded]

theorem write_of_error {v : c.Value} {e : Error} (room : cw.written < cw.slot.rows)
    (refused : c.encode v = .error e) :
    cw.write (some v) = (.error (e.within (rowPlace cw.slot.name cw.written)), cw) := by
  unfold write
  rw [if_neg (Nat.not_le.mpr room)]
  dsimp only
  rw [ColumnSlot.encodeRow_of_error refused]

/-- A write either changes nothing or, with a row left, marks a null in the mask and appends the
row's slot. -/
theorem write_cases (cw : NullableWriter c) (o : Option c.Value) :
    (cw.write o).2 = cw ∨ cw.written < cw.slot.rows ∧ ∃ bytes, (cw.write o).2 =
      ⟨cw.slot.setBytes ((if o.isNone then cw.slot.buf.bytes.set! (cw.maskStart + cw.written) 1
        else cw.slot.buf.bytes) ++ bytes), cw.maskStart, cw.written + 1⟩ := by
  by_cases full : cw.slot.rows ≤ cw.written
  · exact .inl (by rw [write_of_full full])
  · have room := Nat.lt_of_not_le full
    cases o with
    | none => exact .inr ⟨room, c.placeholder, by rw [write_of_none room]; rfl⟩
    | some v =>
      cases encoded : c.encode v with
      | ok bytes => exact .inr ⟨room, bytes, by rw [write_of_some room encoded]; rfl⟩
      | error e => exact .inl (by rw [write_of_error room encoded])

/-- A write that fails leaves the writer as it was: a null always has room for its mask byte
and placeholder, so only the row count or the codec refuses a row. -/
theorem write_of_failed {o : Option c.Value} {e : Error} (failed : (cw.write o).1 = .error e) :
    (cw.write o).2 = cw := by
  by_cases full : cw.slot.rows ≤ cw.written
  · rw [write_of_full full]
  · have room := Nat.lt_of_not_le full
    cases o with
    | none =>
      rw [write_of_none room] at failed
      cases failed
    | some v =>
      cases encoded : c.encode v with
      | ok bytes =>
        rw [write_of_some room encoded] at failed
        cases failed
      | error e' => rw [write_of_error room encoded]

/-- A nullable column's buffer while it is written: the header `head`, the null mask of the rows
`done` and zeros for the `k` rows to come, then the slots `body` of the rows done. The mask
starts right after the header. -/
structure Laid (cw : NullableWriter c) (head body : ByteArray) (done : List (Option c.Value))
    (k : Nat) : Prop where
  bytes_eq : cw.slot.buf.bytes = head ++ maskOf done ++ zeros k ++ body
  maskStart_eq : cw.maskStart = head.size
  written_eq : cw.written = done.length

/-- A row with room sets its mask byte, one for a null, and appends its slot. -/
theorem write_of_slot {head body bytes : ByteArray} {done : List (Option c.Value)} {k : Nat}
    {o : Option c.Value} (laid : cw.Laid head body done (k + 1)) (room : cw.written < cw.slot.rows)
    (slot : c.NullableSlot o bytes) :
    cw.write o = (.ok (), ⟨cw.slot.setBytes (head ++ maskOf (done ++ [o]) ++ zeros k ++
      (body ++ bytes)), cw.maskStart, cw.written + 1⟩) := by
  cases o with
  | none =>
    obtain rfl : bytes = c.placeholder := slot
    rw [write_of_none room, laid.bytes_eq, laid.maskStart_eq, laid.written_eq, set_maskOf,
      ByteArray.append_assoc]
  | some v =>
    rw [write_of_some room slot, laid.bytes_eq]
    simp only [ByteArray.append_assoc]
    rw [maskOf_append_some done v]

/-- Rows whose values encode, written while there is room, set their mask bytes and append their
slots in order. -/
theorem writeAll_eq_ok {os : List (Option c.Value)} (encodes : ∀ o ∈ os, ∀ v ∈ o, c.Encodes v) :
    ∀ (cw : NullableWriter c) {head body : ByteArray} {done : List (Option c.Value)} {k : Nat},
      cw.Laid head body done (os.length + k) → cw.written + os.length ≤ cw.slot.rows →
      ∃ slots, List.Forall₂ c.NullableSlot os slots ∧
        writeAll write cw os = .ok ⟨cw.slot.setBytes (head ++ maskOf (done ++ os) ++ zeros k ++
          (body ++ joinBytes slots)), cw.maskStart, cw.written + os.length⟩ := by
  induction os with
  | nil =>
    intro cw head body done k laid _
    refine ⟨[], .nil, ?_⟩
    simp only [List.length_nil, Nat.zero_add] at laid
    simp [← laid.bytes_eq, ByteArray.append_empty]
  | cons o os ih =>
    intro cw head body done k laid room
    -- A null row's slot is the placeholder; a value's is its encoding.
    obtain ⟨bytes, slot⟩ : ∃ bytes, c.NullableSlot o bytes := by
      cases o with
      | none => exact ⟨_, rfl⟩
      | some v => exact encodes (some v) (List.mem_cons_self ..) v rfl
    simp only [List.length_cons] at room laid
    rw [show os.length + 1 + k = os.length + k + 1 by omega] at laid
    have wrote := write_of_slot laid (by omega) slot
    obtain ⟨slots, fit, run⟩ := ih (fun o mem => encodes o (List.mem_cons_of_mem _ mem))
      ⟨cw.slot.setBytes (head ++ maskOf (done ++ [o]) ++ zeros (os.length + k) ++ (body ++ bytes)),
        cw.maskStart, cw.written + 1⟩
      ⟨rfl, laid.maskStart_eq, by simp [laid.written_eq]⟩ (by simp; omega)
    refine ⟨bytes :: slots, .cons slot fit, ?_⟩
    rw [writeAll_cons_of_ok wrote, run]
    simp only [ColumnSlot.setBytes_setBytes, joinBytes_cons, ByteArray.append_assoc,
      List.append_assoc, List.singleton_append, List.length_cons]
    rw [show cw.written + 1 + os.length = cw.written + (os.length + 1) by omega]

end NullableWriter

/-! ## The dictionary scratch -/

namespace DictionaryScratch

open Dictionary

/-- A scratch that holds the texts `rows`: every row's key points at its text, there are no more
texts than rows, and the entries are the texts with their lengths. -/
structure Holds (d : DictionaryScratch) (rows : List String) : Prop where
  size_keys : d.keys.size = rows.length
  size_le : d.texts.size ≤ d.keys.size
  lookup : ∀ i (lt : i < rows.length), ∃ k, d.keys[i]? = some k ∧ d.texts[k]? = some rows[i]
  entries_eq : d.entries = entriesOf d.texts.toList

theorem holds_empty : empty.Holds [] :=
  ⟨rfl, Nat.le_refl 0, fun i lt => absurd lt (Nat.not_lt_zero i), rfl⟩

/-- A text's key is a position that holds it, or the next position when it is new. -/
theorem keyOf_cases (texts : Array String) (v : String) :
    (keyOf texts v < texts.size ∧ texts[keyOf texts v]? = some v) ∨ keyOf texts v = texts.size := by
  unfold keyOf
  cases found : texts.idxOf? v with
  | none => exact .inr rfl
  | some k =>
    rw [Array.idxOf?_eq_map_finIdxOf?_val, Option.map_eq_some_iff] at found
    obtain ⟨i, first, rfl⟩ := found
    have at_i := (Array.finIdxOf?_eq_some_iff.mp first).1
    rw [Option.getD_some]
    exact .inl ⟨i.isLt, by rw [Array.getElem?_eq_getElem i.isLt]; exact congrArg some at_i⟩

/-- The texts after `v` is written: `v` is added when its key is the next position. -/
def grown (texts : Array String) (v : String) : Array String :=
  if keyOf texts v = texts.size then texts.push v else texts

@[simp] theorem texts_add (d : DictionaryScratch) (v : String) :
    (d.add v).texts = grown d.texts v := by
  unfold add grown
  dsimp only
  split <;> rfl

@[simp] theorem keys_add (d : DictionaryScratch) (v : String) :
    (d.add v).keys = d.keys.push (keyOf d.texts v) := by
  unfold add
  dsimp only
  split <;> rfl

theorem entries_add (d : DictionaryScratch) (v : String) :
    (d.add v).entries =
      if keyOf d.texts v = d.texts.size then writePrefixed d.entries v.toUTF8 else d.entries := by
  unfold add
  dsimp only
  split <;> rfl

theorem getElem?_grown {texts : Array String} {k : Nat} (v : String) (lt : k < texts.size) :
    (grown texts v)[k]? = texts[k]? := by
  unfold grown
  split
  · rw [Array.getElem?_push_lt lt, Array.getElem?_eq_getElem lt]
  · rfl

theorem getElem?_grown_keyOf (texts : Array String) (v : String) :
    (grown texts v)[keyOf texts v]? = some v := by
  unfold grown
  rcases keyOf_cases texts v with ⟨lt, found⟩ | next
  · rw [if_neg (Nat.ne_of_lt lt)]
    exact found
  · rw [if_pos next, next, Array.getElem?_push_size]

theorem size_grown_le (texts : Array String) (v : String) : (grown texts v).size ≤ texts.size + 1 := by
  unfold grown
  split <;> simp

/-- The entries of texts with one more: its entry follows theirs. -/
theorem entriesOf_push (texts : Array String) (v : String) :
    entriesOf (texts.push v).toList = writePrefixed (entriesOf texts.toList) v.toUTF8 := by
  rw [Array.toList_push, entriesOf, List.foldl_append]
  rfl

/-- One more text keeps every earlier row's key, points the new row at its text, and adds the
text's entry when it is new. -/
theorem Holds.add {d : DictionaryScratch} {rows : List String} (holds : d.Holds rows) (v : String) :
    (d.add v).Holds (rows ++ [v]) := by
  obtain ⟨size_keys, size_le, lookup, entries⟩ := holds
  refine ⟨by simp [size_keys], by have := size_grown_le d.texts v; simp; omega, ?_, ?_⟩
  · intro i lt
    simp only [List.length_append, List.length_singleton] at lt
    by_cases old : i < rows.length
    · obtain ⟨k, key, found⟩ := lookup i old
      have inside : k < d.texts.size := (Array.getElem?_eq_some_iff.mp found).1
      refine ⟨k, ?_, ?_⟩
      · rw [keys_add, Array.getElem?_push_lt (by omega), ← Array.getElem?_eq_getElem]
        exact key
      · rw [texts_add, getElem?_grown v inside, found, List.getElem_append_left old]
    · have last : i = rows.length := by omega
      subst last
      refine ⟨keyOf d.texts v, ?_, ?_⟩
      · rw [keys_add, ← size_keys, Array.getElem?_push_size]
      · rw [texts_add, getElem?_grown_keyOf, List.getElem_append_right (Nat.le_refl _)]
        simp
  · rw [entries_add, texts_add, grown]
    split
    · rw [entries, entriesOf_push]
    · exact entries

theorem Holds.foldl_add {d : DictionaryScratch} {rows : List String} (holds : d.Holds rows)
    (vs : List String) : (vs.foldl DictionaryScratch.add d).Holds (rows ++ vs) := by
  induction vs generalizing d rows with
  | nil => simpa using holds
  | cons v vs ih => simpa using ih (holds.add v)

/-- Every row's key is a position among the texts. -/
theorem Holds.key_lt {d : DictionaryScratch} {rows : List String} (holds : d.Holds rows) {k : Nat}
    (mem : k ∈ d.keys.toList) : k < d.texts.size := by
  obtain ⟨i, lt, rfl⟩ := List.getElem_of_mem mem
  rw [Array.length_toList, holds.size_keys] at lt
  obtain ⟨k, key, found⟩ := holds.lookup i lt
  rw [Array.getElem_toList, (Array.getElem?_eq_some_iff.mp key).2]
  exact (Array.getElem?_eq_some_iff.mp found).1

/-- The dictionary layout of a scratch that holds its rows: keys that point among the texts always
encode. -/
theorem Holds.encode_eq_ok {d : DictionaryScratch} {rows : List String} (holds : d.Holds rows) :
    ∃ payload, encode d.entries d.cardinality d.keys.toList = .ok payload ∧
      encode (entriesOf d.texts.toList) d.texts.toList.length d.keys.toList = .ok payload := by
  rw [holds.entries_eq, cardinality, ← Array.length_toList]
  by_cases empty : d.keys.toList = []
  · exact ⟨ByteArray.empty, by simp [encode, empty], by simp [encode, empty]⟩
  · have run := Dictionary.encode_eq_ok empty
      (fun k mem => by rw [Array.length_toList]; exact holds.key_lt mem)
    exact ⟨_, run, run⟩

end DictionaryScratch

namespace DictionaryWriter

variable {cw : DictionaryWriter}

theorem write_of_full (full : cw.slot.rows ≤ cw.written) (d : DictionaryScratch) (v : String) :
    cw.write d v = (.error (columnFull cw.slot.name cw.slot.rows), cw, d) := by
  unfold write
  rw [if_pos full]

theorem write_of_room (room : cw.written < cw.slot.rows) (d : DictionaryScratch) (v : String) :
    cw.write d v = (.ok (), ⟨cw.slot, cw.written + 1⟩, d.add v) := by
  unfold write
  rw [if_neg (Nat.not_le.mpr room)]

/-- A write either changes nothing or, with a row left, records the text in the scratch as one
more row. -/
theorem write_cases (cw : DictionaryWriter) (d : DictionaryScratch) (v : String) :
    (cw.write d v).2 = (cw, d) ∨
      cw.written < cw.slot.rows ∧ (cw.write d v).2 = (⟨cw.slot, cw.written + 1⟩, d.add v) := by
  by_cases full : cw.slot.rows ≤ cw.written
  · exact .inl (by rw [write_of_full full])
  · have room := Nat.lt_of_not_le full
    exact .inr ⟨room, by rw [write_of_room room]⟩

/-- A write that fails leaves the writer and the scratch as they were. -/
theorem write_of_failed {d : DictionaryScratch} {v : String} {e : Error}
    (failed : (cw.write d v).1 = .error e) : (cw.write d v).2 = (cw, d) := by
  by_cases full : cw.slot.rows ≤ cw.written
  · rw [write_of_full full]
  · rw [write_of_room (Nat.lt_of_not_le full)] at failed
    cases failed

/-- Texts written while there is room are recorded in the scratch one after another. -/
theorem writeAll_eq_ok (vs : List String) :
    ∀ (cw : DictionaryWriter) (d : DictionaryScratch), cw.written + vs.length ≤ cw.slot.rows →
      writeAll (fun st v => st.1.write st.2 v) (cw, d) vs =
        .ok (⟨cw.slot, cw.written + vs.length⟩, vs.foldl DictionaryScratch.add d) := by
  induction vs with
  | nil =>
    intro cw d _
    rfl
  | cons v vs ih =>
    intro cw d room
    simp only [List.length_cons] at room
    have fits : cw.written < cw.slot.rows := by omega
    rw [writeAll_cons_of_ok (write_of_room fits d v), ih _ _ (by simp; omega)]
    simp only [List.foldl_cons, List.length_cons]
    rw [show cw.written + 1 + vs.length = cw.written + (vs.length + 1) by omega]

end DictionaryWriter

/-! ## Columns to write -/

/-- A column to write: its name and its rows, in one of the three layouts. -/
inductive ColumnData where
  | value (name : String) (c : Codec) (rows : List c.Value)
  | nullable (name : String) (c : Codec) (rows : List (Option c.Value))
  | dictionary (name : String) (rows : List String)

namespace ColumnData

def name : ColumnData → String
  | .value name .. | .nullable name .. | .dictionary name .. => name

/-- The layout a column is written and read in. -/
def spec : ColumnData → ColumnSpec
  | .value _ c _ => .value c
  | .nullable _ c _ => .nullable c
  | .dictionary .. => .dictionary

def length : ColumnData → Nat
  | .value _ _ rows => rows.length
  | .nullable _ _ rows => rows.length
  | .dictionary _ rows => rows.length

def Encodes : ColumnData → Prop
  | .value _ c rows => ∀ v ∈ rows, c.Encodes v
  | .nullable _ c rows => ∀ o ∈ rows, ∀ v ∈ o, c.Encodes v
  | .dictionary .. => True

/-- Every row is one the writer takes and the reader gives back. -/
def Writable : ColumnData → Prop
  | .value _ c rows => ∀ v ∈ rows, c.Writable v
  | .nullable _ c rows => ∀ o ∈ rows, ∀ v ∈ o, c.Writable v
  | .dictionary .. => True

theorem Writable.encodes {col : ColumnData} (writable : col.Writable) : col.Encodes := by
  cases col with
  | value => exact fun v mem => (writable v mem).1
  | nullable => exact fun o mem v some => (writable o mem v some).1
  | dictionary => trivial

/-- Opens the column in the block, writes its rows in order, finishes it and commits it. -/
def write (w : BlockWriter) : ColumnData → Except Error BlockWriter
  | .value name c rows => do
    let (cw, w) ← w.createColumn name c
    let cw ← writeAll ValueWriter.write cw rows
    BlockWriter.succeeded (w.commit cw.slot cw.written)
  | .nullable name c rows => do
    let (cw, w) ← w.createNullable name c
    let cw ← writeAll NullableWriter.write cw rows
    BlockWriter.succeeded (w.commit cw.slot cw.written)
  | .dictionary name rows => do
    let (cw, w) ← w.createDictionary name
    let (cw, d) ← writeAll (fun st v => st.1.write st.2 v) (cw, w.ws.scratch) rows
    BlockWriter.succeeded ((w.withScratch d).finishDictionary cw)

/-- The bytes of a column's rows as its writer lays them out. -/
def Payload : ColumnData → ByteArray → Prop
  | .value _ c rows, payload => ∃ slots,
    List.Forall₂ (fun v b => c.encode v = .ok b) rows slots ∧ payload = joinBytes slots
  | .nullable _ c rows, payload => ∃ slots,
    List.Forall₂ c.NullableSlot rows slots ∧ payload = maskOf rows ++ joinBytes slots
  | .dictionary _ rows, payload => ∃ d : DictionaryScratch, d.Holds rows ∧
      Dictionary.encode (Dictionary.entriesOf d.texts.toList) d.texts.toList.length d.keys.toList =
        .ok payload

/-- A column's segment: its header, then its rows. -/
def Laid (col : ColumnData) (segment : ByteArray) : Prop :=
  ∃ payload, segment = ColumnHeader.bytes ⟨col.name, col.spec.columnType.render⟩ ++ payload ∧
    col.Payload payload

end ColumnData

/-! ## Committing a column -/

@[simp] theorem Workspace.release_empty (ws : Workspace) : ws.release Buffer.empty = ws := by
  simp [Workspace.release, Buffer.empty]

namespace BlockWriter

variable {w : BlockWriter}

@[simp] theorem scratch_withScratch (d : DictionaryScratch) : (w.withScratch d).ws.scratch = d :=
  rfl

@[simp] theorem withScratch_self (w : BlockWriter) : w.withScratch w.ws.scratch = w := rfl

@[simp] theorem rows_withScratch (d : DictionaryScratch) : (w.withScratch d).rows = w.rows := rfl

@[simp] theorem withScratch_withScratch (a b : DictionaryScratch) :
    (w.withScratch a).withScratch b = w.withScratch b := rfl

@[simp] theorem segments_append (buf : Buffer) (buffers : List Buffer) :
    segments { w with buffers := buffers ++ [buf] } = (buffers.map (·.bytes)) ++ [buf.bytes] := by
  simp [segments]

/-- The block writer once a column is opened and its buffer committed, with `ws` as the
workspace. -/
def committedWith (w : BlockWriter) (ws : Workspace) (buf : Buffer) : BlockWriter :=
  { w with ws := ws, started := w.started + 1, buffers := w.buffers ++ [buf],
           committed := w.committed + 1 }

@[simp] theorem segments_committedWith (ws : Workspace) (buf : Buffer) :
    (w.committedWith ws buf).segments = w.segments ++ [buf.bytes] := by
  simp [committedWith, segments]

/-- Opening a column fails on a finished block, and with a bounds error when no column is left to
start; otherwise it draws a buffer from the workspace and writes the column's header into it. -/
theorem openColumn_cases (w : BlockWriter) (name : String) (ty : ColumnType) (hint : Nat) :
    (w.sealed = true ∧ w.openColumn name ty hint = .error alreadyFinished) ∨
    (w.sealed = false ∧ w.columns ≤ w.started ∧
      ∃ msg, w.openColumn name ty hint = .error (.bounds msg)) ∨
    (w.sealed = false ∧ w.started < w.columns ∧ w.openColumn name ty hint =
      .ok (⟨name, w.rows, ⟨ColumnHeader.bytes ⟨name, ty.render⟩,
          (w.ws.acquire (columnRoom name ty hint)).1.capacity⟩⟩,
        { w with ws := (w.ws.acquire (columnRoom name ty hint)).2, started := w.started + 1 })) := by
  unfold openColumn
  by_cases sealed : w.sealed = true
  · exact .inl ⟨sealed, by rw [if_pos sealed]⟩
  · have unsealed : w.sealed = false := by simpa using sealed
    rw [if_neg sealed]
    by_cases full : w.columns ≤ w.started
    · exact .inr (.inl ⟨unsealed, full, _, by rw [if_pos full]⟩)
    · exact .inr (.inr ⟨unsealed, Nat.lt_of_not_le full, by rw [if_neg full]; rfl⟩)

/-- Opening a column draws a buffer and writes the column's header into it. -/
theorem openColumn_eq_ok (unsealed : w.sealed = false) (left : w.started < w.columns)
    (name : String) (ty : ColumnType) (hint : Nat) :
    ∃ cap ws, w.openColumn name ty hint = .ok
      (⟨name, w.rows, ⟨ColumnHeader.bytes ⟨name, ty.render⟩, cap⟩⟩,
        { w with ws := ws, started := w.started + 1 }) := by
  rcases openColumn_cases w name ty hint with ⟨sealed, -⟩ | ⟨-, full, -⟩ | ⟨-, -, opened⟩
  · simp [unsealed] at sealed
  · omega
  · exact ⟨_, _, opened⟩

/-- A column with every row written becomes the next segment. -/
theorem commit_of_rows {written : Nat} (all : written = w.rows) (slot : ColumnSlot) :
    w.commit slot written = (.ok (), { w with buffers := w.buffers ++ [slot.buf],
                                              committed := w.committed + 1 }) := by
  simp [commit, all]

/-- A column short of rows fails to finish, and its buffer goes back to the workspace. -/
theorem commit_of_short {slot : ColumnSlot} {written : Nat} (short : written ≠ w.rows) :
    w.commit slot written = (.error (columnShort slot.name written w.rows), w.abandon slot) := by
  simp [commit, short, abandon]

theorem createColumn_eq_ok (unsealed : w.sealed = false) (left : w.started < w.columns)
    (name : String) (c : Codec) :
    ∃ cap ws, w.createColumn name c = .ok
      (⟨⟨name, w.rows, ⟨ColumnHeader.bytes ⟨name, c.columnType.render⟩, cap⟩⟩, 0⟩,
        { w with ws := ws, started := w.started + 1 }) := by
  obtain ⟨cap, ws, opened⟩ := openColumn_eq_ok unsealed left name c.columnType (c.reserveHint w.rows)
  exact ⟨cap, ws, by simp only [createColumn, opened, Except.map]⟩

/-- A nullable column starts with a null mask of one zero byte per row behind its header. -/
theorem createNullable_eq_ok (unsealed : w.sealed = false) (left : w.started < w.columns)
    (name : String) (c : Codec) :
    ∃ cap ws, w.createNullable name c = .ok
      (⟨ColumnSlot.setBytes
          ⟨name, w.rows, ⟨ColumnHeader.bytes ⟨name, (ColumnType.nullable c.columnType).render⟩, cap⟩⟩
          (ColumnHeader.bytes ⟨name, (ColumnType.nullable c.columnType).render⟩ ++ zeros w.rows),
        (ColumnHeader.bytes ⟨name, (ColumnType.nullable c.columnType).render⟩).size, 0⟩,
        { w with ws := ws, started := w.started + 1 }) := by
  obtain ⟨cap, ws, opened⟩ := openColumn_eq_ok unsealed left name (.nullable c.columnType)
    (min (c.reserveHint w.rows + w.rows) Codec.maxLength)
  exact ⟨cap, ws, by simp only [createNullable, opened, Except.map, zeros_eq]⟩

/-- A dictionary column starts with the scratch cleared. -/
theorem createDictionary_eq_ok (unsealed : w.sealed = false) (left : w.started < w.columns)
    (name : String) :
    ∃ cap ws, w.createDictionary name = .ok
      (⟨⟨name, w.rows, ⟨ColumnHeader.bytes ⟨name, (ColumnType.lowCardinality .string).render⟩, cap⟩⟩,
        0⟩, ({ w with ws := ws, started := w.started + 1 }).withScratch .empty) := by
  obtain ⟨cap, ws, opened⟩ :=
    openColumn_eq_ok unsealed left name (.lowCardinality .string) w.rows
  exact ⟨cap, ws, by simp only [createDictionary, opened, Except.map]⟩

/-- A dictionary column with every row written, whose texts the scratch holds, is committed with
its dictionary layout behind the header. -/
theorem finishDictionary_of_holds {c : DictionaryWriter} {d : DictionaryScratch}
    {rows : List String} (holds : d.Holds rows) (written : c.written = w.rows) :
    ∃ payload, Dictionary.encode (Dictionary.entriesOf d.texts.toList) d.texts.toList.length
        d.keys.toList = .ok payload ∧
      (w.withScratch d).finishDictionary c =
        (.ok (), { w.withScratch d with
          buffers := w.buffers ++ [(c.slot.setBytes (c.slot.buf.bytes ++ payload)).buf],
          committed := w.committed + 1 }) := by
  obtain ⟨payload, encoded, layout⟩ := holds.encode_eq_ok
  refine ⟨payload, layout, ?_⟩
  simp only [finishDictionary, rows_withScratch, if_pos written, scratch_withScratch, encoded]
  exact commit_of_rows (w := w.withScratch d) written _

/-- A dictionary column short of rows fails to finish, and its buffer goes back to the
workspace. -/
theorem finishDictionary_of_short {c : DictionaryWriter} (short : c.written ≠ w.rows) :
    w.finishDictionary c = (.error (columnShort c.slot.name c.written w.rows), w.abandon c.slot) := by
  simp only [finishDictionary, if_neg short]
  exact commit_of_short short

end BlockWriter

namespace ColumnData

variable {w : BlockWriter}

/-- A column of the block's row count whose every row encodes is committed as one segment laid
out for its layout. -/
theorem write_eq_ok (unsealed : w.sealed = false) (left : w.started < w.columns)
    {col : ColumnData} (counted : col.length = w.rows) (encodes : col.Encodes) :
    ∃ ws buf, col.write w = .ok (w.committedWith ws buf) ∧ col.Laid buf.bytes := by
  cases col with
  | value name c rows =>
    obtain ⟨cap, ws, created⟩ := BlockWriter.createColumn_eq_ok unsealed left name c
    obtain ⟨slots, fit, run⟩ := ValueWriter.writeAll_eq_ok encodes
      ⟨⟨name, w.rows, ⟨ColumnHeader.bytes ⟨name, c.columnType.render⟩, cap⟩⟩, 0⟩
      (Nat.le_of_eq (by simpa [length] using counted))
    refine ⟨ws, ⟨ColumnHeader.bytes ⟨name, c.columnType.render⟩ ++ joinBytes slots, cap⟩, ?_,
      joinBytes slots, rfl, slots, fit, rfl⟩
    simp only [write, created, bind, Except.bind, run]
    rw [BlockWriter.commit_of_rows (by simpa [length] using counted)]
    rfl
  | nullable name c rows =>
    obtain ⟨cap, ws, created⟩ := BlockWriter.createNullable_eq_ok unsealed left name c
    have fresh : NullableWriter.Laid (c := c)
        ⟨ColumnSlot.setBytes ⟨name, w.rows,
            ⟨ColumnHeader.bytes ⟨name, (ColumnType.nullable c.columnType).render⟩, cap⟩⟩
          (ColumnHeader.bytes ⟨name, (ColumnType.nullable c.columnType).render⟩ ++ zeros w.rows),
          (ColumnHeader.bytes ⟨name, (ColumnType.nullable c.columnType).render⟩).size, 0⟩
        (ColumnHeader.bytes ⟨name, (ColumnType.nullable c.columnType).render⟩) ByteArray.empty []
        (rows.length + 0) := by
      refine ⟨?_, rfl, rfl⟩
      simp [maskOf, ByteArray.append_empty, ← counted, length]
    obtain ⟨slots, fit, run⟩ := NullableWriter.writeAll_eq_ok encodes _ fresh
      (Nat.le_of_eq (by simpa [length] using counted))
    refine ⟨ws, ⟨ColumnHeader.bytes ⟨name, (ColumnType.nullable c.columnType).render⟩ ++
      (maskOf rows ++ joinBytes slots), cap⟩, ?_, maskOf rows ++ joinBytes slots, rfl, slots, fit,
      rfl⟩
    simp only [write, created, bind, Except.bind, run]
    rw [BlockWriter.commit_of_rows (by simpa [length] using counted)]
    simp [BlockWriter.succeeded, Except.map, BlockWriter.committedWith, ColumnSlot.setBytes,
      Buffer.setBytes, zeros, ByteArray.empty_append, ByteArray.append_assoc]
  | dictionary name rows =>
    obtain ⟨cap, ws, created⟩ := BlockWriter.createDictionary_eq_ok unsealed left name
    -- The texts are recorded in the scratch the column was opened with, which is empty.
    have holds := DictionaryScratch.holds_empty.foldl_add rows
    rw [List.nil_append] at holds
    have run := DictionaryWriter.writeAll_eq_ok rows
      ⟨⟨name, w.rows, ⟨ColumnHeader.bytes ⟨name, (ColumnType.lowCardinality .string).render⟩, cap⟩⟩,
        0⟩
      DictionaryScratch.empty (Nat.le_of_eq (by simpa [length] using counted))
    obtain ⟨payload, layout, finished⟩ :=
      BlockWriter.finishDictionary_of_holds (w := { w with ws := ws, started := w.started + 1 })
        (c := ⟨⟨name, w.rows, ⟨ColumnHeader.bytes ⟨name, (ColumnType.lowCardinality .string).render⟩,
          cap⟩⟩, 0 + rows.length⟩) holds (by simpa [length] using counted)
    refine ⟨{ ws with scratch := rows.foldl DictionaryScratch.add .empty },
      ⟨ColumnHeader.bytes ⟨name, (ColumnType.lowCardinality .string).render⟩ ++ payload, cap⟩, ?_,
      payload, rfl, _, holds, layout⟩
    simp only [write, created, bind, Except.bind, BlockWriter.withScratch_withScratch,
      BlockWriter.scratch_withScratch, run, finished]
    rfl

end ColumnData

end NativeBlock
