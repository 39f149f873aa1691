import NativeBlock.Proofs.WriterState

/-!
# Finishing a block compressed

A block can be finished into a buffer the caller owns, plainly (`BlockWriter.finishInto`) or
through a compression (`BlockWriter.finishCompressedInto`). Without compression the compressed
finish is the plain one, state and buffer alike. With zstd or gzip it always fails here: a level
outside the algorithm's range is refused before the buffer is touched, and an accepted level
finds the algorithm missing after the buffer is cleared. Either way the block is not sealed and
keeps its segments, so a plain finish afterwards still gives the whole block: its segments joined
in order.

Main statement: `compressed_finish_keeps_block`.
-/

namespace NativeBlock

namespace Compression

/-- A level the algorithm refuses fails the check with a numeric range error. -/
theorem validate_eq_error {c : Compression} {e : Error} (refused : c.validate = .error e) :
    ((∃ l, c = .zstd l ∧ ¬(-7 ≤ l ∧ l ≤ 22)) ∨ (∃ l, c = .gzip l ∧ 9 < l)) ∧
      e.kind = "NumericRange" := by
  cases c with
  | none => cases refused
  | zstd l =>
    rw [validate] at refused
    split at refused
    · cases refused
    · rename_i outside
      cases refused
      exact ⟨.inl ⟨l, rfl, outside⟩, rfl⟩
  | gzip l =>
    rw [validate] at refused
    split at refused
    · cases refused
    · rename_i outside
      cases refused
      exact ⟨.inr ⟨l, rfl, by omega⟩, rfl⟩

/-- Past an accepted level, only the uncompressed form is available. -/
theorem compress_of_validate {c : Compression} (accepted : c.validate = .ok ()) (other : c ≠ .none)
    (parts : List ByteArray) : c.compress parts = .error c.unavailable := by
  unfold compress
  rw [accepted]
  cases c with
  | none => exact absurd rfl other
  | zstd l => rfl
  | gzip l => rfl

/-- Without compression the parts are joined in order, whatever the buffer held. -/
theorem compressInto_none (parts : List ByteArray) (out : ByteArray) :
    Compression.none.compressInto parts out = (.ok (), joinBytes parts) := rfl

/-- Every compression but none fails. A refused level leaves the buffer as it was; an accepted
one fails as unsupported and leaves it empty. -/
theorem compressInto_eq_error {c : Compression} {parts : List ByteArray} {out out' : ByteArray}
    {e : Error} (failed : c.compressInto parts out = (.error e, out')) :
    (((∃ l, c = .zstd l ∧ ¬(-7 ≤ l ∧ l ≤ 22)) ∨ (∃ l, c = .gzip l ∧ 9 < l)) ∧
        e.kind = "NumericRange" ∧ out' = out) ∨
      (c ≠ .none ∧ c.validate = .ok () ∧ e = c.unavailable ∧ out' = ByteArray.empty) := by
  unfold compressInto at failed
  cases checked : c.validate with
  | error e' =>
    rw [checked] at failed
    cases failed
    obtain ⟨level, kind⟩ := validate_eq_error checked
    exact .inl ⟨level, kind, rfl⟩
  | ok u =>
    cases u
    by_cases none : c = .none
    · subst none
      cases failed
    · rw [checked, compress_of_validate checked none] at failed
      cases failed
      exact .inr ⟨none, rfl, rfl, rfl⟩

theorem compressInto_fails_iff (c : Compression) (parts : List ByteArray) (out : ByteArray) :
    (∃ e out', c.compressInto parts out = (.error e, out')) ↔ c ≠ .none := by
  constructor
  · rintro ⟨e, out', failed⟩ rfl
    cases failed
  · intro other
    unfold compressInto
    cases checked : c.validate with
    | error e => exact ⟨e, out, rfl⟩
    | ok u =>
      rw [compress_of_validate checked other]
      exact ⟨_, _, rfl⟩

theorem unavailable_kind (c : Compression) : c.unavailable.kind = "Unsupported" := rfl

/-- Without compression a block of at most `max` bytes is restored as it is, and a longer one is
refused with a bounds error. -/
theorem decompress_none (b : ByteArray) (max : Nat) :
    (Compression.none.decompress b max = .ok b ↔ b.size ≤ max) ∧
      (max < b.size → ∃ e, Compression.none.decompress b max = .error e ∧ e.kind = "Bounds") := by
  unfold decompress
  by_cases within : b.size ≤ max
  · rw [if_neg (by omega)]
    exact ⟨iff_of_true rfl within, fun past => absurd past (by omega)⟩
  · rw [if_pos (by omega)]
    exact ⟨iff_of_false (by simp) within, fun _ => ⟨_, rfl, rfl⟩⟩

end Compression

/-- The joined segments are their bytes one after another, however many and however long. -/
theorem toList_joinBytes (parts : List ByteArray) :
    (joinBytes parts).toList = (parts.map ByteArray.toList).flatten := by
  induction parts with
  | nil => simp
  | cons b parts ih => rw [joinBytes_cons, toList_byteArray_append, ih, List.map_cons,
      List.flatten_cons]

namespace BlockWriter

variable {w : BlockWriter}

theorem finishCompressedInto_none (w : BlockWriter) (out : ByteArray) :
    w.finishCompressedInto out .none = w.finishInto out := by
  unfold finishCompressedInto finishInto
  split <;> rfl

theorem finishInto_of_complete (complete : w.checkComplete = .ok ()) (out : ByteArray) :
    w.finishInto out = (.ok (), joinBytes w.segments, w.markSealed) := by
  unfold finishInto
  rw [complete]
  rfl

/-- A compressed finish whose compressor fails gives its error and buffer, and keeps the writer. -/
theorem finishCompressedInto_of_error {out out' : ByteArray} {c : Compression} {e : Error}
    (complete : w.checkComplete = .ok ()) (failed : c.compressInto w.segments out = (.error e, out')) :
    w.finishCompressedInto out c = (.error e, out', w) := by
  unfold finishCompressedInto
  rw [complete]
  dsimp only
  rw [failed]

/-- Compressed and plain finishing into a buffer. Without compression the two are the same, state
and buffer alike. Every other compression fails the compressor; when the block is complete, the
compressed finish then gives the compressor's error and buffer and leaves the writer as it was,
unsealed and with its segments. The failure is a refused level, a numeric range error that leaves
the buffer untouched, or an accepted level of an algorithm this library lacks, an unsupported
error that leaves the buffer empty. A plain finish afterwards gives the block's segments joined in
order, byte after byte. Without compression, restoring a block gives it back exactly when it is at
most the bound, and is a bounds error otherwise. -/
theorem compressed_finish_keeps_block :
    (∀ (w : BlockWriter) (out : ByteArray), w.finishCompressedInto out .none = w.finishInto out) ∧
    (∀ (c : Compression) (parts : List ByteArray) (out : ByteArray),
      (∃ e out', c.compressInto parts out = (.error e, out')) ↔ c ≠ .none) ∧
    (∀ (w : BlockWriter) (out out' : ByteArray) (c : Compression) (e : Error),
      w.checkComplete = .ok () → c.compressInto w.segments out = (.error e, out') →
        w.finishCompressedInto out c = (.error e, out', w) ∧ w.sealed = false ∧
        ((((∃ l, c = .zstd l ∧ ¬(-7 ≤ l ∧ l ≤ 22)) ∨ (∃ l, c = .gzip l ∧ 9 < l)) ∧
            e.kind = "NumericRange" ∧ out' = out) ∨
          (c ≠ .none ∧ c.validate = .ok () ∧ e.kind = "Unsupported" ∧
            out' = ByteArray.empty)) ∧
        ∀ out'', (w.finishCompressedInto out c).2.2.finishInto out'' =
          (.ok (), joinBytes w.segments, w.markSealed)) ∧
    (∀ parts : List ByteArray, (joinBytes parts).toList = (parts.map ByteArray.toList).flatten) ∧
    (∀ (b : ByteArray) (max : Nat),
      (Compression.none.decompress b max = .ok b ↔ b.size ≤ max) ∧
        (max < b.size → ∃ e, Compression.none.decompress b max = .error e ∧ e.kind = "Bounds")) := by
  refine ⟨finishCompressedInto_none, Compression.compressInto_fails_iff, ?_, toList_joinBytes,
    Compression.decompress_none⟩
  intro w out out' c e complete failed
  have kept := finishCompressedInto_of_error complete failed
  refine ⟨kept, (checkComplete_eq_ok_iff.mp complete).1, ?_, fun out'' => ?_⟩
  · rcases Compression.compressInto_eq_error failed with refused | ⟨other, accepted, rfl, cleared⟩
    · exact .inl refused
    · exact .inr ⟨other, accepted, c.unavailable_kind, cleared⟩
  · rw [kept]
    exact finishInto_of_complete complete out''

end BlockWriter

end NativeBlock
