import NativeBlock.Codec.Rows
import NativeBlock.Proofs.Wire

/-!
# Measuring and decoding rows

A column's rows are measured by `Codec.span` before any value is decoded, and decoded one at a
time by `Codec.decode`. Both only look at the bytes they account for:

* `fixedSpan_eq_ok`: `rows` slots of `width` bytes measure `rows * width` exactly when that many
  bytes are there and the length fits 64 bits;
* `span_selfDelimiting`: the measure of every codec is self-delimiting; in particular it never
  exceeds the buffer (`span_le_size`);
* `decode_framed`: decoding one value is a framed reader, and a fixed-width codec reads exactly
  its slot (`decode_slotWidth`).
-/

namespace NativeBlock

/-- A measure of the bytes at the start of a buffer is self-delimiting when the bytes it counts
decide it: it never counts past the buffer, a buffer that agrees with them and has them all gets
the same answer, and one that ends before them gets a failure. -/
def SelfDelimiting {α : Type} (measure : ByteArray → Except Error α) (length : α → Nat) : Prop :=
  ∀ data a, measure data = .ok a → length a ≤ data.size ∧
    ∀ data', AgreeBelow (length a) data data' →
      (length a ≤ data'.size → measure data' = .ok a) ∧
      (data'.size < length a → ∃ e, measure data' = .error e)

namespace Codec

open Wire

/-! ## Fixed-width slots -/

theorem fixedSpan_eq_ok {data : ByteArray} {rows width n : Nat} :
    fixedSpan data rows width = .ok n ↔
      n = rows * width ∧ rows * width ≤ maxLength ∧ rows * width ≤ data.size := by
  unfold fixedSpan
  by_cases overflow : maxLength < rows * width
  · simp only [if_pos overflow]
    constructor
    · intro run
      cases run
    · intro ⟨_, fits, _⟩
      omega
  · by_cases short : data.size < rows * width
    · simp only [if_neg overflow, if_pos short]
      constructor
      · intro run
        cases run
      · intro ⟨_, _, reach⟩
        omega
    · simp only [if_neg overflow, if_neg short, Except.ok.injEq]
      omega

/-- Too few bytes for the slots is a failure, whatever the row count. -/
theorem fixedSpan_error_of_lt {data : ByteArray} {rows width : Nat}
    (short : data.size < rows * width) : ∃ e, fixedSpan data rows width = .error e := by
  unfold fixedSpan
  by_cases overflow : maxLength < rows * width
  · exact ⟨_, if_pos overflow⟩
  · simp only [if_neg overflow, if_pos short]
    exact ⟨_, rfl⟩

theorem fixedSpan_selfDelimiting (rows width : Nat) :
    SelfDelimiting (fun data => fixedSpan data rows width) id := by
  intro data n run
  obtain ⟨rfl, fits, reach⟩ := fixedSpan_eq_ok.mp run
  exact ⟨reach, fun data' _ => ⟨fun reach' => fixedSpan_eq_ok.mpr ⟨rfl, fits, reach'⟩,
    fixedSpan_error_of_lt⟩⟩

/-! ## Length-prefixed texts -/

/-- The measure of the texts from row `row` on, started at `pos`, moves forward, stays in the
buffer and decides on the bytes it passes. -/
theorem textSpanFrom_framed_at (data : ByteArray) (rows row pos : Nat) :
    ∀ stop, pos ≤ data.size → textSpanFrom data rows row pos = .ok stop →
      pos ≤ stop ∧ stop ≤ data.size ∧
      ∀ data', AgreeBelow stop data data' →
        (stop ≤ data'.size → textSpanFrom data' rows row pos = .ok stop) ∧
        (pos ≤ data'.size → data'.size < stop → ∃ e, textSpanFrom data' rows row pos = .error e) := by
  fun_induction textSpanFrom data rows row pos with
  | case1 row pos more e after failed =>
    intro stop _ run
    cases run
  | case2 row pos more len next length fits ih =>
    intro stop inside run
    obtain ⟨forward, within, agreeing⟩ := readUVarint_framed data pos len next inside length
    obtain ⟨forward', within', agreeing'⟩ := ih stop fits run
    refine ⟨by omega, within', fun data' agree => ⟨fun reach => ?_, fun start short => ?_⟩⟩
    · have again := (agreeing data' (agree.mono (by omega))).1 (by omega)
      rw [textSpanFrom, if_pos more, again]
      simp only [if_pos (show next + len ≤ data'.size by omega)]
      exact (agreeing' data' agree).1 reach
    · rw [textSpanFrom, if_pos more]
      by_cases early : data'.size < next
      · obtain ⟨e, s, failed⟩ := (agreeing data' (agree.mono (by omega))).2 start early
        rw [failed]
        exact ⟨_, rfl⟩
      · have again := (agreeing data' (agree.mono (by omega))).1 (by omega)
        rw [again]
        by_cases room : next + len ≤ data'.size
        · simp only [if_pos room]
          exact (agreeing' data' agree).2 room short
        · simp only [if_neg room]
          exact ⟨_, rfl⟩
  | case3 row pos more len next length overrun =>
    intro stop _ run
    cases run
  | case4 row pos done =>
    intro stop inside run
    cases run
    refine ⟨Nat.le_refl _, inside, fun data' _ => ⟨fun _ => ?_, fun start short => absurd short (by omega)⟩⟩
    rw [textSpanFrom, if_neg done]

/-! ## Spans of every codec -/

theorem span_selfDelimiting (c : Codec) (rows : Nat) :
    SelfDelimiting (fun data => span c data rows) id := by
  unfold span
  cases c.slotWidth with
  | some w => exact fixedSpan_selfDelimiting rows w
  | none =>
    intro data stop run
    obtain ⟨_, within, agreeing⟩ :=
      textSpanFrom_framed_at data rows 0 0 stop (Nat.zero_le _) run
    exact ⟨within, fun data' agree =>
      ⟨(agreeing data' agree).1, (agreeing data' agree).2 (Nat.zero_le _)⟩⟩

/-- The rows a codec measures are always within the buffer. -/
theorem span_le_size {c : Codec} {data : ByteArray} {rows n : Nat}
    (run : span c data rows = .ok n) : n ≤ data.size :=
  (span_selfDelimiting c rows data n run).1

/-- A codec of constant row width measures exactly one slot per row. -/
theorem span_eq_of_slotWidth {c : Codec} {data : ByteArray} {rows w n : Nat}
    (width : c.slotWidth = some w) (run : span c data rows = .ok n) : n = rows * w := by
  unfold span at run
  rw [width] at run
  exact (fixedSpan_eq_ok.mp run).1

/-! ## Decoding one value -/

/-- Reading a slot of `width` bytes, interpreted by a function that may depend on where the slot
starts, is framed. -/
theorem slot_framed {α : Type} (width : Nat) (f : Nat → List UInt8 → Except Error α) :
    Framed (fun data pos => slot data width (f pos) pos) := by
  intro data pos v stop _ (run : slot data width (f pos) pos = _)
  unfold slot at run
  split at run
  · rename_i fits
    split at run
    · rename_i read
      cases run
      refine ⟨by omega, fits, fun data' agree => ⟨fun reach => ?_, fun start short => ?_⟩⟩
      · show slot data' width (f pos) pos = _
        unfold slot
        rw [if_pos reach, agree.extract_eq (Nat.le_refl _) fits reach, read]
      · show ∃ e s, slot data' width (f pos) pos = _
        unfold slot
        rw [if_neg (by omega)]
        exact ⟨_, _, rfl⟩
    · cases run
  · cases run

/-- A slot that is read took exactly its width, inside the buffer. -/
theorem slot_stop {α : Type} {data : ByteArray} {width pos stop : Nat}
    {f : List UInt8 → Except Error α} {v : α} (run : slot data width f pos = .ok v stop) :
    stop = pos + width ∧ pos + width ≤ data.size := by
  unfold slot at run
  split at run
  · rename_i fits
    split at run
    · cases run
      exact ⟨rfl, fits⟩
    · cases run
  · cases run

theorem slot_framed_const {α : Type} (width : Nat) (f : List UInt8 → Except Error α) :
    Framed (fun data => slot data width f) :=
  slot_framed width fun _ => f

/-- A slot placed in the buffer is read whole and handed to the interpretation. -/
theorem slot_placed {α : Type} {data bytes : ByteArray} {pos width : Nat}
    {f : List UInt8 → Except Error α} {v : α} (placed : Placed data pos bytes)
    (size : bytes.size = width) (read : f bytes.toList = .ok v) :
    slot data width f pos = .ok v (pos + width) := by
  unfold slot
  rw [← size, if_pos placed.1, placed.2, read]

theorem decode_framed (c : Codec) : Framed (decode c) := by
  cases c with
  | string => exact readText_framed
  | fixedString n _ _ => exact slot_framed n slotText
  | decimal storage _ _ _ _ =>
    cases storage with
    | d32 => exact slot_framed 4 (fun _ => decimal96OfSlot .d32 _)
    | d64 => exact slot_framed 8 (fun _ => decimal96OfSlot .d64 _)
    | d128 => exact slot_framed 16 (fun _ => fixedOfSlot .d128 _)
    | d256 => exact slot_framed 32 (fun _ => fixedOfSlot .d256 _)
  | _ =>
    unfold decode
    exact slot_framed_const _ _

/-- A codec of constant row width reads exactly that many bytes per value. -/
theorem decode_slotWidth {c : Codec} {data : ByteArray} {w pos stop : Nat} {v : c.Value}
    (width : c.slotWidth = some w) (run : decode c data pos = .ok v stop) :
    stop = pos + w ∧ pos + w ≤ data.size := by
  cases c with
  | string => cases width
  | fixedString n _ _ =>
    cases width
    exact slot_stop run
  | decimal storage _ _ _ _ =>
    cases width
    cases storage <;> exact slot_stop run
  | _ =>
    cases width
    unfold decode at run
    exact slot_stop run

end Codec

end NativeBlock
