import NativeBlock.Block.Reader
import NativeBlock.Proofs.Dictionary

/-!
# Measuring a column by its declared type

Skipping a column measures its rows through `ColumnType.span`, from the type its header
declares; reading it measures them through the codec asked for. The two agree:

* `fixedWidth_columnType`: a codec's column type has the codec's slot width;
* `span_columnType`, `span_nullable`: the type's measure is the codec's, and a `Nullable` one
  is the mask followed by the codec's values;
* `span_selfDelimiting`: the measure of every column type is self-delimiting, so it never
  exceeds the buffer (`span_le_size`).
-/

namespace NativeBlock

/-! ## Self-delimiting measures -/

namespace SelfDelimiting

variable {α : Type} {measure : ByteArray → Except Error α} {length : α → Nat}

/-- A measure that always fails delimits nothing, vacuously. -/
theorem of_error (fails : ∀ data, ∃ e, measure data = .error e) :
    SelfDelimiting measure length := by
  intro data a run
  obtain ⟨e, failed⟩ := fails data
  rw [failed] at run
  cases run

/-- Keeping only the length of what a self-delimiting measure finds is self-delimiting. -/
theorem map_length (delimits : SelfDelimiting measure length) :
    SelfDelimiting (fun data => (measure data).map length) id := by
  intro data n run
  dsimp only at run ⊢
  cases found : measure data with
  | error e =>
    rw [found] at run
    cases run
  | ok a =>
    rw [found] at run
    cases run
    obtain ⟨within, agreeing⟩ := delimits data a found
    refine ⟨within, fun data' agree => ⟨fun long => ?_, fun short => ?_⟩⟩
    · rw [(agreeing data' agree).1 long]
      rfl
    · obtain ⟨e, failed⟩ := (agreeing data' agree).2 short
      exact ⟨e, by rw [failed]; rfl⟩

/-- Two self-delimiting measures, the second taken on the bytes after the first, measure the
pair of their lengths self-delimitingly. -/
theorem pair {first second : ByteArray → Except Error Nat}
    (firstDelimits : SelfDelimiting first id) (secondDelimits : SelfDelimiting second id) :
    SelfDelimiting (fun data => do
      let a ← first data
      let b ← second (data.extract a data.size)
      pure (a, b)) (fun p => p.1 + p.2) := by
  intro data n run
  dsimp only at run ⊢
  obtain ⟨a, ranFirst, ranRest⟩ := except_bind_eq_ok run
  obtain ⟨b, ranSecond, total⟩ := except_bind_eq_ok ranRest
  cases total
  obtain ⟨within, agreeing⟩ := firstDelimits data a ranFirst
  obtain ⟨within', agreeing'⟩ := secondDelimits _ b ranSecond
  simp only [id, ByteArray.size_extract] at within within'
  refine ⟨by omega, fun data' agree => ⟨fun long => ?_, fun short => ?_⟩⟩
  · have again := (agreeing data' (agree.mono (Nat.le_add_right a b))).1 (by simp only [id]; omega)
    have rest : AgreeBelow b (data.extract a data.size) (data'.extract a data'.size) := by
      simpa only [Nat.add_sub_cancel_left] using agree.drop a
    have again' := (agreeing' _ rest).1 (by simp only [id, ByteArray.size_extract]; omega)
    rw [again, bind, Except.instMonad]
    simp only [Except.bind, again']
    rfl
  · have rest : AgreeBelow b (data.extract a data.size) (data'.extract a data'.size) := by
      simpa only [Nat.add_sub_cancel_left] using agree.drop a
    by_cases early : data'.size < a
    · obtain ⟨e, failed⟩ := (agreeing data' (agree.mono (Nat.le_add_right a b))).2 early
      exact ⟨e, by rw [failed]; rfl⟩
    · have again := (agreeing data' (agree.mono (Nat.le_add_right a b))).1 (Nat.le_of_not_lt early)
      obtain ⟨e, failed⟩ :=
        (agreeing' _ rest).2 (by simp only [id, ByteArray.size_extract]; omega)
      refine ⟨e, ?_⟩
      rw [again, bind, Except.instMonad]
      simp only [Except.bind, failed]

/-- Two self-delimiting measures, the second taken on the bytes after the first, measure their
sum self-delimitingly. -/
theorem seq {first second : ByteArray → Except Error Nat}
    (firstDelimits : SelfDelimiting first id) (secondDelimits : SelfDelimiting second id) :
    SelfDelimiting (fun data => do
      let a ← first data
      let b ← second (data.extract a data.size)
      pure (a + b)) id := by
  have sum := (pair firstDelimits secondDelimits).map_length
  -- Adding the two lengths after the pair is measured is adding them as they are measured.
  have same : (fun data => do
      let a ← first data
      let b ← second (data.extract a data.size)
      pure (a + b)) = fun data => (do
        let a ← first data
        let b ← second (data.extract a data.size)
        pure (a, b)).map (fun p : Nat × Nat => p.1 + p.2) := by
    funext data
    cases first data with
    | error e => rfl
    | ok a =>
      show (second (data.extract a data.size) >>= fun b => pure (a + b)) =
        Except.map _ (second (data.extract a data.size) >>= fun b => pure (a, b))
      cases second (data.extract a data.size) <;> rfl
  rw [same]
  exact sum

end SelfDelimiting

namespace ColumnType

/-! ## The measure of a declared type -/

/-- A type whose rows have a constant width is measured as that many fixed slots. -/
theorem span_of_fixedWidth {t : ColumnType} {w : Nat} (fixed : t.fixedWidth = some w)
    (data : ByteArray) (rows : Nat) : ColumnType.span data rows t = Codec.fixedSpan data rows w := by
  cases t <;> simp_all [ColumnType.span, fixedWidth]

theorem span_selfDelimiting_of_fixedWidth {t : ColumnType} {w : Nat} (rows : Nat)
    (fixed : t.fixedWidth = some w) : SelfDelimiting (fun data => ColumnType.span data rows t) id := by
  simpa only [span_of_fixedWidth fixed] using Codec.fixedSpan_selfDelimiting rows w

/-- A codec's column type has the codec's slot width. For a decimal codec both come from the
storage width its precision calls for. -/
theorem fixedWidth_columnType (c : Codec) : c.columnType.fixedWidth = c.slotWidth := by
  cases c with
  | unsigned w => cases w <;> rfl
  | signed w => cases w <;> rfl
  | decimal storage precision scale width _ =>
    simp [Codec.columnType, Codec.slotWidth, fixedWidth, width]
  | _ => rfl

/-- The measure of a codec's column type is the codec's own measure, result for result. -/
theorem span_columnType (c : Codec) (data : ByteArray) (rows : Nat) :
    ColumnType.span data rows c.columnType = Codec.span c data rows := by
  cases c with
  | string => rfl
  | _ =>
    rw [span_of_fixedWidth (fixedWidth_columnType _), Codec.span]
    rfl

/-- A `Nullable` column of a codec is measured as its null mask and then the codec's values. -/
theorem span_nullable (c : Codec) (data : ByteArray) (rows : Nat) :
    ColumnType.span data rows (.nullable c.columnType) = (do
      let mask ← Codec.fixedSpan data rows 1
      let values ← Codec.span c (data.extract mask data.size) rows
      pure (mask + values)) := by
  simp only [ColumnType.span, span_columnType]

/-- The measure of every column type is self-delimiting. -/
theorem span_selfDelimiting (rows : Nat) (t : ColumnType) :
    SelfDelimiting (fun data => ColumnType.span data rows t) id := by
  induction t with
  | string => exact Codec.span_selfDelimiting .string rows
  | nullable inner ih =>
    exact SelfDelimiting.seq (Codec.fixedSpan_selfDelimiting rows 1) ih
  | lowCardinality inner _ =>
    by_cases text : inner = .string
    · subst text
      exact (Dictionary.decode_selfDelimiting rows).map_length
    · exact SelfDelimiting.of_error fun data => by simp [ColumnType.span]
  | decimal precision scale =>
    cases fixed : (ColumnType.decimal precision scale).fixedWidth with
    | some w => exact span_selfDelimiting_of_fixedWidth rows fixed
    | none => exact SelfDelimiting.of_error fun data => by simp [ColumnType.span, fixed]
  | _ => exact span_selfDelimiting_of_fixedWidth rows rfl

/-- The bytes a column's declared type measures are always within the buffer. -/
theorem span_le_size {t : ColumnType} {data : ByteArray} {rows n : Nat}
    (run : ColumnType.span data rows t = .ok n) : n ≤ data.size :=
  (span_selfDelimiting rows t data n run).1

end ColumnType

end NativeBlock
