import NativeBlock.Proofs.ColumnSpan
import NativeBlock.Proofs.TypeText
import NativeBlock.Proofs.ReadOps

/-!
# Skipping a column measures what reading it measures

`BlockReader.skip` moves past a column by the type its header declares, and the typed readers
`nextColumn`, `nextNullable` and `nextDictionary` move past it by the codec they are asked for.
Whenever a typed reader takes a column, skipping it instead leaves the reader in the same state
(`skip_agrees_with_reads`): the header that the typed reader accepted reads back as the type it
asked for, and that type's measure is the codec's.

Each reader operation is first inverted into its steps (`openColumn_eq_ok`, `nextColumn_eq_ok`,
…), so the comparison never unfolds the readers again.
-/

namespace NativeBlock

@[simp] theorem Except.within_ok {α : Type} (place : String) (a : α) :
    Except.within place (.ok a) = .ok a := rfl

@[simp] theorem Except.within_error {α : Type} (place : String) (e : Error) :
    Except.within place (.error e : Except Error α) = .error (e.within place) := rfl

theorem Except.within_eq_ok {α : Type} {place : String} {x : Except Error α} {a : α} :
    Except.within place x = .ok a ↔ x = .ok a := by
  cases x with
  | error e => simp [Except.within]
  | ok b => simp [Except.within]

namespace BlockReader

variable {r r' : BlockReader}

/-! ## The steps of each operation -/

/-- A column opens when its header is read and declares the type asked for, spelled as that
type's canonical text or read as that type. -/
theorem openColumn_eq_ok {expected : ColumnType} {name : String} {start : Nat}
    (run : r.openColumn expected = .ok (name, start)) :
    ∃ h, r.readHeader = .ok (h, start) ∧ name = h.name ∧
      (h.typeName = expected.render ∨ ColumnType.parse h.typeName = .ok expected) := by
  unfold openColumn at run
  obtain ⟨⟨h, start'⟩, read, rest⟩ := except_bind_eq_ok run
  dsimp only at rest
  -- Whether the declared text reads as the type is decided before the header is accepted.
  split at rest
  · rename_i t parsed
    split at rest
    · rename_i accepted
      cases rest
      refine ⟨h, read, rfl, ?_⟩
      simp only [Bool.or_eq_true, beq_iff_eq] at accepted
      rcases accepted with spelled | same
      · exact .inl spelled
      · exact .inr (same ▸ parsed)
    · cases rest
  · split at rest
    · rename_i accepted
      cases rest
      simp only [Bool.or_false, beq_iff_eq] at accepted
      exact ⟨h, read, rfl, .inl accepted⟩
    · cases rest

/-- A header accepted for a type that reads back from its canonical text declares that type. -/
theorem columnType_of_accepted {h : ColumnHeader} {t : ColumnType}
    (accepted : h.typeName = t.render ∨ ColumnType.parse h.typeName = .ok t)
    (reads : ColumnType.parse t.render = .ok t) : h.columnType = .ok t := by
  unfold ColumnHeader.columnType
  rcases accepted with spelled | parsed
  · rw [spelled, reads]
    rfl
  · rw [parsed]
    rfl

theorem nextColumn_eq_ok {c : Codec} {cur : ValueCursor c}
    (run : r.nextColumn c = .ok (cur, r')) :
    ∃ name start span, r.openColumn c.columnType = .ok (name, start) ∧
      Codec.span c (r.tail start) r.rows = .ok span ∧ r' = r.advance start span ∧
      cur = ⟨name, (r.tail start).extract 0 span, 0, r.rows, 0⟩ := by
  rw [nextColumn_eq] at run
  obtain ⟨⟨name, start⟩, opened, rest⟩ := except_bind_eq_ok run
  obtain ⟨span, measured, done⟩ := except_bind_eq_ok rest
  cases done
  exact ⟨name, start, span, opened, Except.within_eq_ok.mp measured, rfl, rfl⟩

theorem nextNullable_eq_ok {c : Codec} {cur : NullableCursor c}
    (run : r.nextNullable c = .ok (cur, r')) :
    ∃ name start mask values, r.openColumn (.nullable c.columnType) = .ok (name, start) ∧
      Codec.fixedSpan (r.tail start) r.rows 1 = .ok mask ∧
      Codec.span c ((r.tail start).extract mask (r.tail start).size) r.rows = .ok values ∧
      r' = r.advance start (mask + values) ∧
      cur = ⟨name, (r.tail start).extract 0 mask, (r.tail start).extract mask (mask + values), 0,
        r.rows, 0⟩ := by
  rw [nextNullable_eq] at run
  obtain ⟨⟨name, start⟩, opened, rest⟩ := except_bind_eq_ok run
  obtain ⟨⟨mask, values⟩, measured, done⟩ := except_bind_eq_ok rest
  cases done
  obtain ⟨mask', maskRun, valuesRest⟩ := except_bind_eq_ok (Except.within_eq_ok.mp measured)
  obtain ⟨values', valuesRun, pair⟩ := except_bind_eq_ok valuesRest
  cases pair
  exact ⟨name, start, mask, values, opened, maskRun, valuesRun, rfl, rfl⟩

theorem nextDictionary_eq_ok {cur : DictionaryCursor} (run : r.nextDictionary = .ok (cur, r')) :
    ∃ name start d, r.openColumn (.lowCardinality .string) = .ok (name, start) ∧
      Dictionary.decode (r.tail start) r.rows = .ok d ∧ r' = r.advance start d.consumed ∧
      cur = ⟨name, d.dictionary, d.keys, d.keyWidth, r.rows, 0⟩ := by
  rw [nextDictionary_eq] at run
  obtain ⟨⟨name, start⟩, opened, rest⟩ := except_bind_eq_ok run
  obtain ⟨d, decoded, done⟩ := except_bind_eq_ok rest
  cases done
  exact ⟨name, start, d, opened, Except.within_eq_ok.mp decoded, rfl, rfl⟩

/-- Skipping succeeds exactly when the header is read, its type read, and the type's rows
measured. -/
theorem skip_eq_ok_iff {h : ColumnHeader} :
    r.skip = .ok (h, r') ↔ ∃ start t span, r.readHeader = .ok (h, start) ∧
      h.columnType = .ok t ∧ ColumnType.span (r.tail start) r.rows t = .ok span ∧
      r' = r.advance start span := by
  constructor
  · intro run
    rw [skip_eq] at run
    obtain ⟨⟨h', start⟩, read, rest⟩ := except_bind_eq_ok run
    obtain ⟨t, declared, rest⟩ := except_bind_eq_ok rest
    obtain ⟨span, measured, done⟩ := except_bind_eq_ok rest
    cases done
    exact ⟨start, t, span, read, declared, Except.within_eq_ok.mp measured, rfl⟩
  · rintro ⟨start, t, span, read, declared, measured, rfl⟩
    simp only [skip_eq, read, declared, measured, bind, Except.bind, Except.within_ok, pure,
      Except.pure]

/-- Skipping a column that opened for a type which reads back from its text, and whose measure
succeeds, lands where the typed reader does. -/
theorem skip_of_open {t : ColumnType} {name : String} {start span : Nat}
    (opened : r.openColumn t = .ok (name, start)) (reads : ColumnType.parse t.render = .ok t)
    (measured : ColumnType.span (r.tail start) r.rows t = .ok span) :
    ∃ h, r.skip = .ok (h, r.advance start span) := by
  obtain ⟨h, read, _, accepted⟩ := openColumn_eq_ok opened
  exact ⟨h, skip_eq_ok_iff.mpr ⟨start, t, span, read, columnType_of_accepted accepted reads,
    measured, rfl⟩⟩

/-! ## Skipping and reading agree -/

theorem skip_of_nextColumn {c : Codec} {cur : ValueCursor c}
    (run : r.nextColumn c = .ok (cur, r')) : ∃ h, r.skip = .ok (h, r') := by
  obtain ⟨name, start, span, opened, measured, rfl, -⟩ := nextColumn_eq_ok run
  rw [← ColumnType.span_columnType] at measured
  exact skip_of_open opened (ColumnType.parse_render_columnType c) measured

theorem skip_of_nextNullable {c : Codec} {cur : NullableCursor c}
    (run : r.nextNullable c = .ok (cur, r')) : ∃ h, r.skip = .ok (h, r') := by
  obtain ⟨name, start, mask, values, opened, maskRun, valuesRun, rfl, -⟩ := nextNullable_eq_ok run
  have measured : ColumnType.span (r.tail start) r.rows (.nullable c.columnType) =
      .ok (mask + values) := by
    rw [ColumnType.span_nullable, maskRun]
    simp only [bind, Except.bind, valuesRun, pure, Except.pure]
  exact skip_of_open opened (ColumnType.parse_render_nullable c) measured

theorem skip_of_nextDictionary {cur : DictionaryCursor} (run : r.nextDictionary = .ok (cur, r')) :
    ∃ h, r.skip = .ok (h, r') := by
  obtain ⟨name, start, d, opened, decoded, rfl, -⟩ := nextDictionary_eq_ok run
  have measured : ColumnType.span (r.tail start) r.rows (.lowCardinality .string) =
      .ok d.consumed := by
    simp only [ColumnType.span, decoded, Except.map]
  exact skip_of_open opened ColumnType.parse_render_dictionary measured

/-- Whatever state a reader is in, a column that a typed reader takes can be skipped instead,
and skipping leaves the reader exactly where the typed reader does. The two measures behind
this agree for every codec and buffer, failures included: a codec's column type is measured as
the codec measures, a `Nullable` one as its mask and then the codec's values, and a row of the
type has the codec's width. -/
theorem skip_agrees_with_reads (r : BlockReader) (c : Codec) :
    (∀ cur r', r.nextColumn c = .ok (cur, r') → ∃ h, r.skip = .ok (h, r')) ∧
    (∀ cur r', r.nextNullable c = .ok (cur, r') → ∃ h, r.skip = .ok (h, r')) ∧
    (∀ cur r', r.nextDictionary = .ok (cur, r') → ∃ h, r.skip = .ok (h, r')) ∧
    (∀ data rows, ColumnType.span data rows c.columnType = Codec.span c data rows) ∧
    (∀ data rows, ColumnType.span data rows (.nullable c.columnType) = (do
      let mask ← Codec.fixedSpan data rows 1
      let values ← Codec.span c (data.extract mask data.size) rows
      pure (mask + values))) ∧
    c.columnType.fixedWidth = c.slotWidth :=
  ⟨fun _ _ run => skip_of_nextColumn run, fun _ _ run => skip_of_nextNullable run,
    fun _ _ run => skip_of_nextDictionary run, ColumnType.span_columnType c,
    ColumnType.span_nullable c, ColumnType.fixedWidth_columnType c⟩

end BlockReader

end NativeBlock
