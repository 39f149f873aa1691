import NativeBlock.Proofs.ColumnRead

/-!
# The reader's type check

`BlockReader.openColumn` accepts a column when its declared type is spelled as the canonical text
of the type asked for, or reads as that type. Every type a reader asks for (a codec's, a
`Nullable` of one, `LowCardinality(String)`) reads back from its canonical text
(`ColumnSpec.parse_render`), so the spelling test never accepts a header on its own: a column
opens exactly when its declared type reads as the type asked for, and is refused otherwise with
a type mismatch naming the column, the canonical text and the declared text as written
(`openColumn_checks_type`).
-/

namespace NativeBlock

/-- The column type of every layout reads back from its canonical text. -/
theorem ColumnSpec.parse_render (spec : ColumnSpec) :
    ColumnType.parse spec.columnType.render = .ok spec.columnType := by
  cases spec with
  | value c => exact ColumnType.parse_render_columnType c
  | nullable c => exact ColumnType.parse_render_nullable c
  | dictionary => exact ColumnType.parse_render_dictionary

namespace BlockReader

variable {r : BlockReader} {h : ColumnHeader} {start : Nat}

/-- Once a header is read, opening its column is the spelling test or the reading test. -/
theorem openColumn_of_header (header : r.readHeader = .ok (h, start)) (expected : ColumnType) :
    r.openColumn expected =
      if h.typeName = expected.render ∨ ColumnType.parse h.typeName = .ok expected then
        .ok (h.name, start)
      else .error (.typeMismatch h.name expected.render h.typeName) := by
  unfold openColumn
  rw [header]
  -- The reading test matches on the parse result; each result settles it.
  cases parsed : ColumnType.parse h.typeName with
  | error e =>
    simp only [bind, Except.bind, parsed, Bool.or_false, beq_iff_eq, reduceCtorEq, or_false]
    rfl
  | ok t =>
    simp only [bind, Except.bind, parsed, Bool.or_eq_true, beq_iff_eq, Except.ok.injEq]
    rfl

/-- For every header that reads and every layout a reader asks for, the column opens exactly when
the declared type reads as the layout's type, and the spelling test accepts nothing the reading
test refuses. A refusal is a type mismatch carrying the column's name, the canonical text of the
type asked for and the declared text. -/
theorem openColumn_checks_type (header : r.readHeader = .ok (h, start)) (spec : ColumnSpec) :
    (h.typeName = spec.columnType.render → ColumnType.parse h.typeName = .ok spec.columnType) ∧
    r.openColumn spec.columnType =
      if ColumnType.parse h.typeName = .ok spec.columnType then .ok (h.name, start)
      else .error (.typeMismatch h.name spec.columnType.render h.typeName) := by
  have spelled : h.typeName = spec.columnType.render →
      ColumnType.parse h.typeName = .ok spec.columnType := by
    intro same
    rw [same]
    exact spec.parse_render
  refine ⟨spelled, ?_⟩
  rw [openColumn_of_header header]
  exact if_congr ⟨fun accepted => accepted.elim spelled id, Or.inr⟩ rfl rfl

/-- A header declaring the shorthand `Decimal64(4)` opens a column of the 64-bit decimal codec
for `Decimal(18, 4)`, though it is not that type's canonical text. -/
theorem openColumn_checks_shorthand :
    let h : ColumnHeader := ⟨"x", "Decimal64(4)"⟩
    let r : BlockReader := ⟨h.bytes, 0, 1, 0, 0⟩
    let spec : ColumnSpec := .value (.decimal .d64 18 4 rfl (by decide))
    r.readHeader = .ok (h, h.bytes.size) ∧
      ((h.typeName = spec.columnType.render →
          ColumnType.parse h.typeName = .ok spec.columnType) ∧
        r.openColumn spec.columnType =
          if ColumnType.parse h.typeName = .ok spec.columnType then .ok (h.name, h.bytes.size)
          else .error (.typeMismatch h.name spec.columnType.render h.typeName)) := by
  intro h r spec
  have fits : r.bytes.size < 2 ^ 64 := by decide +kernel
  have placed : Placed r.bytes r.pos (h.bytes ++ ByteArray.empty) := by
    simpa [ByteArray.append_empty] using Placed.whole h.bytes
  have header : r.readHeader = .ok (h, h.bytes.size) := by
    have read := readHeader_placed (by decide) placed fits
    rwa [show r.pos = 0 from rfl, Nat.zero_add] at read
  exact ⟨header, openColumn_checks_type header spec⟩

example : ColumnType.parse "Decimal64(4)" = .ok (.decimal 18 4) := by rfl

end BlockReader

end NativeBlock
