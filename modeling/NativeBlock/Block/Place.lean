import NativeBlock.Error

/-!
# Places in a block

Failures inside a block name where they happened: a column by its name, or one row of it by its
index from zero. These are the prefixes that `Error.within` puts in front of a message.
-/

namespace NativeBlock

/-- The place of a column, as failures name it. -/
def columnPlace (name : String) : String := s!"column `{name}`"

/-- The place of a row, as failures name it. -/
def rowPlace (name : String) (row : Nat) : String := s!"column `{name}` row {row}"

end NativeBlock
