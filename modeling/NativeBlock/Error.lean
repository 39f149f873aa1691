/-!
# Errors of the block codec

Every failure of the codec is one of six kinds. Five of them carry a message; a type mismatch
carries the column, the type the caller asked for and the type the block declares. The kind is
what a caller branches on, the message is what a person reads.

`Error.within` prefixes a message with the place it arose (`column `x` row 3: ...`), and leaves
a type mismatch alone because it already names its column.
-/

namespace NativeBlock

/-- A failure of the codec, by kind. -/
inductive Error where
  /-- Malformed varint, truncated buffer, count mismatch or unparsable type string. -/
  | framing (message : String)
  /-- The column's declared type is not the one the caller asked for. -/
  | typeMismatch (column expected actual : String)
  /-- Access past the declared row count or past the end of the buffer. -/
  | bounds (message : String)
  /-- A value does not fit the declared precision, scale or capacity. -/
  | numericRange (message : String)
  /-- A feature of the format that the codec does not implement. -/
  | unsupported (message : String)
  /-- Anything else: command-line and file-system failures. -/
  | other (message : String)
  deriving DecidableEq, Repr, Inhabited

namespace Error

/-- The kind's name, as it is reported next to the message. -/
def kind : Error → String
  | .framing _ => "Framing"
  | .typeMismatch .. => "TypeMismatch"
  | .bounds _ => "Bounds"
  | .numericRange _ => "NumericRange"
  | .unsupported _ => "Unsupported"
  | .other _ => "Other"

/-- The text shown to a person: the kind's prefix followed by the message. -/
def message : Error → String
  | .framing m => "framing error: " ++ m
  | .typeMismatch c e a => "type mismatch in column `" ++ c ++ "`: expected " ++ e ++ ", found " ++ a
  | .bounds m => "out of bounds: " ++ m
  | .numericRange m => "numeric range error: " ++ m
  | .unsupported m => "unsupported: " ++ m
  | .other m => m

/-- Prefixes the message with the place where the failure happened. -/
def within (place : String) : Error → Error
  | .framing m => .framing (place ++ ": " ++ m)
  | .bounds m => .bounds (place ++ ": " ++ m)
  | .numericRange m => .numericRange (place ++ ": " ++ m)
  | .unsupported m => .unsupported (place ++ ": " ++ m)
  | .other m => .other (place ++ ": " ++ m)
  | e@(.typeMismatch ..) => e

@[simp] theorem kind_within (place : String) (e : Error) : (e.within place).kind = e.kind := by
  cases e <;> rfl

end Error

/-- Attaches a place to the error of a failed computation; a success passes through. -/
def Except.within {α : Type} (place : String) : Except Error α → Except Error α
  | .ok a => .ok a
  | .error e => .error (e.within place)

end NativeBlock
