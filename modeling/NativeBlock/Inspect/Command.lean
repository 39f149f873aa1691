import NativeBlock.Inspect.Report
import NativeBlock.Inspect.Sample
import NativeBlock.Codec.Compression
import NativeBlock.Text.Numeral

/-!
# The inspect command

`native_inspect` prints one block as a JSON report. Its options are `--input PATH`, `--sample`,
`--compression NAME`, `--max-uncompressed N`, `--max-rows N` and `--pretty`; an option with a
value takes it as `--opt value` or `--opt=value`, and the first occurrence wins. A number that
does not read falls back to the option's default.

The options are read in a fixed order, and the first failure is the answer: an unknown
compression, then a missing input, then a file that cannot be read, then a block that does not
decompress, then the report itself.
-/

namespace NativeBlock.Inspect

def usage : String :=
  "native_inspect\n\nPrints one ClickHouse Native block as JSON.\n\nArgs:\n" ++
  "--input PATH          file holding one block, `-` for stdin\n" ++
  "--sample              inspect a generated sample block instead\n" ++
  "--compression NAME    none | zstd | gzip (default: none)\n" ++
  "--max-uncompressed N  (default: 1073741824)\n" ++
  "--max-rows N          values printed per column (default: all)\n" ++
  "--pretty              indent the output\n"

/-- Where the block comes from. -/
inductive Source where
  | sample
  | file (path : String)

/-- What the command line asks for. -/
structure Options where
  maxUncompressed : Nat
  maxRows : Nat
  compression : Compression
  source : Source
  pretty : Bool

/-- The value of option `name`: the text after `name=` in an argument, or the argument after
`name` itself, whichever comes first. -/
def optionValue? (args : List String) (name : String) : Option String :=
  match args with
  | [] => none
  | a :: rest =>
    let key := (name ++ "=").toList
    if key.isPrefixOf a.toList then some (String.ofList (a.toList.drop key.length))
    else if a = name then rest.head?
    else optionValue? rest name

/-- A numeric option, or `default` when it is absent or does not read. -/
def numberOption (args : List String) (name : String) (default : Nat) : Nat :=
  ((optionValue? args name).bind (Text.parseUnsigned? Text.maxU64)).getD default

def compressionNamed (name : String) : Except Error Compression :=
  match name with
  | "none" => .ok .none
  | "zstd" => .ok (.zstd 3)
  | "gzip" => .ok (.gzip 6)
  | other => .error (.other s!"unknown compression `{other}`")

namespace Options

/-- Reads the command line, the program name included. -/
def ofArgs (args : List String) : Except Error Options := do
  let maxUncompressed := numberOption args "--max-uncompressed" 1073741824
  let maxRows := numberOption args "--max-rows" Text.maxU64
  let compression ← compressionNamed ((optionValue? args "--compression").getD "none")
  let source ← if args.contains "--sample" then pure .sample
    else match optionValue? args "--input" with
      | some path => pure (.file path)
      | none => throw (.other "missing --input (see --help)")
  pure ⟨maxUncompressed, maxRows, compression, source, args.contains "--pretty"⟩

/-- The report's text for the raw bytes of a block. -/
def report (o : Options) (raw : ByteArray) : Except Error String := do
  let block ← o.compression.decompress raw o.maxUncompressed
  let doc := (← BlockReport.ofBytes block o.maxRows).toJson
  pure (if o.pretty then doc.pretty 0 else doc.compact)

end Options

/-- Runs the command; `load` reads a file, or fails with the system's message. -/
def run {m : Type → Type} [Monad m] (args : List String)
    (load : String → m (Except String ByteArray)) : m (Except Error String) := do
  match Options.ofArgs args with
  | .error e => pure (.error e)
  | .ok o =>
    match o.source with
    | .sample => pure (sampleBlock >>= o.report)
    | .file path =>
      match ← load path with
      | .ok raw => pure (o.report raw)
      | .error msg => pure (.error (.other s!"{path}: {msg}"))

end NativeBlock.Inspect
