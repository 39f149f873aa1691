import NativeBlock.Inspect.Command

/-!
# native_inspect

The command line of the block report: `native_inspect --input PATH` prints the report of the
block in a file (`-` reads standard input), `--sample` that of the sample block. The report goes
to standard output; a failure goes to standard error as `native_inspect: ` and its message, with
exit status 1. `--help` or `-h` prints the help text to standard error.
-/

namespace NativeBlock.Inspect

/-- An error number, which some reads report negated. -/
def errno (code : UInt32) : Nat :=
  if Nat.pow 2 31 ≤ code.toNat then Nat.pow 2 32 - code.toNat else code.toNat

/-- A failed read as the system reports it: its description and its error number. -/
def ioMessage (e : IO.Error) : String :=
  match e with
  | .noFileOrDirectory _ code _ =>
    let n := errno code
    s!"No such file or directory (os error {n})"
  | .permissionDenied _ code _ =>
    let n := errno code
    s!"Permission denied (os error {n})"
  | .inappropriateType _ code _ =>
    let n := errno code
    s!"Is a directory (os error {n})"
  | e => toString e

partial def readAll (s : IO.FS.Stream) (acc : ByteArray) : IO ByteArray := do
  let chunk ← s.read 65536
  if chunk.isEmpty then return acc else readAll s (acc ++ chunk)

/-- Reads a file, or standard input for `-`. -/
def load (path : String) : IO (Except String ByteArray) := do
  try
    if path == "-" then return .ok (← readAll (← IO.getStdin) ByteArray.empty)
    else if path.contains '\x00' then return .error "file name contained an unexpected NUL byte"
    else return .ok (← IO.FS.readBinFile path)
  catch e => return .error (ioMessage e)

end NativeBlock.Inspect

open NativeBlock in
def main (args : List String) : IO UInt32 := do
  let argv := "native_inspect" :: args
  if argv.any (fun a => a == "--help" || a == "-h") then
    IO.eprint Inspect.usage
    return 0
  match ← Inspect.run argv Inspect.load with
  | .ok out =>
    IO.println out
    return 0
  | .error e =>
    let msg := e.message
    IO.eprintln s!"native_inspect: {msg}"
    return 1
