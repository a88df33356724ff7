import ImportScan.CommandLine.Input

/-! # The program

    The tree to be scanned comes in on standard input, as a mapping from paths to contents;
    what a command prints and reports goes to standard output and standard error.
-/

namespace ImportScan.CommandLine

/-- Everything that is still to come from a stream. -/
partial def readAll (stream : IO.FS.Stream) (read : Bytes) : IO Bytes := do
  let chunk ← stream.read 65536
  if chunk.isEmpty then return read else readAll stream (read ++ chunk.toList)

/-- The environment, as far as the program looks at it. -/
def environment : IO Environment :=
  variableNames.filterMapM fun name => do
    return (← IO.getEnv name.asString).map fun value => (name, Text.ofString value)

/-- Where the program runs. -/
def host : IO Host := do
  let cwd := ((← IO.getEnv "PWD").map Text.ofString).getD [Path.slash]
  return ⟨cwd, ← environment⟩

/-- Writes a text to a stream. -/
def emit (stream : IO.FS.Stream) (t : Text) : IO Unit := do
  stream.write ⟨t.utf8.toArray⟩
  stream.flush

/-- Shows an outcome and gives its status. -/
def conclude (o : Outcome) : IO UInt32 := do
  emit (← IO.getStdout) o.out
  emit (← IO.getStderr) o.err
  match o.exit with
  | .status n => return n.toUInt32
  | .fault cause =>
    emit (← IO.getStderr) (line [cause.message])
    return 1

end ImportScan.CommandLine

open ImportScan in
open CommandLine in
/-- Runs the program on the tree that standard input describes. -/
def main (args : List String) : IO UInt32 := do
  let host ← host
  let source ← readAll (← IO.getStdin) []
  match readDisk host.cwd (Text.ofUtf8Lossy source) with
  | none =>
    emit (← IO.getStderr) (line [Text.ofString "The tree cannot be read."])
    return 1
  | some input =>
    -- standard output is UTF-8
    let _ : Platform := utf8Output
    conclude (run host input.disk input.writes [] (args.map Text.ofString))
