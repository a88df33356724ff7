import ImportScan.Disk.Calls
import ImportScan.Log

/-! # Output trees

    An output tree holds the files of an input tree under the same relative paths, as links
    where links can be made and as copies elsewhere.
-/

namespace ImportScan

/-- Where the files come from, where they go, and whether links are made. -/
structure OutputTree where
  /-- The input directory, resolved. -/
  input : Text
  /-- The output directory, resolved. -/
  output : Text
  /-- Whether to link rather than copy. -/
  links : Bool := true
deriving Repr

namespace OutputTree

/-- The output tree between two resolved directories, of which the second is made. -/
def make (input output : Text) (links : Bool) (d : Disk) : Except Fault (OutputTree × Disk) := do
  let d ← d.makeDirs output
  return (⟨input, output, links⟩, d)

/-- Where a relative path is read. -/
def inputPath (t : OutputTree) (path : Text) : Text := Path.join t.input path

/-- Where a relative path is written. -/
def outputPath (t : OutputTree) (path : Text) : Text := Path.join t.output path

/-- The line that reports a link which could not be made. -/
def fallbackLine (path : Text) (cause : Fault) : LogLine :=
  ⟨.debug, .output,
    Text.concat ["Symlink failed for ", path, ", copying instead: ", cause.message]⟩

/-- Whether a refused link is made good by a copy. -/
def isRefusal : Fault → Bool
  | .disk cause _ _ => cause.isRefusal
  | _ => false

/-- Makes a file available in the output tree. -/
def link (t : OutputTree) (path : Text) (d : Disk) : Except Fault Disk × List LogLine :=
  let source := t.inputPath path
  let target := t.outputPath path
  if t.links then
    match d.symlink source target with
    | .ok d => (.ok d, [])
    | .error cause =>
      if isRefusal cause then (d.copy source target, [fallbackLine path cause])
      else (.error cause, [])
  else (d.copy source target, [])

/-- Removes a file or link of the output tree. -/
def unlink (t : OutputTree) (path : Text) (d : Disk) : Except Fault Disk :=
  d.unlink (t.outputPath path)

/-- Removes whatever is at a path of the output tree. -/
def remove (t : OutputTree) (path : Text) (d : Disk) : Except Fault Disk :=
  let target := t.outputPath path
  if d.isLink target || d.isFile target then d.unlink target
  else if d.isDirectory target then d.removeTree target
  else .ok d

/-- Removes an empty directory of the output tree. -/
def rmdir (t : OutputTree) (path : Text) (d : Disk) : Except Fault Disk :=
  d.rmdir (t.outputPath path)

/-- Makes a directory in the output tree. -/
def mkdir (t : OutputTree) (path : Text) (d : Disk) : Except Fault Disk :=
  d.mkdir (t.outputPath path)

end OutputTree

end ImportScan
