import ImportScan.CommandLine.Run
import ImportScan.Disk.Edit

/-! # Trees as text

    The program works on a disk that is a value.  A disk is written down as a YAML mapping
    from paths to contents; a path without content is a directory.

    * `readDisk` : the disk that a text describes, and the number of writes it took.
-/

namespace ImportScan.CommandLine

/-- A disk with the writes it has seen. -/
structure Input where
  /-- The disk. -/
  disk : Disk := {}
  /-- The number of writes so far. -/
  writes : Nat := 0
deriving Repr

namespace Input

/-- The input after an edit. -/
def edit (i : Input) (e : Edit) : Except Fault Input := do
  return ⟨← e.apply i.writes i.disk, e.count i.writes⟩

/-- The edit that an entry of the mapping stands for, at a path from a directory. -/
def editOf (cwd : Text) (entry : Datum × Datum) : Edit :=
  let path := Path.join cwd entry.1.display
  match entry.2 with
  | .null => .makeDirs path
  | content => .write path content.display.utf8 none

/-- The input after all entries of a mapping; anything else has no entries. -/
def ofDatum (cwd : Text) (d : Datum) : Except Fault Input := do
  let start ← edit {} (.makeDirs cwd)
  match d with
  | .map es => es.foldlM (fun i e => i.edit (editOf cwd e)) start
  | _ => return start

end Input

/-- The disk that a text describes, seen from a directory; none if the text is no YAML or its
    entries exclude each other. -/
def readDisk (cwd source : Text) : Option Input :=
  match Yaml.load source with
  | .ok d => (Input.ofDatum cwd d).toOption
  | .error _ => none

/-- The names of the variables that the program looks at. -/
def variableNames : List Text := Text.ofString "HOME" :: Setting.all.map Setting.variableName

end ImportScan.CommandLine
