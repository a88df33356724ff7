import ImportScan.Disk.Calls

/-! # Edits

    What others do to a disk between builds: they write, delete, and make directories and
    links.  A write without a date of its own is dated by a count of the writes, so that each
    write is later than the one before.
-/

namespace ImportScan

/-- A change to a disk, at a path from the root. -/
inductive Edit where
  /-- Writes a file, below directories that are made if they are missing. -/
  | write (path : Text) (content : Bytes) (mtime : Option Binary64)
  /-- Deletes a file, a link or a whole directory. -/
  | delete (path : Text)
  /-- Makes a directory and those above it that are missing. -/
  | makeDirs (path : Text)
  /-- Makes a link, below directories that are made if they are missing. -/
  | symlink (path target : Text)
deriving Repr

namespace Edit

/-- The date of the write with a number. -/
def date (count : Nat) : Binary64 := Binary64.ofInt (1000000000 + count)

/-- The number of writes after the edit. -/
def count (writes : Nat) : Edit → Nat
  | .write .. => writes + 1
  | _ => writes

/-- The disk after the edit, when there were a number of writes before it. -/
def apply (e : Edit) (writes : Nat) (d : Disk) : Except Fault Disk :=
  match e with
  | .write path content mtime => do
    (← d.makeDirs (Path.parent path)).write path content (mtime.getD (date (writes + 1)))
  | .delete path =>
    if d.isDirectory path && !d.isLink path then d.removeTree path else d.unlink path
  | .makeDirs path => d.makeDirs path
  | .symlink path target => do (← d.makeDirs (Path.parent path)).symlink target path

end Edit

end ImportScan
