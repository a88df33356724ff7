import ImportScan.Disk.Basic

/-! # Calls on a disk

    Each call gives the changed disk, or the reason why it was refused.  A call that is refused
    changes nothing, except that the directories which `Disk.pave` made before it was stopped
    stay.
-/

namespace ImportScan

namespace Disk

/-- The place of a path, for a call on that path alone. -/
def locate (d : Disk) (last : Bool) (path : Text) : Except Fault Place :=
  match d.resolve last path with
  | .ok place => .ok place
  | .error cause => .error (.disk cause path none)

/-- Makes a directory; slashes at the end of its path do not matter. -/
def mkdir (d : Disk) (path : Text) : Except Fault Disk :=
  match d.resolve false (Path.trimSlashes path) with
  | .error cause => .error (.disk cause path none)
  | .ok (_, some _) => .error (.disk .taken path none)
  | .ok (l, none) => .ok (d.insert l .directory)

/-- Makes a directory, or finds it there. -/
def ensure (d : Disk) (path : Text) : Except Fault Unit × Disk :=
  match d.mkdir path with
  | .ok d => (.ok (), d)
  | .error cause => (if d.isDirectory path then .ok () else .error cause, d)

/-- Makes a directory and those above it that are missing; one that is there is fine.  What was
    made stays when one of them cannot be made.  The fuel bounds the number of directories
    above. -/
def pave : Nat → Disk → Text → Except Fault Unit × Disk
  | 0, d, _ => (.ok (), d)
  | n + 1, d, path =>
    let parent := Path.parent path
    if parent.isEmpty || parent == path || d.exists? parent then d.ensure path
    else
      match pave n d parent with
      | (.ok _, d) => d.ensure path
      | (.error (.disk .taken _ _), d) => d.ensure path
      | (.error cause, d) => (.error cause, d)

/-- The disk after an attempt to make a directory and those above it that are missing. -/
def paved (d : Disk) (path : Text) : Disk := (pave (path.length + 1) d path).2

/-- Makes a directory and those above it that are missing; one that is there is fine. -/
def makeDirs (d : Disk) (path : Text) : Except Fault Disk :=
  match (pave (path.length + 1) d path).1 with
  | .ok _ => .ok (d.paved path)
  | .error cause => .error cause

/-- Why a link cannot be made whatever the disk holds, if it cannot: one of the two names is
    refused, or the target is empty. -/
def badLink? (target path : Text) : Option DiskFault :=
  match badName? target, badName? path with
  | some cause, _ => some cause
  | none, some cause => some cause
  | none, none => if target.isEmpty then some .missing else none

/-- Makes a link to a target. -/
def symlink (d : Disk) (target path : Text) : Except Fault Disk :=
  match badLink? target path with
  | some cause => .error (.disk cause target (some path))
  | none =>
    match d.resolve false path with
    | .error cause => .error (.disk cause target (some path))
    | .ok (_, some _) => .error (.disk .taken target (some path))
    | .ok (l, none) => .ok (d.insert l (.link target))

/-- Removes a file or a link. -/
def unlink (d : Disk) (path : Text) : Except Fault Disk := do
  match ← d.locate false path with
  | (_, none) => .error (.disk .missing path none)
  | (_, some .directory) => .error (.disk .directory path none)
  | (l, some _) => .ok (d.erase l)

/-- Removes an empty directory. -/
def rmdir (d : Disk) (path : Text) : Except Fault Disk := do
  match ← d.locate false path with
  | (_, none) => .error (.disk .missing path none)
  | (l, some .directory) =>
    if (d.names l).isEmpty then .ok (d.erase l) else .error (.disk .notEmpty path none)
  | (_, some _) => .error (.disk .notDirectory path none)

/-- Removes a directory and everything below it. -/
def removeTree (d : Disk) (path : Text) : Except Fault Disk := do
  match ← d.locate false path with
  | (_, none) => .error (.disk .missing path none)
  | (l, some .directory) => .ok (d.eraseTree l)
  | (_, some (.link _)) => .error (.disk .linkedTree path none)
  | (_, some (.file ..)) => .error (.disk .notDirectory path none)

/-- The octets of a file. -/
def read (d : Disk) (path : Text) : Except Fault Bytes := do
  match ← d.locate true path with
  | (_, none) => .error (.disk .missing path none)
  | (_, some (.file content _)) => .ok content
  | (_, some _) => .error (.disk .directory path none)

/-- Writes a file, which is made if it is missing. -/
def write (d : Disk) (path : Text) (content : Bytes) (mtime : Binary64) : Except Fault Disk := do
  match ← d.locate true path with
  | (_, some .directory) => .error (.disk .directory path none)
  | (l, _) => .ok (d.insert l (.file content mtime))

/-- Whether two paths lead to the same entry. -/
def sameEntry (d : Disk) (a b : Text) : Bool :=
  match d.resolve true a, d.resolve true b with
  | .ok (l, some _), .ok (m, some _) => l == m
  | _, _ => false

/-- Copies a file with its modification time; onto a directory means into it. -/
def copy (d : Disk) (source target : Text) : Except Fault Disk := do
  let target := if d.isDirectory target then Path.join target (Path.base source) else target
  if d.sameEntry source target then .error (.sameFile source target)
  else
    match ← d.locate true source with
    | (_, some (.file content mtime)) => d.write target content mtime
    | (_, some _) => .error (.disk .directory source none)
    | (_, none) => .error (.disk .missing source none)

end Disk

end ImportScan
