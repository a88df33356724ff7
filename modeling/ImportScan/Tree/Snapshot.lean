import ImportScan.Number.Binary64
import ImportScan.Table

/-! # Snapshots and patches

    A snapshot lists the files and directories below a root at one moment.  The patch between
    two snapshots removes first, deepest paths first, and then adds and changes, directories
    before what they hold.

    * `Snapshot.get?`      : the entry of a path.
    * `Snapshot.patch`     : the operations that turn one snapshot into another.
-/

namespace ImportScan

/-- What a snapshot knows about a path. -/
inductive Status where
  /-- A directory. -/
  | directory
  /-- A file with its size and modification time. -/
  | file (size : Nat) (mtime : Binary64)
deriving Repr

namespace Status

/-- Whether the path is a directory. -/
def isDirectory : Status → Bool
  | .directory => true
  | .file .. => false

/-- Whether a file differs in size or modification time. -/
def isEdited : Status → Status → Bool
  | .file s m, .file t n => s != t || !m.equal n
  | _, _ => false

end Status

/-- The files and directories below a root, each path once. -/
structure Snapshot where
  /-- Paths and what is known about them. -/
  table : Table Status := {}
deriving Repr

namespace Snapshot

/-- The paths with what is known about them. -/
def entries (s : Snapshot) : List (Text × Status) := s.table.entries

/-- The snapshot of a list of entries; of a repeated path the last entry counts. -/
def ofEntries (entries : List (Text × Status)) : Snapshot :=
  ⟨entries.foldl (fun t e => t.put e.1 e.2) {}⟩

/-- The status of a path. -/
def get? (s : Snapshot) (path : Text) : Option Status := s.table.get? path

/-- The paths in ascending order. -/
def sortedPaths (s : Snapshot) : List Text := Text.sorted s.table.keys

end Snapshot

/-- What a patch does to a path. -/
inductive Operation where
  /-- A file is gone. -/
  | unlink
  /-- A directory is gone. -/
  | rmdir
  /-- A directory is new. -/
  | mkdir
  /-- A file was edited. -/
  | change
  /-- A file is new. -/
  | create
deriving Repr, DecidableEq

namespace Operation

/-- The name of an operation. -/
def name : Operation → Text
  | .unlink => Text.ofString "unlink"
  | .rmdir => Text.ofString "rmdir"
  | .mkdir => Text.ofString "mkdir"
  | .change => Text.ofString "change"
  | .create => Text.ofString "create"

/-- The operation of a name. -/
def ofName? (t : Text) : Option Operation :=
  [Operation.unlink, .rmdir, .mkdir, .change, .create].find? (·.name == t)

end Operation

/-- Operations on paths, in order. -/
abbrev Patch := List (Operation × Text)

namespace Snapshot

/-- The operation that removes a path, unless the path stays what it is. -/
def removal? (current : Snapshot) (path : Text) (old : Status) : Option (Operation × Text) :=
  let gone := some (if old.isDirectory then .rmdir else .unlink, path)
  match current.get? path with
  | none => gone
  | some new => if new.isDirectory == old.isDirectory then none else gone

/-- The operation that brings a path to its new status, unless it has it already. -/
def addition? (previous : Snapshot) (path : Text) (new : Status) : Option (Operation × Text) :=
  let fresh := some (if new.isDirectory then .mkdir else .create, path)
  match previous.get? path with
  | none => fresh
  | some old =>
    if old.isDirectory != new.isDirectory then fresh
    else if old.isEdited new then some (.change, path)
    else none

/-- The removals, deepest paths first. -/
def removals (previous current : Snapshot) : Patch :=
  previous.sortedPaths.reverse.filterMap fun path =>
    (previous.get? path).bind fun old => removal? current path old

/-- The additions and changes, directories before what they hold. -/
def additions (previous current : Snapshot) : Patch :=
  current.sortedPaths.filterMap fun path =>
    (current.get? path).bind fun new => addition? previous path new

/-- The operations that turn one snapshot into another. -/
def patch (previous current : Snapshot) : Patch :=
  removals previous current ++ additions previous current

end Snapshot

end ImportScan
