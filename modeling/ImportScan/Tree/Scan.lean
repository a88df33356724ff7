import ImportScan.Disk.Basic
import ImportScan.Fault
import ImportScan.Tree.Snapshot

/-! # Scanning a directory

    The snapshot of what is below a directory.  Of each directory first its subdirectories are
    listed, then its files, both sorted, and then the subdirectories are entered.  A link to a
    directory counts as a directory that is not entered; a link that leads nowhere is left
    out, as are the directories that hold no sources.

    * `Snapshot.ofDirectory` : the snapshot of what is below a path that has a name.
    * `Snapshot.take`        : that snapshot, unless the system refuses the name of the root.
-/

namespace ImportScan

namespace Snapshot

/-- Directories that are neither listed nor entered. -/
def skipped : List Text :=
  ["node_modules", ".git", ".hg", ".svn", "__pycache__", ".cache"].map Text.ofString

/-- A name behind the path of its directory, which is empty for the root of the scan. -/
def behind (path name : Text) : Text := if path.isEmpty then name else path ++ Path.slash :: name

/-- The subdirectories of a directory that are listed; a link to a directory counts as one. -/
def folders (d : Disk) (root : Text) (dir : Location) (path : Text) : List Text :=
  (d.names dir).filter fun n =>
    d.isDirectory (Path.join root (behind path n)) && !skipped.contains n

/-- The files of a directory with their sizes and modification times, links followed. -/
def files (d : Disk) (root : Text) (dir : Location) (path : Text) : List (Text × Status) :=
  (d.names dir).filterMap fun n =>
    match d.stat? (Path.join root (behind path n)) with
    | some (.file content mtime) => some (behind path n, .file content.length mtime)
    | _ => none

/-- The entries below a directory, which has a path behind the root of the scan.  The fuel
    bounds the depth. -/
def scan (d : Disk) (root : Text) : Nat → Location → Text → List (Text × Status)
  | 0, _, _ => []
  | n + 1, dir, path =>
    let folders := folders d root dir path
    folders.map (fun f => (behind path f, .directory)) ++ files d root dir path
      ++ (folders.filter fun f => d.get? (dir ++ [f]) == some .directory).flatMap fun f =>
          scan d root n (dir ++ [f]) (behind path f)

/-- The snapshot of what is below a path; where no directory can be listed it is empty. -/
def ofDirectory (d : Disk) (root : Text) : Snapshot :=
  match d.resolve true root with
  | .ok (l, some .directory) => ofEntries (scan d root (d.entries.length + 1) l [])
  | _ => {}

/-- Takes the snapshot of what is below a path.  A path that leads to no directory has nothing
    below it, but a name that the system does not take is a fault. -/
def take (d : Disk) (root : Text) : Except Fault Snapshot :=
  match Disk.badName? root with
  | some cause => .error (.disk cause root none)
  | none => .ok (ofDirectory d root)

end Snapshot

end ImportScan
