import ImportScan.Fault
import ImportScan.Number.Binary64
import ImportScan.Path

/-! # Disks

    A disk is a finite map from locations to entries.  A location lists the components from
    the root; an entry is a directory, a file or a link.  Paths are resolved component by
    component, and links are followed on the way.

    * `Disk.get?`    : the entry at a location.
    * `Disk.resolve` : the location that a path leads to, and what is there.
-/

namespace ImportScan

/-- The components from the root down to a file or directory. -/
abbrev Location := List Text

/-- What is at a location. -/
inductive Entry where
  /-- A directory. -/
  | directory
  /-- A file with its octets and modification time. -/
  | file (content : Bytes) (mtime : Binary64)
  /-- A link to a path. -/
  | link (target : Text)
deriving Repr, DecidableEq

/-- Entries by location.  The root is always a directory. -/
structure Disk where
  /-- Locations and what is there, each location once. -/
  entries : List (Location × Entry) := []
deriving Repr

namespace Disk

/-- The entry at a location. -/
def get? (d : Disk) (l : Location) : Option Entry :=
  if l.isEmpty then some .directory else (d.entries.find? (·.1 == l)).map (·.2)

/-- The disk with an entry at a location. -/
def insert (d : Disk) (l : Location) (e : Entry) : Disk :=
  ⟨(l, e) :: d.entries.filter (·.1 != l)⟩

/-- The disk without the entry at a location. -/
def erase (d : Disk) (l : Location) : Disk := ⟨d.entries.filter (·.1 != l)⟩

/-- The disk without a location and everything below it. -/
def eraseTree (d : Disk) (l : Location) : Disk := ⟨d.entries.filter (!l.isPrefixOf ·.1)⟩

/-- The name of a location in a directory, if it lies directly there. -/
def nameIn? (dir l : Location) : Option Text :=
  if dir.isPrefixOf l && l.length == dir.length + 1 then l.getLast? else none

/-- The names in a directory, in ascending order. -/
def names (d : Disk) (dir : Location) : List Text :=
  Text.sorted (d.entries.filterMap fun e => nameIn? dir e.1)

/-! ## Resolution -/

/-- Where a path leads: a location, and the entry there if there is one. -/
abbrev Place := Location × Option Entry

/-- Follows components from a location on.  A link is followed unless it stands last and
    `follow` is off; `again` goes on behind a link. -/
def descend (d : Disk) (follow : Bool) (again : Location → List Text → Except DiskFault Place)
    (here : Location) : List Text → Except DiskFault Place
  | [] => .ok (here, d.get? here)
  | c :: rest =>
    if c.isEmpty || c == Text.ofString "." then descend d follow again here rest
    else if c == Text.ofString ".." then descend d follow again here.dropLast rest
    else
      let next := here ++ [c]
      match d.get? next with
      | none => if rest.isEmpty then .ok (next, none) else .error .missing
      | some .directory => descend d follow again next rest
      | some (.file content mtime) =>
        if rest.isEmpty then .ok (next, some (.file content mtime)) else .error .notDirectory
      | some (.link target) =>
        if rest.isEmpty && !follow then .ok (next, some (.link target))
        else
          again (if Path.isAbsolute target then [] else here) (target.splitOn Path.slash ++ rest)

/-- Follows components through at most a number of links. -/
def follow (d : Disk) (last : Bool) : Nat → Location → List Text → Except DiskFault Place
  | 0, _, _ => .error .loop
  | n + 1, here, components => descend d last (follow d last n) here components

/-- How many links a path may lead through. -/
def linkLimit : Nat := 41

/-- Why a path cannot be looked up at all, if it cannot. -/
def badName? (p : Text) : Option DiskFault :=
  if p.any fun c => c.isSurrogate && !(0xDC80 ≤ c.val && c.val ≤ 0xDCFF) then some .unencodable
  else if p.any (·.val == 0) then some .null
  else none

/-- Where a path from the root leads; a link at its end is followed when `last` is on. -/
def resolve (d : Disk) (last : Bool) (path : Text) : Except DiskFault Place :=
  match badName? path with
  | some cause => .error cause
  | none => follow d last linkLimit [] (path.splitOn Path.slash)

/-- The entry that a path leads to, links followed. -/
def stat? (d : Disk) (path : Text) : Option Entry :=
  match d.resolve true path with
  | .ok (_, e) => e
  | .error _ => none

/-- Whether a path leads to a directory. -/
def isDirectory (d : Disk) (path : Text) : Bool := d.stat? path == some .directory

/-- Whether a path leads to a file. -/
def isFile (d : Disk) (path : Text) : Bool :=
  match d.stat? path with
  | some (.file ..) => true
  | _ => false

/-- Whether a path leads to anything. -/
def exists? (d : Disk) (path : Text) : Bool := (d.stat? path).isSome

/-- Whether a path names a link. -/
def isLink (d : Disk) (path : Text) : Bool :=
  match d.resolve false path with
  | .ok (_, some (.link _)) => true
  | _ => false

end Disk

end ImportScan
