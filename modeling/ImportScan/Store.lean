import ImportScan.Import
import ImportScan.Table

/-! # The import store

    The records of every tracked file, in the order in which the files came in.  A change
    that matters advances the generation, which tells views when they are out of date.

    * `Store.upsert` : store the records of a file unless they equal the stored ones.
    * `Store.evict`  : forget a file.
    * `View.get`     : all records as one list, recomputed only when the store has changed.
-/

namespace ImportScan

/-- Records per file, with a count of the changes that mattered. -/
structure Store where
  /-- Files and their records, in the order of insertion. -/
  table : Table (List Import) := {}
  /-- The number of changes so far. -/
  generation : Nat := 0
deriving Repr

namespace Store

/-- The tracked files with their records. -/
def entries (s : Store) : List (Text × List Import) := s.table.entries

/-- The tracked files. -/
def paths (s : Store) : List Text := s.table.keys

/-- The records of a file, if it is tracked. -/
def get? (s : Store) (path : Text) : Option (List Import) := s.table.get? path

/-- Whether a file is tracked. -/
def contains (s : Store) (path : Text) : Bool := (s.get? path).isSome

/-- All records, file after file. -/
def imports (s : Store) : List Import := s.entries.flatMap (·.2)

/-- Stores the records of a file unless they equal the stored ones; tells whether it did. -/
def upsert (s : Store) (path : Text) (records : List Import) : Bool × Store :=
  match s.get? path with
  | some old =>
    if old == records then (false, s)
    else (true, ⟨s.table.put path records, s.generation + 1⟩)
  | none => (true, ⟨s.table.put path records, s.generation + 1⟩)

/-- Forgets a file; tells whether that dropped any record. -/
def evict (s : Store) (path : Text) : Bool × Store :=
  match s.get? path with
  | none => (false, s)
  | some records =>
    let table := s.table.erase path
    if records.isEmpty then (false, { s with table }) else (true, ⟨table, s.generation + 1⟩)

end Store

/-- A cached list of all records of a store. -/
structure View where
  /-- The list as last computed. -/
  value : List Import := []
  /-- The generation it was computed at, if it was. -/
  computedAt : Option Nat := none
  /-- How often it was computed. -/
  recomputed : Nat := 0
deriving Repr

namespace View

/-- Whether the store has changed since the list was computed. -/
def isStale (v : View) (s : Store) : Bool := v.computedAt != some s.generation

/-- The view after it was asked for its value: recomputed if it was stale. -/
def refresh (v : View) (s : Store) : View :=
  if v.isStale s then ⟨s.imports, some s.generation, v.recomputed + 1⟩ else v

/-- All records of the store. -/
def get (v : View) (s : Store) : List Import := (v.refresh s).value

end View

end ImportScan
