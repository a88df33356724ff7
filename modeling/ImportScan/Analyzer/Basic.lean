import ImportScan.Backend
import ImportScan.Disk.Basic
import ImportScan.Store
import ImportScan.Tree.Snapshot

/-! # Analyzers

    An analyzer tracks the imports of every source file below an input directory.  Between
    builds it remembers the records of each file and the snapshot of the tree that the last
    build saw.

    * `Analyzer.make`   : an analyzer, unless its output would land inside its input.
    * `Analyzer.forget` : the analyzer as it was before its first build, parser apart.
    * `Session`         : an analyzer at work, with the disk and the lines reported so far.
    * `Act`             : a step of a session; what it changed stays changed when it fails.
-/

namespace ImportScan

/-- What is known about a package's tree. -/
structure Analyzer where
  /-- The package that owns the tree. -/
  package : Package
  /-- The directory of the sources, resolved. -/
  input : Text
  /-- The directory of the output tree, resolved, if there is to be one. -/
  output : Option Text
  /-- The records of every tracked file. -/
  store : Store := {}
  /-- All records as one list. -/
  view : View := {}
  /-- The parser, once it is set up. -/
  backend : Option Backend := none
  /-- The tree as the last build saw it. -/
  previous : Snapshot := {}
  /-- How many sources were rejected since the current build began. -/
  syntaxErrors : Nat := 0
  /-- How many sources were parsed since the current build began. -/
  filesParsed : Nat := 0
deriving Repr

namespace Analyzer

/-- The directory that was asked for, unless none was or its name is empty. -/
def given? : Option Text → Option Text
  | some [] => none
  | p => p

/-- The analyzer of a package; without an input directory that is the package's root. -/
def make (cwd : Text) (package : Package) (input output : Option Text) :
    Except Fault Analyzer :=
  let input := Path.absolute cwd ((given? input).getD package.root)
  match (given? output).map (Path.absolute cwd) with
  | none => .ok { package, input, output := none }
  | some output =>
    if Path.isWithin output input then .error (.outputInside output input)
    else .ok { package, input, output := some output }

/-- Whether the parser is set up. -/
def isReady (a : Analyzer) : Bool := a.backend.isSome

/-- The analyzer without anything that builds have gathered. -/
def forget (a : Analyzer) : Analyzer := { a with store := {}, view := {}, previous := {} }

end Analyzer

/-! ## Sessions -/

/-- An analyzer at work. -/
structure Session where
  /-- The analyzer. -/
  analyzer : Analyzer
  /-- The disk it works on. -/
  disk : Disk
  /-- The lines reported so far. -/
  log : List LogLine := []
  /-- The paths of the sources read so far. -/
  reads : List Text := []
deriving Repr

/-- A step of a session.  When it fails, the session keeps what was done before. -/
abbrev Act := ExceptT Fault (StateM Session)

namespace Act

/-- Reports lines. -/
def report (lines : List LogLine) : Act Unit :=
  modify fun s => { s with log := s.log ++ lines }

/-- Changes the analyzer. -/
def update (f : Analyzer → Analyzer) : Act Unit :=
  modify fun s => { s with analyzer := f s.analyzer }

/-- Carries out a call on the disk, which is left alone if the call fails. -/
def onDisk (call : Disk → Except Fault Disk) : Act Unit := do
  match call (← get).disk with
  | .ok d => modify fun s => { s with disk := d }
  | .error e => throw e

end Act

end ImportScan
