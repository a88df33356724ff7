import ImportScan.Analyzer.Basic
import ImportScan.OutputTree
import ImportScan.Tree.Scan

/-! # Builds

    A build compares the input tree with the tree that the last build saw and applies the
    patch between the two, one operation per changed path.

    * `Act.parse`    : the records of a source; a source that is rejected has none.
    * `Act.runBuild` : apply the operations of a patch.
    * `Act.catchUp`  : find the patch to a snapshot and apply it; if it cannot be applied, the
      analyzer forgets.
    * `Act.build`    : take a snapshot and catch up with it.
-/

namespace ImportScan

/-- What a build has done. -/
structure Stats where
  /-- The number of operations applied. -/
  operations : Nat
  /-- The number of sources parsed. -/
  filesParsed : Nat
  /-- The number of sources rejected. -/
  syntaxErrors : Nat
  /-- The number of records known after the build. -/
  importCount : Nat
deriving Repr, DecidableEq

/-- Where a build finds the sources. -/
inductive Sources where
  /-- In the input directory. -/
  | input
  /-- Among given texts. -/
  | given (texts : List (Text × Text))
  /-- With somebody who is asked for one path after the other, and whose answer may depend on
      the paths that were read before. -/
  | asked (answer : List Text → Text → Except Fault Text)

namespace Act

variable [Parsers]

/-! ## Single files -/

/-- The parser, which is set up on first use. -/
def setup : Act Backend := do
  let a := (← get).analyzer
  match a.backend with
  | some b => return b
  | none =>
    let (result, lines) := Backend.setup a.package
    report lines
    match result with
    | .ok b =>
      update fun a => { a with backend := some b }
      return b
    | .error e => throw e

/-- The line that reports a rejected source. -/
def rejectedLine (path : Text) (cause : Fault) : LogLine :=
  ⟨.debug, .analyzer,
    Text.concat ["Ignoring an unparseable file ", path, ": ", cause.message]⟩

/-- The records of a source; a source that is rejected has none. -/
def parse (path source : Text) : Act (List Import) := do
  let b ← setup
  update fun a => { a with filesParsed := a.filesParsed + 1 }
  let (result, b, lines) := b.read ⟨path, (← get).analyzer.package⟩ source
  report lines
  update fun a => { a with backend := some b }
  match result with
  | .ok imports => return imports
  | .error (.source cause) =>
    report [rejectedLine path (.source cause)]
    update fun a => { a with syntaxErrors := a.syntaxErrors + 1 }
    return []
  | .error e => throw e

/-- Stores the records of a source; tells whether that changed anything. -/
def updateImports (path source : Text) : Act Bool := do
  report [⟨.debug, .analyzer,
    Text.concat ["Updating imports for ", path, ", ", Text.ofNat source.length]⟩]
  let imports ← parse path source
  let (changed, store) := (← get).analyzer.store.upsert path imports
  update fun a => { a with store }
  return changed

/-- Forgets a file; tells whether that dropped any record. -/
def removeImports (path : Text) : Act Bool := do
  report [⟨.debug, .analyzer, Text.concat ["Removing imports for ", path]⟩]
  let (dropped, store) := (← get).analyzer.store.evict path
  update fun a => { a with store }
  return dropped

/-- All records of every tracked file. -/
def imports : Act (List Import) := do
  let a := (← get).analyzer
  let view := a.view.refresh a.store
  if a.view.isStale a.store then
    report [⟨.debug, .store, Text.concat ["imports ", Import.json view.value]⟩]
  update fun a => { a with view }
  return view.value

/-- The source at a path of the input directory, as text with plain line ends. -/
def readInput (path : Text) : Act Text := do
  let s ← get
  match s.disk.read (Path.join s.analyzer.input path) with
  | .ok bytes => return (Text.ofUtf8Lossy bytes).normalizeNewlines
  | .error e => throw e

/-- The source at a path. -/
def readSource (sources : Sources) (path : Text) : Act Text := do
  let before := (← get).reads
  modify fun s => { s with reads := s.reads ++ [path] }
  match sources with
  | .input => readInput path
  | .given texts =>
    match texts.find? (·.1 == path) with
    | some (_, source) => return source
    | none => throw (.missingKey (.text path))
  | .asked answer =>
    match answer before path with
    | .ok source => return source
    | .error e => throw e

/-! ## Patches -/

/-- Carries out a call on the output tree, if there is one. -/
def onTree (tree : Option OutputTree) (call : OutputTree → Disk → Except Fault Disk) : Act Unit :=
  match tree with
  | some t => onDisk (call t)
  | none => return

/-- Makes a file available in the output tree, if there is one. -/
def linkInto (tree : Option OutputTree) (path : Text) : Act Unit :=
  match tree with
  | some t => do
    report (t.link path (← get).disk).2
    onDisk fun d => (t.link path d).1
  | none => return

/-- Stores the records of the file at a path, if the package tracks it. -/
def track (sources : Sources) (path : Text) : Act Unit := do
  if (← get).analyzer.package.tracks path then
    discard (updateImports path (← readSource sources path))

/-- Forgets the file at a path, if the package tracks it. -/
def untrack (path : Text) : Act Unit := do
  if (← get).analyzer.package.tracks path then discard (removeImports path)

/-- Applies one operation of a patch. -/
def apply (sources : Sources) (tree : Option OutputTree) (op : Operation) (path : Text) :
    Act Unit :=
  match op with
  | .unlink => do
    untrack path
    onTree tree fun t => t.unlink path
  | .rmdir => onTree tree fun t => t.rmdir path
  | .mkdir => onTree tree fun t => t.mkdir path
  | .change => do
    onTree tree fun t => t.remove path
    track sources path
    linkInto tree path
  | .create => do
    track sources path
    linkInto tree path

/-- Applies the operations of a patch in order. -/
def applyAll (sources : Sources) (tree : Option OutputTree) : Patch → Act Unit
  | [] => return
  | (op, path) :: rest => do
    apply sources tree op path
    applyAll sources tree rest

/-- The line that reports a finished build. -/
def completeLine (s : Stats) : LogLine :=
  ⟨.info, .analyzer,
    Text.concat ["Build complete: ", Text.ofNat s.operations, " operations, ",
      Text.ofNat s.filesParsed, " files parsed, ", Text.ofNat s.importCount, " imports in 0.00s"]⟩

/-- Applies a patch. -/
def runBuild (sources : Sources) (tree : Option OutputTree) (patch : Patch) : Act Stats := do
  discard setup
  update fun a => { a with syntaxErrors := 0, filesParsed := 0 }
  applyAll sources tree patch
  let all ← imports
  let a := (← get).analyzer
  let stats : Stats := ⟨patch.length, a.filesParsed, a.syntaxErrors, all.length⟩
  report [completeLine stats]
  return stats

/-- The patch that names of operations and paths spell, unless there are unknown names. -/
def readPatch (ops : List (Text × Text)) : Except Fault Patch :=
  match ops.filter fun (name, _) => (Operation.ofName? name).isNone with
  | [] => .ok (ops.filterMap fun (name, path) => (Operation.ofName? name).map fun op => (op, path))
  | unknown => .error (.unknownOperations (Text.sorted (unknown.map (·.1)).eraseDups))

/-- Applies a patch that is spelled out. -/
def runNamed (sources : Sources) (tree : Option OutputTree) (ops : List (Text × Text)) :
    Act Stats := do
  match readPatch ops with
  | .ok patch => runBuild sources tree patch
  | .error e => throw e

/-! ## Builds -/

/-- Forgets all tracked files and removes the output tree. -/
def reset : Act Unit := do
  update Analyzer.forget
  match (← get).analyzer.output with
  | some output => if (← get).disk.isDirectory output then onDisk fun d => d.removeTree output
  | none => return

/-- The output tree that the analyzer is to fill, if there is to be one.  The directories that
    were made on the way to its root stay when the root cannot be made. -/
def openTree : Act (Option OutputTree) := do
  let s ← get
  match s.analyzer.output with
  | none => return none
  | some output =>
    match OutputTree.make s.analyzer.input output true s.disk with
    | .ok (t, d) =>
      set { s with disk := d }
      return some t
    | .error e =>
      set { s with disk := s.disk.paved output }
      throw e

/-- Brings the records up to date with a snapshot of the input tree, which is remembered first.
    If the patch cannot be applied, everything is forgotten, so that the next build starts from
    scratch. -/
def catchUp (current : Snapshot) : Act Stats := do
  let a := (← get).analyzer
  let patch := a.previous.patch current
  report [⟨.debug, .treeDiff,
    Text.concat ["Calculated patch with ", Text.ofNat patch.length, " operations"]⟩]
  update fun a => { a with previous := current }
  let tree ← openTree
  tryCatch (runBuild .input tree patch) fun e => do
    report [⟨.warning, .analyzer,
      Text.concat ["Build failed; discarding tracked imports for ", a.package.name.display]⟩]
    reset
    throw e

/-- Brings the records up to date with the input tree. -/
def build : Act Stats := do
  let s ← get
  match Snapshot.take s.disk s.analyzer.input with
  | .ok current => catchUp current
  | .error e => throw e

end Act

end ImportScan
