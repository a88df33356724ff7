import ImportScan.CommandLine.Help
import ImportScan.Config.File
import ImportScan.Script.Parsers
import ImportScan.Watch.Observer
import ImportScan.Yaml.Platform

/-! # Running a command

    What a command prints, how it ends, and what it leaves on the disk.

    * `run` : the outcome of the program for its arguments.
-/

namespace ImportScan.CommandLine

variable [Parsers] [Platform]

/-- How a run of the program ends. -/
inductive Exit where
  /-- With a status. -/
  | status (n : Nat)
  /-- With a fault that nobody has dealt with. -/
  | fault (cause : Fault)
deriving Repr

/-- What a run of the program leaves behind. -/
structure Outcome where
  /-- How it ended. -/
  exit : Exit
  /-- What it printed. -/
  out : Text := []
  /-- What it reported. -/
  err : Text := []
  /-- The disk at its end. -/
  disk : Disk
deriving Repr

/-- A line with its end. -/
def line (parts : List Text) : Text := Text.concat parts ++ [CodePoint.ofChar '\n']

/-- Names in capitals that stand for something else than a level where levels are looked up,
    and why that is refused. -/
def refusedLevel? (level : Text) : Option Fault :=
  if level == Text.ofString "BASIC_FORMAT" then
    some (.noSuchMoment (Text.concat
      ["Unknown level: ", (Text.ofString "%(levelname)s:%(name)s:%(message)s").quoted]))
  else if level == Text.ofString "_STYLES" then
    some (.wrongKind (Text.concat
      ["Level not an integer or a valid string: ",
       "\x7b'%': (<class 'logging.PercentStyle'>, '%(levelname)s:%(name)s:%(message)s'), ",
       "'\x7b': (<class 'logging.StrFormatStyle'>, ",
       "'\x7blevelname\x7d:\x7bname\x7d:\x7bmessage\x7d'), ",
       "'$': (<class 'logging.StringTemplateStyle'>, ",
       "'$\x7blevelname\x7d:$\x7bname\x7d:$\x7bmessage\x7d')\x7d"]))
  else none

/-- The rank below which log lines are not shown, by the name of a level; other names count as
    that of warnings, unless they are refused. -/
def threshold (level : Text) : Except Fault Nat :=
  let ranks : List (String × Nat) :=
    [("NOTSET", 0), ("DEBUG", 10), ("INFO", 20), ("WARNING", 30), ("WARN", 30), ("ERROR", 40),
     ("CRITICAL", 50), ("FATAL", 50)]
  match refusedLevel? level with
  | some e => .error e
  | none => .ok (((ranks.find? fun r => Text.ofString r.1 == level).map (·.2)).getD Level.warning.rank)

/-- Log lines as they are shown before the level is known: the messages of warnings. -/
def earlyLog (lines : List LogLine) : Text :=
  (lines.filter fun l => Level.warning.rank ≤ l.level.rank).flatMap fun l => line [l.message]

/-- Log lines as they are shown. -/
def shownLog (least : Nat) (lines : List LogLine) : Text :=
  (lines.filter fun l => least ≤ l.level.rank).flatMap fun l => line [l.text (Text.ofString "  ")]

/-- The configuration that the arguments ask for. -/
def configure (h : Host) (d : Disk) (a : Arguments) : Except Fault Config × List LogLine :=
  match Config.load h d a.config with
  | (.error e, lines) => (.error e, lines)
  | (.ok c, lines) =>
    let given (t : Option Text) : Datum := (t.map Datum.text).getD .null
    match c.override [(Text.ofString "parser", given a.parser), (Text.ofString "extensions", given a.ext),
        (Text.ofString "tree_type", given a.treeType), (Text.ofString "output_dir", given a.output)] with
    | (c, none) => (.ok c, lines)
    | (_, some e) => (.error e, lines)

/-- Whether a fault means that the configuration is at fault. -/
def isInvalid : Fault → Bool
  | .unknownParser .. => true
  | .unknownTreeType _ => true
  | .outputInside .. => true
  | .badPair .. => true
  | _ => false

/-- The analyzer that a configuration asks for. -/
def analyzerOf (h : Host) (c : Config) (root : Text) : Except Fault Analyzer := do
  let output := match c.get .outputDir with
    | .text t => some t
    | _ => none
  Analyzer.make h.cwd (← c.package h.cwd root) (some root) output

/-- The summary of a scan, without the end of its last line. -/
def summary (s : Stats) : Text :=
  line [] ++ line ["Scan complete:"]
    ++ line ["  Files parsed:  ", Text.ofNat s.filesParsed]
    ++ line ["  Syntax errors: ", Text.ofNat s.syntaxErrors]
    ++ line ["  Imports:       ", Text.ofNat s.importCount]
    ++ Text.ofString "  Time:          0.00s"

/-- What a scan prints after its build, call by call. -/
def scanCalls (s : Session) (stats : Stats) (json : Bool) : List (Except Fault Text) :=
  Import.calls (s.analyzer.view.get s.analyzer.store) json
    ++ if json then [] else [.ok (summary stats)]

/-- Why a call prints nothing, if it does not: its text cannot be made, or a code point in it
    cannot be printed. -/
def refusal? : Except Fault Text → Option Fault
  | .error cause => some cause
  | .ok t => if t.all Platform.prints then none else some .unencodable

/-- What some calls print, up to the first that is refused, and why that one is. -/
def printAll : List (Except Fault Text) → Text × Option Fault
  | [] => ([], none)
  | call :: rest =>
    match refusal? call with
    | some cause => ([], some cause)
    | none =>
      let (out, refused) := printAll rest
      (Import.shownCall call ++ out, refused)

/-- How a command ends whose last calls print something. -/
def afterPrinting : Option Fault → Exit
  | none => .status 0
  | some cause => .fault cause

/-- Watches a tree after its first build. -/
def watched (h : Host) (c : Config) (s : Session) (stats : Stats) (writes : Nat)
    (signals : List Signal) : Exit × Text × Session :=
  let quiet := match c.get .debounce with
    | .real x => x
    | _ => .zero
  let (ending, _, w) := (Watch.ofSession s quiet writes).start h.cwd signals
  let out :=
    line ["Initial build: ", Text.ofNat stats.importCount, " imports in ",
        Text.ofNat stats.filesParsed, " files"]
      ++ line ["Watching for changes... (Ctrl+C to stop)"]
      ++ w.builds.flatMap fun b =>
        line ["Rebuilt: ", Text.ofNat b.operations, " changes, ", Text.ofNat b.importCount, " imports"]
  match ending with
  | .finished => (.status 0, out, w.session)
  | .interrupted => (.status 0, out ++ line [] ++ line ["Watcher stopped."], w.session)
  | .failed cause => (.fault cause, out, w.session)

/-- Carries out a command with an analyzer. -/
def work (h : Host) (d : Disk) (c : Config) (a : Arguments) (analyzer : Analyzer) (writes : Nat)
    (signals : List Signal) (least : Nat) (err : Text) : Outcome :=
  match Act.build { analyzer, disk := d } with
  | (.error e, s) =>
    ⟨.status 1, [], err ++ shownLog least s.log ++ line ["Build failed: ", e.message], s.disk⟩
  | (.ok stats, s) =>
    match a.command with
    | .scan =>
      let (out, refused) := printAll (scanCalls s stats a.json)
      ⟨afterPrinting refused, out, err ++ shownLog least s.log, s.disk⟩
    | .watch =>
      let (exit, out, s) := watched h c s stats writes signals
      ⟨exit, out, err ++ shownLog least s.log, s.disk⟩

/-- Carries out a command, with the rank below which log lines are not shown. -/
def perform (h : Host) (d : Disk) (a : Arguments) (writes : Nat) (signals : List Signal)
    (least : Nat) (early : Text) : Outcome :=
  let (config, lines) := configure h d a
  let err := early ++ shownLog least lines
  match config with
  | .error e => { exit := .fault e, err, disk := d }
  | .ok c =>
    let root := Path.absolute h.cwd a.root
    if !d.isDirectory root then
      { exit := .status 1, err := err ++ line ["Not a directory: ", root], disk := d }
    else
      match analyzerOf h c root with
      | .error e =>
        if isInvalid e then
          { exit := .status 1, err := err ++ line ["Invalid configuration: ", e.message], disk := d }
        else { exit := .fault e, err, disk := d }
      | .ok analyzer => work h d c a analyzer writes signals least err

/-- The outcome of the program for its arguments.  While a tree is watched, signals come in;
    `writes` counts the writes to the disk before. -/
def run (h : Host) (d : Disk) (writes : Nat) (signals : List Signal) (argv : List Text) : Outcome :=
  match Arguments.parse argv with
  | .error (.help c) => { exit := .status 0, out := helpText c, disk := d }
  | .error (.misuse c message) =>
    { exit := .status 2, err := line [Command.program c, ": error: ", message], disk := d }
  | .ok a =>
    match Config.load h d a.config with
    | (.error e, lines) => { exit := .fault e, err := earlyLog lines, disk := d }
    | (.ok c, lines) =>
      match threshold (c.get .logLevel).display with
      | .error e => { exit := .fault e, err := earlyLog lines, disk := d }
      | .ok least => perform h d a writes signals least (earlyLog lines)

end ImportScan.CommandLine
