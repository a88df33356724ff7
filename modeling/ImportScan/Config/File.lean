import ImportScan.Config.Basic
import ImportScan.Disk.Calls
import ImportScan.Log
import ImportScan.Platform

/-! # Configuration files

    A configuration file is looked for in the current directory and then in the home
    directory, unless a path is given.  A file that cannot be used counts as empty and is
    reported; a file that cannot be decoded, as far as its YAML is looked at, is not dealt with.

    * `Config.find?` : the file that counts.
    * `Config.load`  : the configuration with that file.
-/

namespace ImportScan

/-- Where a program runs. -/
structure Host where
  /-- The current directory. -/
  cwd : Text
  /-- The environment. -/
  env : Environment
deriving Repr

variable [Platform]

namespace Host

/-- The home directory: the one that the environment names, or else that of the account. -/
def home (h : Host) : Text :=
  match Path.trimSlashes ((h.env.get? (Text.ofString "HOME")).getD Platform.home) with
  | [] => [Path.slash]
  | p => p

end Host

namespace Config

/-- The names of configuration files. -/
def fileNames : List Text := [".import-analyzer.yaml", ".import-analyzer.yml"].map Text.ofString

/-- Where a configuration file may be, most important places first. -/
def candidates (h : Host) (explicit : Option Text) : List Text :=
  match explicit with
  | some (c :: rest) => [c :: rest]
  | _ => [h.cwd, h.home].flatMap fun dir => fileNames.map (Path.join dir)

/-- The configuration file that counts. -/
def find? (h : Host) (d : Disk) (explicit : Option Text) : Option Text :=
  (candidates h explicit).find? fun p => d.isFile (Path.join h.cwd p)

/-- The line that reports a file that cannot be used. -/
def ignoredLine (path reason : Text) : LogLine :=
  ⟨.warning, .config, Text.concat ["Ignoring config file ", path, ": ", reason]⟩

/-- The entries of a file that holds some YAML, and the line that reports it if it cannot be
    used.  The words about malformed YAML are those of the library. -/
def readYaml (path : Text) :
    Except Yaml.Failure Datum → Except Fault (List (Datum × Datum)) × List LogLine
  | .ok (.map es) => (.ok es, [])
  | .ok _ => (.ok [], [ignoredLine path (Text.ofString "not a mapping")])
  | .error .malformed => (.ok [], [ignoredLine path (Text.ofString "<yaml error>")])
  | .error (.fault e) => (.error e, [])

/-- The entries of a configuration file, and the line that reports it if it cannot be used.  The
    YAML library reads the file as far as it needs. -/
def readFile (h : Host) (d : Disk) (path : Text) :
    Except Fault (List (Datum × Datum)) × List LogLine :=
  match d.read (Path.join h.cwd path) with
  | .error e => (.ok [], [ignoredLine path e.message])
  | .ok content =>
    match Yaml.told? (TextFile.portions content) with
    | some told => readYaml path told
    | none => (.error .undecodable, [])

/-- The configuration with the file that counts, and the lines reported on the way. -/
def load (h : Host) (d : Disk) (explicit : Option Text) : Except Fault Config × List LogLine :=
  match find? h d explicit with
  | none => (make h.env [], [])
  | some path =>
    match readFile h d path with
    | (.ok es, lines) => (make h.env es, lines)
    | (.error e, lines) => (.error e, lines)

end Config

end ImportScan
