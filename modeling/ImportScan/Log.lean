import ImportScan.Text.Basic

/-! # Log lines

    What the parts of the program report while they work.
-/

namespace ImportScan

/-- How much a log line matters. -/
inductive Level where
  /-- Details of the work. -/
  | debug
  /-- Progress. -/
  | info
  /-- Something that was ignored or has failed. -/
  | warning
deriving Repr, DecidableEq

namespace Level

/-- The name of a level. -/
def name : Level → Text
  | .debug => Text.ofString "DEBUG"
  | .info => Text.ofString "INFO"
  | .warning => Text.ofString "WARNING"

/-- The rank of a level among the numbers that thresholds are. -/
def rank : Level → Nat
  | .debug => 10
  | .info => 20
  | .warning => 30

end Level

/-- The part of the program that a log line comes from. -/
inductive Channel where
  /-- Parser setup. -/
  | parsers
  /-- The import store and its view. -/
  | store
  /-- Snapshots and patches. -/
  | treeDiff
  /-- The output tree. -/
  | output
  /-- Builds. -/
  | analyzer
  /-- Settings. -/
  | config
  /-- Watching. -/
  | watcher
deriving Repr, DecidableEq

/-- The name of a channel. -/
def Channel.name : Channel → Text
  | .parsers => Text.ofString "import_analyzer.parsers"
  | .store => Text.ofString "import_analyzer.store"
  | .treeDiff => Text.ofString "import_analyzer.tree_diff"
  | .output => Text.ofString "import_analyzer.mirror"
  | .analyzer => Text.ofString "import_analyzer.analyzer"
  | .config => Text.ofString "import_analyzer.config"
  | .watcher => Text.ofString "import_analyzer.watcher"

/-- A log line. -/
structure LogLine where
  /-- How much it matters. -/
  level : Level
  /-- Where it comes from. -/
  channel : Channel
  /-- What it says. -/
  message : Text
deriving Repr

/-- The line with its level and channel in front, and a gap between the three. -/
def LogLine.text (gap : Text) (l : LogLine) : Text :=
  Text.concat [l.level.name, gap, l.channel.name, gap, l.message]

end ImportScan
