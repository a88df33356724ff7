import ImportScan.CommandLine.Arguments

/-! # The explanation of the usage -/

namespace ImportScan.CommandLine

/-- Lines with a line end behind each. -/
def textOfLines (lines : List String) : Text :=
  (lines.map fun l => Text.ofString l ++ [CodePoint.ofChar '\n']).flatten

/-- The usage of the program. -/
def programHelp : Text := textOfLines
  ["usage: import-analyzer [-h] COMMAND ...",
   "",
   "Incremental discovery of module imports in JavaScript source trees",
   "",
   "positional arguments:",
   "  COMMAND",
   "    scan      Analyze a tree once and print its imports",
   "    watch     Rebuild whenever the tree changes",
   "",
   "options:",
   "  -h, --help  show this help message and exit"]

/-- The usage of a command, up to the options that only it has. -/
def commonHelp : List String :=
  ["",
   "positional arguments:",
   "  root                  Directory to analyze",
   "",
   "options:",
   "  -h, --help            show this help message and exit",
   "  --config CONFIG       Path to a .import-analyzer.yaml file",
   "  --parser \x7btree-sitter,esprima\x7d",
   "                        Parser backend (default: tree-sitter)",
   "  --ext EXT             Comma-separated file extensions to parse, e.g. js,ts",
   "  --tree-type TREE_TYPE",
   "                        Tree type tag"]

/-- The usage of a command. -/
def commandHelp : Command → Text
  | .scan => textOfLines (
    ["usage: import-analyzer scan [-h] [--config CONFIG]",
     "                            [--parser \x7btree-sitter,esprima\x7d] [--ext EXT]",
     "                            [--tree-type TREE_TYPE] [--json]",
     "                            [root]"]
      ++ commonHelp ++ ["  --json                Print imports as JSON"])
  | .watch => textOfLines (
    ["usage: import-analyzer watch [-h] [--config CONFIG]",
     "                             [--parser \x7btree-sitter,esprima\x7d] [--ext EXT]",
     "                             [--tree-type TREE_TYPE] [--output OUTPUT]",
     "                             [root]"]
      ++ commonHelp ++ ["  --output OUTPUT       Mirror the input tree into DIR"])

/-- The usage that was asked for. -/
def helpText : Option Command → Text
  | none => programHelp
  | some c => commandHelp c

end ImportScan.CommandLine
