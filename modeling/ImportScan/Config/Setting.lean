import ImportScan.Package

/-! # Settings

    The settings of the program: where each is found, what it is when nobody sets it, and how
    a raw value becomes its value.

    * `Setting.cast` : the value that a raw value stands for.
-/

namespace ImportScan

/-- A setting. -/
inductive Setting where
  /-- The name of the package. -/
  | name
  /-- The parser. -/
  | parser
  /-- The extensions of the files that are parsed. -/
  | extensions
  /-- The version that the ESTree parser should have. -/
  | version
  /-- The tree type. -/
  | treeType
  /-- The directory of the output tree. -/
  | outputDir
  /-- The quiet period before a build, in seconds. -/
  | debounce
  /-- The least level of log lines that are shown. -/
  | logLevel
deriving Repr, DecidableEq

namespace Setting

/-- All settings, in the order in which they are resolved. -/
def all : List Setting :=
  [.name, .parser, .extensions, .version, .treeType, .outputDir, .debounce, .logLevel]

/-- The name of a setting in capitals. -/
def capitals : Setting → Text
  | .name => Text.ofString "NAME"
  | .parser => Text.ofString "PARSER"
  | .extensions => Text.ofString "EXTENSIONS"
  | .version => Text.ofString "ESPRIMA_VERSION"
  | .treeType => Text.ofString "TREE_TYPE"
  | .outputDir => Text.ofString "OUTPUT_DIR"
  | .debounce => Text.ofString "DEBOUNCE_SECONDS"
  | .logLevel => Text.ofString "LOG_LEVEL"

/-- The key of a setting in a configuration file. -/
def key : Setting → Text
  | .name => Text.ofString "name"
  | .parser => Text.ofString "parser"
  | .extensions => Text.ofString "extensions"
  | .version => Text.ofString "esprima_version"
  | .treeType => Text.ofString "tree_type"
  | .outputDir => Text.ofString "output_dir"
  | .debounce => Text.ofString "debounce_seconds"
  | .logLevel => Text.ofString "log_level"

/-- The environment variable of a setting. -/
def variableName (s : Setting) : Text :=
  Text.ofString "IMPORT_ANALYZER_" ++
    match s with
    | .debounce => Text.ofString "DEBOUNCE"
    | s => s.capitals

/-- What a setting is when nobody sets it. -/
def default : Setting → Datum
  | .name => .str ""
  | .parser => .text ParserKind.treeSitter.name
  | .extensions => .list (defaultExtensions.map .text)
  | .version => .int 4
  | .treeType => .null
  | .outputDir => .null
  | .debounce => .real (Binary64.ofRatio false 1 2)
  | .logLevel => .str "WARNING"

/-! ## Casts -/

/-- The extensions in some texts: white space and leading dots do not count, and blank texts
    are left out. -/
def trimExtensions (ts : List Text) : List Text :=
  (ts.filter fun t => !t.strip.isEmpty).map fun t => t.strip.trimStart (·.is '.')

/-- The datum as a text. -/
def toText (d : Datum) : Except Fault Text :=
  if d.isOverlong then .error .unspelledInteger else .ok d.display

/-- A list of extensions, or a text in which commas separate them. -/
def splitExtensions (d : Datum) : Except Fault Datum :=
  match d with
  | .text t => .ok (.list ((trimExtensions (t.splitOn (CodePoint.ofChar ','))).map .text))
  | d =>
    match d.items? with
    | some items => (items.mapM toText).map fun ts => .list ((trimExtensions ts).map .text)
    | none => .error (.notIterable d)

/-- The fault of a datum that is neither a number nor a text. -/
def notNumeric (function : String) (d : Datum) : Fault :=
  .wrongKind (Text.concat [function, " argument must be a string or a number, not ",
    d.kindName.quoted])

/-- An integer, where reals are cut off at the point. -/
def toInt (d : Datum) : Except Fault Datum :=
  match d with
  | .int n => .ok (.int n)
  | .bool b => .ok (.int (if b then 1 else 0))
  | .real .nan => .error .nanInteger
  | .real (.inf _) => .error .infiniteInteger
  | .real x => .ok (.int (x.truncate?.getD 0))
  | .text t =>
    match Number.readInt? t with
    | some n => .ok (.int n)
    | none => .error (.unreadInteger t)
  | d => .error (notNumeric "int()" d)

/-- A real number. -/
def toReal (d : Datum) : Except Fault Datum :=
  match d with
  | .real x => .ok (.real x)
  | .bool b => .ok (.real (Binary64.ofInt (if b then 1 else 0)))
  | .int n =>
    match Binary64.ofInt n with
    | .inf _ => .error .hugeInteger
    | x => .ok (.real x)
  | .text t =>
    match Number.readReal? t with
    | some x => .ok (.real x)
    | none => .error (.notReal t)
  | d => .error (notNumeric "float()" d)

/-- The value that a raw value stands for. -/
def cast (s : Setting) (raw : Datum) : Except Fault Datum :=
  match s with
  | .extensions => splitExtensions raw
  | .version => toInt raw
  | .debounce => toReal raw
  | .logLevel => (toText raw).map fun t => .text t.upper
  | _ => (toText raw).map .text

end Setting

end ImportScan
