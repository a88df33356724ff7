import ImportScan.Fault
import ImportScan.Path
import ImportScan.Text.Case

/-! # Packages

    A package owns the source tree that is scanned: its name and root identify it, its
    extensions say which files are parsed, and its parser settings say how.

    * `Package.Settings` : what a configuration or a caller asks for, unchecked.
    * `Package.ofSettings` : the package, if parser, tree type and extensions are usable.
    * `Package.same` : packages are the same when name and resolved root agree.
    * `Package.tracks` : whether a path has one of the package's extensions.
-/

namespace ImportScan

/-- The two parsers. -/
inductive ParserKind where
  /-- Concrete syntax trees, for JavaScript, TypeScript and TSX. -/
  | treeSitter
  /-- ESTree programs, for JavaScript modules. -/
  | esprima
deriving Repr, DecidableEq

/-- The name of a parser. -/
def ParserKind.name : ParserKind → Text
  | .treeSitter => Text.ofString "tree-sitter"
  | .esprima => Text.ofString "esprima"

/-- The parser of a name. -/
def ParserKind.ofName? (d : Datum) : Option ParserKind :=
  if d == .text ParserKind.treeSitter.name then some .treeSitter
  else if d == .text ParserKind.esprima.name then some .esprima
  else none

/-- The tree types a package may declare. -/
def treeTypes : List Text :=
  ["app", "addon", "addon-templates", "addon-test-support", "styles", "templates", "test"].map
    Text.ofString

/-- The extensions of a package that names none. -/
def defaultExtensions : List Text := ["js", "mjs", "cjs", "jsx", "ts", "tsx"].map Text.ofString

/-- A package that is analysed. -/
structure Package where
  /-- The name, shown in messages and stamped on every record. -/
  name : Datum
  /-- The root directory, resolved. -/
  root : Text
  /-- Extensions of the files that are parsed: lower case, no leading dot. -/
  extensions : List Text
  /-- The parser to use. -/
  parser : ParserKind
  /-- Options for the parser, laid over its defaults. -/
  options : Datum
  /-- The version that the ESTree parser should have. -/
  version : Datum
  /-- The tree type stamped on every record. -/
  treeType : Option Text
deriving Repr

namespace Package

/-- What is asked for when a package is made, unchecked. -/
structure Settings where
  /-- The name. -/
  name : Datum
  /-- The root directory, possibly relative. -/
  root : Text := Text.ofString "."
  /-- The extensions. -/
  extensions : Datum := .list (defaultExtensions.map .text)
  /-- The parser. -/
  parser : Datum := .text ParserKind.treeSitter.name
  /-- The options of the parser. -/
  options : Datum := .map []
  /-- The version of the ESTree parser. -/
  version : Datum := .int 4
  /-- The tree type. -/
  treeType : Datum := .null
deriving Repr

/-- The parser that was asked for. -/
def checkParser (s : Settings) : Except Fault ParserKind :=
  if !s.parser.isScalar then .error (.unhashable s.parser)
  else
    match ParserKind.ofName? s.parser with
    | some p => .ok p
    | none => .error (.unknownParser s.parser s.name)

/-- The tree type that was asked for. -/
def checkTreeType (d : Datum) : Except Fault (Option Text) :=
  match d with
  | .null => .ok none
  | .text t => if treeTypes.contains t then .ok (some t) else .error (.unknownTreeType d)
  | d => if d.isScalar then .error (.unknownTreeType d) else .error (.unhashable d)

/-- An extension without leading dots, in lower case. -/
def normalExtension (t : Text) : Text := (t.trimStart (·.is '.')).lower

/-- The extensions that were asked for. -/
def checkExtensions (d : Datum) : Except Fault (List Text) :=
  match d.items? with
  | none => .error (.notIterable d)
  | some items =>
    items.mapM fun item =>
      match item with
      | .text t => .ok (normalExtension t)
      | other =>
        .error (.lacking (Text.concat
          [other.kindName.quoted, " object has no attribute ", (Text.ofString "lstrip").quoted]))

/-- The package that was asked for; its root is resolved from the current directory. -/
def ofSettings (cwd : Text) (s : Settings) : Except Fault Package := do
  let parser ← checkParser s
  let treeType ← checkTreeType s.treeType
  let extensions ← checkExtensions s.extensions
  return { name := s.name, root := Path.absolute cwd s.root, extensions, parser
           options := s.options, version := s.version, treeType }

/-- What identifies a package: its name and its resolved root. -/
def identity (p : Package) : Datum × Text := (p.name, p.root)

/-- Packages are the same when their identities agree. -/
def same (p q : Package) : Bool := p.name == q.name && p.root == q.root

instance : BEq Package := ⟨same⟩

/-- Whether a path has one of the package's extensions. -/
def tracks (p : Package) (path : Text) : Bool :=
  p.extensions.contains (Path.extension path).lower

/-- The package as a message shows it. -/
def shown (p : Package) : Text :=
  Text.concat
    ["PackageDescriptor(name=", p.name.shown, ", parser=", p.parser.name.quoted, ")"]

end Package

end ImportScan
