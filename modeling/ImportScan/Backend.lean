import ImportScan.Cst.Extract
import ImportScan.Estree.Shape
import ImportScan.Log

/-! # Parser setup

    Which parser a package uses, with which options, and for the concrete syntax trees with
    which grammar.  The parsers themselves come from elsewhere.

    * `Parsers`        : what the parsers make of sources.
    * `Options.merge`  : the defaults with the package's options laid over them.
    * `Backend.setup`  : the parser of a package, if it can be set up.
    * `Backend.grammarFor` : the grammar that a file is parsed with.
    * `Backend.accept` : a tree, unless it is rejected.
    * `Backend.read`   : the imports of a source.
-/

namespace ImportScan

/-- The grammars for concrete syntax trees. -/
inductive Grammar where
  /-- JavaScript with JSX. -/
  | javascript
  /-- TypeScript. -/
  | typescript
  /-- TypeScript with JSX. -/
  | tsx
deriving Repr, DecidableEq

namespace Grammar

/-- The name of a grammar. -/
def name : Grammar → Text
  | .javascript => Text.ofString "javascript"
  | .typescript => Text.ofString "typescript"
  | .tsx => Text.ofString "tsx"

/-- The grammar of a name. -/
def ofName? (d : Datum) : Option Grammar :=
  [Grammar.javascript, .typescript, .tsx].find? fun g => d == .text g.name

/-- The grammar for files with an extension. -/
def ofExtension (ext : Text) : Grammar :=
  if ["ts", "mts", "cts"].any fun e => Text.ofString e == ext then .typescript
  else if ext == Text.ofString "tsx" then .tsx
  else .javascript

end Grammar

/-- Options of a parser, in the order in which they were first set. -/
abbrev Options := List (Datum × Datum)

namespace Options

/-- What every parser starts from. -/
def defaults : Options :=
  [(.str "dynamic_import", .bool true), (.str "decorators", .bool true)]

/-- The defaults with the options of a package laid over them. -/
def merge (p : Package) : Except Fault Options :=
  match p.options with
  | .map es => .ok (Datum.overlay defaults es)
  | d =>
    if d.truthy then .error (.wrongKind (Text.concat [d.kindName.quoted, " object is not iterable"]))
    else .ok defaults

/-- The value of an option, null when it is absent. -/
def get (o : Options) (name : String) : Datum := Datum.lookup o (.str name)

/-- Whether decorators are allowed. -/
def decorators (o : Options) : Bool := (o.get "decorators").truthy

/-- Whether dynamic imports are allowed. -/
def dynamicImport (o : Options) : Bool := (o.get "dynamic_import").truthy

/-- The options that the ESTree parser takes. -/
def estreeNames : List String := ["jsx", "tolerant", "range", "loc", "comment", "tokens"]

/-- The options that the ESTree parser is given. -/
def estree (o : Options) : Options := o.filter fun e => estreeNames.any fun n => e.1 == .str n

end Options

/-- What the parsers make of sources.  A parser for concrete syntax trees gives a tree for every
    source; the ESTree parser takes options, and rejects a source with words of its own. -/
class Parsers where
  /-- The tree that a grammar gives for a source. -/
  tree : Grammar → Text → Cst.Node
  /-- The program of a source, or why the source is rejected. -/
  program : Options → Text → Except Text Datum
  /-- Programs are shaped as the ESTree standard says. -/
  shaped {options : Options} {source : Text} {parsed : Datum} :
    program options source = .ok parsed → Estree.Shaped parsed

/-- A parser that is set up. -/
structure Backend where
  /-- Which parser it is. -/
  kind : ParserKind
  /-- Its options. -/
  options : Options
  /-- The grammars that were loaded so far, for concrete syntax trees. -/
  loaded : List Grammar := []
deriving Repr

namespace Backend

/-- The grammar that the options pin for every file, null when they pin none. -/
def pinned (b : Backend) : Datum := b.options.get "syntax"

/-- The grammar that a file is parsed with: the pinned one, else that of its extension. -/
def grammarFor (b : Backend) (path : Option Text) : Grammar :=
  match if b.pinned.truthy then Grammar.ofName? b.pinned else none with
  | some g => g
  | none =>
    match path with
    | some p => Grammar.ofExtension (Path.extension p).lower
    | none => .javascript

/-- The backend with a grammar loaded, and the line that reports the first time. -/
def load (b : Backend) (g : Grammar) : Backend × List LogLine :=
  if b.loaded.contains g then (b, [])
  else
    ({ b with loaded := b.loaded ++ [g] },
     [⟨.debug, .parsers, Text.concat ["Created tree-sitter ", g.name, " parser"]⟩])

/-- The grammar that has to be there at setup: the pinned one, or that of JavaScript. -/
def firstGrammar (options : Options) : Except Fault Grammar :=
  let pinned := options.get "syntax"
  if !pinned.truthy then .ok .javascript
  else if !pinned.isScalar then .error (.unhashable pinned)
  else
    match Grammar.ofName? pinned with
    | some g => .ok g
    | none => .error (.unknownGrammar pinned)

/-- Sets up the parser of a package; lines are reported also when that fails. -/
def setup (p : Package) : Except Fault Backend × List LogLine :=
  match Options.merge p with
  | .error e => (.error e, [])
  | .ok options =>
    match p.parser with
    | .esprima =>
      if p.version == .int 4 then
        (.ok ⟨.esprima, options, []⟩,
         [⟨.info, .parsers, Text.concat ["Using esprima 4 parser for ", p.name.display]⟩])
      else (.error (.unsupportedVersion p.version p.name), [])
    | .treeSitter =>
      let line : LogLine :=
        ⟨.info, .parsers, Text.concat ["Using tree-sitter parser for ", p.name.display]⟩
      match firstGrammar options with
      | .error e => (.error e, [line])
      | .ok g =>
        let (b, lines) := load ⟨.treeSitter, options, []⟩ g
        (.ok b, line :: lines)

/-- The concrete syntax tree that a grammar gave for a source, unless it is rejected. -/
def accept (b : Backend) (root : Cst.Node) : Except Fault Cst.Node :=
  match Cst.reject? b.options.decorators b.options.dynamicImport root with
  | some cause => .error (.source cause)
  | none => .ok root

/-- The imports of a concrete syntax tree that a grammar gave for a source, unless the tree is
    rejected. -/
def treeImports (b : Backend) (o : Origin) (bytes : Bytes) (root : Cst.Node) :
    Except Fault (List Import) := do
  Cst.extract o bytes (← b.accept root)

/-- The imports of a source, the backend with the grammar that was needed, and the lines
    reported on the way. -/
def read [Parsers] (b : Backend) (o : Origin) (source : Text) :
    Except Fault (List Import) × Backend × List LogLine :=
  match b.kind with
  | .esprima =>
    match Parsers.program b.options.estree source with
    | .ok program => (Estree.extract o program, b, [])
    | .error words => (.error (.source (.told words)), b, [])
  | .treeSitter =>
    match source.utf8? with
    | none => (.error .unencodable, b, [])
    | some bytes =>
      let g := b.grammarFor (some o.path)
      let (b, lines) := b.load g
      (b.treeImports o bytes (Parsers.tree g source), b, lines)

end Backend

end ImportScan
