import ImportScan.Datum.Basic
import ImportScan.Text.Encoding

/-! # Faults

    Everything that can go wrong, as causes.  `Fault.message` is the one place that words
    them.
-/

namespace ImportScan

/-- Why a source text was rejected. -/
inductive SyntaxFault where
  /-- The first unexpected place, counted from zero. -/
  | unexpected (row column : Nat)
  /-- A tree that claims an error but shows none. -/
  | unlocated
  /-- A decorator in a row, counted from zero, although decorators are switched off. -/
  | decorator (row : Nat)
  /-- A dynamic import in a row, counted from zero, although those are switched off. -/
  | dynamicImport (row : Nat)
  /-- A source that the ESTree parser rejects, in its words. -/
  | told (words : Text)
deriving Repr, DecidableEq

/-- Why the file system refused a call. -/
inductive DiskFault where
  /-- A name on the way does not exist. -/
  | missing
  /-- The name is taken. -/
  | taken
  /-- A directory where a file is needed. -/
  | directory
  /-- Something else where a directory is needed. -/
  | notDirectory
  /-- A directory that still has entries. -/
  | notEmpty
  /-- A link that leads back to itself. -/
  | loop
  /-- A tree to be removed that is reached through a link. -/
  | linkedTree
  /-- A name with a code point that file names cannot hold. -/
  | unencodable
  /-- A name with a null character. -/
  | null
deriving Repr, DecidableEq

/-- The reason in words, with its number. -/
def DiskFault.reason : DiskFault → Text
  | .missing => Text.ofString "[Errno 2] No such file or directory"
  | .taken => Text.ofString "[Errno 17] File exists"
  | .directory => Text.ofString "[Errno 21] Is a directory"
  | .notDirectory => Text.ofString "[Errno 20] Not a directory"
  | .notEmpty => Text.ofString "[Errno 39] Directory not empty"
  | .loop => Text.ofString "[Errno 40] Too many levels of symbolic links"
  | .linkedTree => Text.ofString "Cannot call rmtree on a symbolic link"
  | .unencodable => Text.ofString "surrogates not allowed"
  | .null => Text.ofString "embedded null byte"

/-- Whether the file system itself refused, and not the name that it was given. -/
def DiskFault.isRefusal : DiskFault → Bool
  | .unencodable => false
  | .null => false
  | _ => true

/-- Whether the reason is told with the paths of the call. -/
def DiskFault.namesPaths : DiskFault → Bool
  | .linkedTree => false
  | c => c.isRefusal

/-- Why an operation failed. -/
inductive Fault where
  /-- An escape whose number is beyond the last code point. -/
  | codePointRange
  /-- An escape whose number is too large to be looked at. -/
  | codePointOverflow
  /-- A datum of the wrong kind; the text says what was wrong. -/
  | wrongKind (what : Text)
  /-- An operation that the kind of a datum does not have. -/
  | lacking (what : Text)
  /-- A key that is not there. -/
  | missingKey (key : Datum)
  /-- A text that does not spell an integer to a base. -/
  | notInteger (base : Nat) (t : Text)
  /-- A text without the digits of a number. -/
  | emptyNumber
  /-- An integer beyond the largest real number. -/
  | hugeInteger
  /-- A text that does not spell a real number. -/
  | notReal (t : Text)
  /-- A real that is not a number, where an integer is needed. -/
  | nanInteger
  /-- An infinity, where an integer is needed. -/
  | infiniteInteger
  /-- A text that no UTF-8 sequence stands for. -/
  | unencodable
  /-- Octets that stand for no text. -/
  | undecodable
  /-- A parser that the library does not know. -/
  | unknownParser (parser package : Datum)
  /-- A tree type that the library does not know. -/
  | unknownTreeType (treeType : Datum)
  /-- A kind of syntax tree that the library does not know. -/
  | unknownBackend (kind : Datum)
  /-- A grammar that the library does not know. -/
  | unknownGrammar (grammar : Datum)
  /-- A version of the ESTree parser that cannot be set up. -/
  | unsupportedVersion (version package : Datum)
  /-- A template with a wrong number of expressions for its text segments. -/
  | unbalancedTemplate (path : Text) (quasis hints : Nat)
  /-- An import call in a file whose argument is no literal. -/
  | argument (path : Text)
  /-- A source text that was rejected. -/
  | source (cause : SyntaxFault)
  /-- An option, counted from zero, that is not a pair but a number of items. -/
  | badPair (index length : Nat)
  /-- A setting that does not exist. -/
  | unknownSetting (key : Text)
  /-- A patch with operations that do not exist. -/
  | unknownOperations (names : List Text)
  /-- An output directory inside the input directory. -/
  | outputInside (output input : Text)
  /-- A call that the file system refused, with the path and the second path of the call. -/
  | disk (cause : DiskFault) (path : Text) (second : Option Text)
  /-- A file that would be copied onto itself. -/
  | sameFile (source target : Text)
  /-- A date or time that the calendar does not have, a level that log lines do not have, or a
      number with too many digits; the text says what was wrong. -/
  | noSuchMoment (what : Text)
deriving Repr

namespace SyntaxFault

/-- The line, counted from one, in front of a message. -/
def atLine (row : Nat) (message : String) : Text :=
  Text.concat ["Line ", Text.ofNat (row + 1), ": ", message]

/-- The cause in words. -/
def message : SyntaxFault → Text
  | .unexpected row column =>
    atLine row "Unexpected token at column " ++ Text.ofNat (column + 1)
  | .unlocated => Text.ofString "Unexpected token"
  | .decorator row => atLine row "Decorators are not enabled"
  | .dynamicImport row => atLine row "Dynamic import is not enabled"
  | .told words => words

end SyntaxFault

namespace Fault

/-- Names of a fixed set, as a message lists them. -/
def choices (opening closing : String) (names : List String) : Text :=
  Text.concat
    [opening, Text.join (Text.ofString ", ") (names.map fun n => (Text.ofString n).quoted), closing]

/-- A datum that cannot be a key or the member of a set. -/
def unhashable (d : Datum) : Fault := .wrongKind (Text.concat ["unhashable type: ", d.kindName.quoted])

/-- A datum that has no items to run through. -/
def notIterable (d : Datum) : Fault :=
  .wrongKind (Text.concat [d.kindName.quoted, " object is not iterable"])

/-- A text that is not read as an integer, since it spells none or has too many digits. -/
def unreadInteger (t : Text) : Fault :=
  match Number.overlong? t with
  | some size =>
    .noSuchMoment (Text.concat ["Exceeds the limit (", Text.ofNat Number.maxDigits,
      " digits) for integer string conversion: value has ", Text.ofNat size,
      " digits; use sys.set_int_max_str_digits() to increase the limit"])
  | none => .notInteger 10 t

/-- An integer that is not spelled, since it has too many digits. -/
def unspelledInteger : Fault :=
  .noSuchMoment (Text.concat ["Exceeds the limit (", Text.ofNat Number.maxDigits,
    " digits) for integer string conversion; use sys.set_int_max_str_digits() to increase the limit"])

/-- The cause in words. -/
def message : Fault → Text
  | .codePointRange => Text.ofString "chr() arg not in range(0x110000)"
  | .codePointOverflow => Text.ofString "Python int too large to convert to C int"
  | .wrongKind what => what
  | .lacking what => what
  | .missingKey key => key.shown
  | .notInteger base t =>
    Text.concat ["invalid literal for int() with base ", Text.ofNat base, ": ", t.quoted.take 200]
  | .emptyNumber => Text.ofString "string index out of range"
  | .hugeInteger => Text.ofString "int too large to convert to float"
  | .notReal t => Text.concat ["could not convert string to float: ", t.quoted]
  | .nanInteger => Text.ofString "cannot convert float NaN to integer"
  | .infiniteInteger => Text.ofString "cannot convert float infinity to integer"
  | .unencodable => Text.ofString "surrogates not allowed"
  | .undecodable => Text.ofString "invalid start byte"
  | .unknownParser parser package =>
    Text.concat ["Unknown parser ", parser.shown, " for package ", package.display,
      "; expected one of: ", choices "[" "]" ["esprima", "tree-sitter"]]
  | .unknownTreeType t =>
    Text.concat ["Unknown tree type ", t.shown, "; expected one of: ",
      choices "[" "]"
        ["addon", "addon-templates", "addon-test-support", "app", "styles", "templates", "test"]]
  | .unknownBackend kind => Text.concat ["Unknown parser backend: ", kind.shown]
  | .unknownGrammar g =>
    Text.concat ["Unknown tree-sitter syntax ", g.shown, "; expected one of: ",
      choices "(" ")" ["javascript", "typescript", "tsx"]]
  | .unsupportedVersion version package =>
    Text.concat ["don't know how to setup a parser for esprima version ", version.display,
      " (used by ", package.display, ")"]
  | .unbalancedTemplate path quasis hints =>
    Text.concat ["Template import in ", path, " has ", Text.ofNat quasis, " quasis for ",
      Text.ofNat hints, " expressions"]
  | .argument path =>
    Text.concat ["import() only accepts string or template-string literals (in ", path, ")"]
  | .source cause => cause.message
  | .badPair index length =>
    Text.concat ["dictionary update sequence element #", Text.ofNat index, " has length ",
      Text.ofNat length, "; 2 is required"]
  | .unknownSetting key => Text.concat ["Unknown config setting: ", key]
  | .unknownOperations names =>
    Text.concat ["Unknown patch operation(s): ", Text.join (Text.ofString ", ") names]
  | .outputInside output input =>
    Text.concat ["Output directory ", output, " must not be inside the input directory ", input]
  | .disk cause path second =>
    if cause.namesPaths then
      Text.concat [cause.reason, ": ", path.quoted,
        (second.map fun s => Text.concat [" -> ", s.quoted]).getD []]
    else cause.reason
  | .sameFile a b =>
    Text.concat [a.quoted, " and ", b.quoted, " are the same file"]
  | .noSuchMoment what => what

end Fault

end ImportScan
