import ImportScan.Datum.Basic

/-! # Arguments of the command line

    A command, a directory, and options.  An option may be shortened as long as it stays
    unique, its value may follow behind an equals sign or as the next argument, and the last
    value counts.  Behind a double dash every argument is taken as it is.

    * `Arguments.parse` : what the arguments ask for, or why they are refused.
-/

namespace ImportScan.CommandLine

/-- What the program can do. -/
inductive Command where
  /-- Analyze a tree once. -/
  | scan
  /-- Keep analyzing a tree as it changes. -/
  | watch
deriving Repr, DecidableEq

/-- An option. -/
inductive Flag where
  /-- Explain the usage. -/
  | help
  /-- Use a configuration file. -/
  | config
  /-- Use a parser. -/
  | parser
  /-- Parse files with some extensions. -/
  | ext
  /-- Stamp the records with a tree type. -/
  | treeType
  /-- Print JSON. -/
  | json
  /-- Fill an output tree. -/
  | output
deriving Repr, DecidableEq

/-- What the arguments ask for. -/
structure Arguments where
  /-- The command. -/
  command : Command
  /-- The directory. -/
  root : Text := Text.ofString "."
  /-- The configuration file. -/
  config : Option Text := none
  /-- The parser. -/
  parser : Option Text := none
  /-- The extensions. -/
  ext : Option Text := none
  /-- The tree type. -/
  treeType : Option Text := none
  /-- The directory of the output tree. -/
  output : Option Text := none
  /-- Whether to print JSON. -/
  json : Bool := false
deriving Repr

/-- Why arguments are not carried out. -/
inductive Refusal where
  /-- The usage was asked for, of the program or of a command. -/
  | help (command : Option Command)
  /-- The arguments make no sense. -/
  | misuse (command : Option Command) (message : Text)
deriving Repr

namespace Command

/-- The name of a command. -/
def name : Command → Text
  | .scan => Text.ofString "scan"
  | .watch => Text.ofString "watch"

/-- All commands. -/
def all : List Command := [.scan, .watch]

/-- The options of a command, in the order in which they are explained. -/
def flags : Command → List Flag
  | .scan => [.help, .config, .parser, .ext, .treeType, .json]
  | .watch => [.help, .config, .parser, .ext, .treeType, .output]

/-- The name of the program, or of one of its commands. -/
def program (c : Option Command) : Text :=
  Text.ofString "import-analyzer" ++
    match c with
    | none => []
    | some c => Text.ofString " " ++ c.name

end Command

namespace Flag

/-- The spellings of an option. -/
def spellings : Flag → List Text
  | .help => [Text.ofString "-h", Text.ofString "--help"]
  | .config => [Text.ofString "--config"]
  | .parser => [Text.ofString "--parser"]
  | .ext => [Text.ofString "--ext"]
  | .treeType => [Text.ofString "--tree-type"]
  | .json => [Text.ofString "--json"]
  | .output => [Text.ofString "--output"]

/-- The option as a message names it. -/
def shown (f : Flag) : Text := Text.join (Text.ofString "/") f.spellings

/-- Whether an option has a value. -/
def hasValue : Flag → Bool
  | .help => false
  | .json => false
  | _ => true

/-- The values that an option may have, if they are restricted. -/
def choices : Flag → List Text
  | .parser => [Text.ofString "tree-sitter", Text.ofString "esprima"]
  | _ => []

end Flag

/-! ## Words -/

/-- What is attached to an option in the same argument. -/
inductive Attached where
  /-- Nothing. -/
  | nothing
  /-- A value behind an equals sign. -/
  | value (t : Text)
  /-- More letters behind a single dash. -/
  | letters (t : Text)
deriving Repr, DecidableEq

/-- An argument as the options of a command make it out. -/
inductive Word where
  /-- An argument that is no option. -/
  | plain (t : Text)
  /-- The double dash. -/
  | dashes
  /-- An option and what is attached to it. -/
  | flag (f : Flag) (attached : Attached)
  /-- Something like an option, but none of the command. -/
  | unknown (t : Text)
deriving Repr

/-- The options with their spellings. -/
def spelled (flags : List Flag) : List (Flag × Text) :=
  flags.flatMap fun f => f.spellings.map (f, ·)

/-- A dash. -/
def isDash (c : CodePoint) : Bool := c.is '-'

/-- The text before the first equals sign, and what is behind it. -/
def splitValue (t : Text) : Text × Attached :=
  match t.dropWhile (!·.is '=') with
  | [] => (t, .nothing)
  | _ :: value => (t.takeWhile (!·.is '='), .value value)

/-- A decimal digit of any script. -/
def isAnyDigit (c : CodePoint) : Bool := (Unicode.decimalValue? c).isSome

/-- Whether a text is a negative number. -/
def isNegativeNumber : Text → Bool
  | dash :: body =>
    isDash dash &&
      match body.dropWhile isAnyDigit with
      | [] => !body.isEmpty
      | point :: fraction => point.is '.' && !fraction.isEmpty && fraction.all isAnyDigit
  | [] => false

/-- The options that an abbreviation can stand for, with their spellings. -/
def candidates (flags : List Flag) (t : Text) : List (Flag × Text × Attached) :=
  match t with
  | _ :: second :: rest =>
    if isDash second then
      let (short, attached) := splitValue t
      ((spelled flags).filter fun (_, s) => s.startsWith short).map fun (f, s) => (f, s, attached)
    else
      (spelled flags).filterMap fun (f, s) =>
        if s == t.take 2 then some (f, s, .letters rest)
        else if s.startsWith t then some (f, s, .nothing)
        else none
  | _ => []

/-- The word that an argument is. -/
def word (c : Option Command) (flags : List Flag) (t : Text) : Except Refusal Word :=
  match t with
  | [] => .ok (.plain t)
  | [_] => .ok (.plain t)
  | first :: _ :: _ =>
    if !isDash first then .ok (.plain t)
    else
      let exact (s : Text) : Option Flag := ((spelled flags).find? (·.2 == s)).map (·.1)
      let (front, attached) := splitValue t
      match exact t, exact front with
      | some f, _ => .ok (.flag f .nothing)
      | none, some f => .ok (.flag f attached)
      | none, none =>
        match candidates flags t with
        | [(f, _, attached)] => .ok (.flag f attached)
        | [] =>
          if isNegativeNumber t || t.any (·.is ' ') then .ok (.plain t) else .ok (.unknown t)
        | several =>
          .error (.misuse c (Text.concat ["ambiguous option: ", t, " could match ",
            Text.join (Text.ofString ", ") (several.map (·.2.1))]))

/-- The words that arguments are; behind a double dash all are plain. -/
def words (c : Option Command) (flags : List Flag) : List Text → Except Refusal (List Word)
  | [] => .ok []
  | t :: rest =>
    if t == Text.ofString "--" then .ok (.dashes :: rest.map .plain)
    else do
      let w ← word c flags t
      return w :: (← words c flags rest)

/-! ## Reading -/

/-- The refusal of an option. -/
def flagMisuse (c : Option Command) (f : Flag) (message : Text) : Refusal :=
  .misuse c (Text.concat ["argument ", f.shown, ": ", message])

/-- The refusal of a value where there should be none. -/
def ignoredValue (c : Option Command) (f : Flag) (t : Text) : Refusal :=
  flagMisuse c f (Text.concat ["ignored explicit argument ", t.quoted])

/-- The refusal of a value that is not among the choices. -/
def badChoice (name value : Text) (choices : List Text) : Text :=
  Text.concat ["argument ", name, ": invalid choice: ", value.quoted, " (choose from ",
    Text.join (Text.ofString ", ") (choices.map Text.quoted), ")"]

/-- What letters behind a single dash ask for, when the first option there was the one that
    explains the usage. -/
def helpLetters (c : Option Command) : Text → Refusal
  | [] => .help c
  | a :: rest =>
    if isDash a then ignoredValue c .help (a :: rest)
    else if a.is 'h' then
      match rest with
      | [] => .help c
      | b :: value => if b.is '=' then ignoredValue c .help value else helpLetters c (b :: value)
    else .help c

/-- The arguments with the value of an option. -/
def Arguments.set (a : Arguments) (f : Flag) (value : Text) : Arguments :=
  match f with
  | .config => { a with config := some value }
  | .parser => { a with parser := some value }
  | .ext => { a with ext := some value }
  | .treeType => { a with treeType := some value }
  | .output => { a with output := some value }
  | .help => a
  | .json => a

/-- The arguments with the value of an option, if the option may have it. -/
def assign (a : Arguments) (f : Flag) (value : Text) : Except Refusal Arguments :=
  if f.choices.isEmpty || f.choices.contains value then .ok (a.set f value)
  else .error (.misuse (some a.command) (badChoice f.shown value f.choices))

/-- What has been read of the arguments of a command. -/
structure Reading where
  /-- The arguments so far. -/
  arguments : Arguments
  /-- Whether the directory was read. -/
  placed : Bool := false
  /-- The arguments that nobody asked for. -/
  extras : List Text := []
deriving Repr

/-- Reads an option without a value of its own in the next argument. -/
def readFlag (r : Reading) (f : Flag) (attached : Attached) : Except Refusal Reading :=
  let c := some r.arguments.command
  match f, attached with
  | .help, .nothing => .error (.help c)
  | .help, .letters t => .error (helpLetters c t)
  | .json, .nothing => .ok { r with arguments := { r.arguments with json := true } }
  | f, .value t =>
    if f.hasValue then (assign r.arguments f t).map fun a => { r with arguments := a }
    else .error (ignoredValue c f t)
  | f, _ => .error (flagMisuse c f (Text.ofString "expected one argument"))

/-- Reads the words of a command. -/
def read (r : Reading) : List Word → Except Refusal Reading
  | [] => .ok r
  | .unknown t :: rest => read { r with extras := r.extras ++ [t] } rest
  | .dashes :: .plain t :: rest =>
    if r.placed then read { r with extras := r.extras ++ [Text.ofString "--", t] } rest
    else read { r with arguments := { r.arguments with root := t }, placed := true } rest
  | .dashes :: rest =>
    if r.placed then read { r with extras := r.extras ++ [Text.ofString "--"] } rest
    else read { r with placed := true } rest
  | .plain t :: .dashes :: rest =>
    if r.placed then read { r with extras := r.extras ++ [t, Text.ofString "--"] } rest
    else read { r with arguments := { r.arguments with root := t }, placed := true } rest
  | .plain t :: rest =>
    if r.placed then read { r with extras := r.extras ++ [t] } rest
    else read { r with arguments := { r.arguments with root := t }, placed := true } rest
  | .flag f attached :: rest =>
    match f.hasValue, attached, rest with
    | true, .nothing, .plain t :: rest => do read { r with arguments := ← assign r.arguments f t } rest
    | _, _, rest => do read (← readFlag r f attached) rest

/-- Reads the arguments of a command, behind some that nobody asked for. -/
def readCommand (c : Command) (extras argv : List Text) : Except Refusal Arguments := do
  let r ← read { arguments := { command := c } } (← words (some c) c.flags argv)
  match extras ++ r.extras with
  | [] => return r.arguments
  | extras =>
    throw (.misuse none (Text.concat
      ["unrecognized arguments: ", Text.join (Text.ofString " ") extras]))

/-- Reads the command and its arguments. -/
def readProgram (extras : List Text) : List Text → Except Refusal Arguments
  | [] => .error (.misuse none (Text.ofString "the following arguments are required: COMMAND"))
  | t :: rest => do
    let chosen : Except Refusal Arguments :=
      match Command.all.find? (·.name == t) with
      | some c => readCommand c extras rest
      | none => .error (.misuse none (badChoice (Text.ofString "COMMAND") t (Command.all.map Command.name)))
    if t == Text.ofString "--" && rest.isEmpty then readProgram extras rest
    else if t == Text.ofString "--" then chosen
    else
      match ← word none [.help] t with
      | .unknown t => readProgram (extras ++ [t]) rest
      | .flag f (.value v) => throw (ignoredValue none f v)
      | .flag _ (.letters v) => throw (helpLetters none v)
      | .flag _ .nothing => throw (.help none)
      | _ => chosen

/-- What the arguments ask for. -/
def Arguments.parse (argv : List Text) : Except Refusal Arguments := readProgram [] argv

end ImportScan.CommandLine
