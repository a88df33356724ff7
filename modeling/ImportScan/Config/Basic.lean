import ImportScan.Config.Setting

/-! # Configurations

    A configuration resolves every setting on its own: an override wins over the environment,
    the environment over the configuration file, and the file over the default.

    * `Config.make`     : the configuration of an environment and the data of a file.
    * `Config.override` : the configuration with some settings replaced.
    * `Config.package`  : the package at a directory.
-/

namespace ImportScan

/-- The variables of an environment. -/
abbrev Environment := List (Text × Text)

/-- The value of a variable. -/
def Environment.get? (env : Environment) (name : Text) : Option Text :=
  (env.find? (·.1 == name)).map (·.2)

/-- The value of every setting, and the options of the parser. -/
structure Config where
  /-- The settings with their values. -/
  values : List (Setting × Datum)
  /-- The options of the parser. -/
  options : Datum
deriving Repr

namespace Config

/-- The value of a setting. -/
def get (c : Config) (s : Setting) : Datum :=
  ((c.values.find? (·.1 == s)).map (·.2)).getD s.default

/-- The configuration with a setting replaced. -/
def set (c : Config) (s : Setting) (value : Datum) : Config :=
  { c with values := (s, value) :: c.values.filter (·.1 != s) }

/-- The raw value of a setting: that of its variable, else that in the file, else null. -/
def raw (env : Environment) (file : List (Datum × Datum)) (s : Setting) : Datum :=
  match env.get? s.variableName with
  | some t => .text t
  | none => Datum.lookup file (.text s.key)

/-- The value of a setting. -/
def resolve (env : Environment) (file : List (Datum × Datum)) (s : Setting) :
    Except Fault Datum :=
  match raw env file s with
  | .null => .ok s.default
  | d => s.cast d

/-- The settings with their values, in order. -/
def resolveAll (env : Environment) (file : List (Datum × Datum)) :
    List Setting → Except Fault (List (Setting × Datum))
  | [] => .ok []
  | s :: rest => do
    let value ← resolve env file s
    return (s, value) :: (← resolveAll env file rest)

/-- The options of the parser, which only the file can set. -/
def fileOptions (file : List (Datum × Datum)) : Datum :=
  match Datum.lookup file (.str "parser_options") with
  | .map es => .map es
  | _ => .map []

/-- The entries of a file's data.  Data that do not count as switched on have none. -/
def entriesOf (d : Datum) : Except Fault (List (Datum × Datum)) :=
  match d with
  | .map es => .ok es
  | d =>
    if d.truthy then
      .error (.lacking (Text.concat
        [d.kindName.quoted, " object has no attribute ", (Text.ofString "get").quoted]))
    else .ok []

/-- The configuration of an environment and the data of a file. -/
def make (env : Environment) (file : List (Datum × Datum)) : Except Fault Config := do
  return ⟨← resolveAll env file Setting.all, fileOptions file⟩

/-! ## Overrides -/

/-- What an override replaces. -/
inductive Target where
  /-- A setting. -/
  | setting (s : Setting)
  /-- The options of the parser. -/
  | options
deriving Repr, DecidableEq

/-- What a key names, in letters of either case. -/
def target? (key : Text) : Option Target :=
  let name := key.upper
  if name == Text.ofString "PARSER_OPTIONS" then some .options
  else (Setting.all.find? (·.capitals == name)).map .setting

/-- The configuration with one setting replaced; null replaces nothing. -/
def overrideOne (c : Config) (key : Text) (value : Datum) : Except Fault Config :=
  match value, target? key with
  | .null, _ => .ok c
  | _, none => .error (.unknownSetting key)
  | d, some .options => .ok { c with options := d }
  | d, some (.setting .extensions) => (Setting.splitExtensions d).map (c.set .extensions)
  | d, some (.setting s) => .ok (c.set s d)

/-- The configuration with settings replaced one after the other, up to the first that fails. -/
def override (c : Config) : List (Text × Datum) → Config × Option Fault
  | [] => (c, none)
  | (key, value) :: rest =>
    match c.overrideOne key value with
    | .ok c => c.override rest
    | .error e => (c, some e)

/-! ## Packages -/

/-- A pair of options that a datum spells: two items, of which the first is the key. -/
def pair (index : Nat) (d : Datum) : Except Fault (Datum × Datum) :=
  match d.items? with
  | none => .error (.wrongKind (Text.concat ["cannot convert dictionary update sequence element #",
      Text.ofNat index, " to a sequence"]))
  | some [k, v] => if k.isScalar then .ok (k, v) else .error (.unhashable k)
  | some items => .error (.badPair index items.length)

/-- Pairs of options, counted from a number on. -/
def pairs (index : Nat) : List Datum → Except Fault (List (Datum × Datum))
  | [] => .ok []
  | d :: rest => do
    let p ← pair index d
    return p :: (← pairs (index + 1) rest)

/-- The options as a mapping. -/
def optionMap (d : Datum) : Except Fault Datum :=
  match d with
  | .map es => .ok (.map es)
  | d =>
    match d.items? with
    | some items => do return .map (Datum.overlay [] (← pairs 0 items))
    | none => .error (.notIterable d)

/-- The package at a directory; it is named after the directory unless it has a name. -/
def package (c : Config) (cwd root : Text) : Except Fault Package := do
  let root := Path.absolute cwd root
  let options ← optionMap c.options
  Package.ofSettings cwd
    { name := (c.get .name).orElse (.text (Path.base root))
      root
      extensions := c.get .extensions
      parser := c.get .parser
      options
      version := c.get .version
      treeType := c.get .treeType }

end Config

end ImportScan
