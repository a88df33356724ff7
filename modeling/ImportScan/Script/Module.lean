import ImportScan.Script.Expression

/-! # Imports and exports

    The declarations that name other modules.
-/

namespace ImportScan.Script

open Parse

/-- The module that a declaration names. -/
def moduleSource : Parse Unit := inField .source stringLiteral

/-- Attributes of an import. -/
def importAttributes (go : Go) : Parse Unit := do
  check !(← dialect).strict
  (do word "with") <|> (do sameLine; word "assert")
  objectLiteral go

/-- The exported name of a binding: any word in strict modules; elsewhere an identifier,
    `default` or a string. -/
def exportedName : Parse Unit := do
  let d ← dialect
  if ← atString then
    check !d.strict
    stringLiteral
  else
    node .identifier do
      let w ← anyWord
      check (d.strict || isIdentifier d w || w == Text.ofString "default")

/-- The word that marks a binding or a declaration as one of types, where types are in force. -/
def typeMark (follows : Parse Bool) : Parse Unit := do
  if (← dialect).types then perhaps do
    wordOf ["type", "typeof"]
    check (← follows)

/-- One binding between the braces of an import. -/
def importSpecifier : Parse Unit := node .importSpecifier do
  typeMark do
    if ← atString then return true
    let w ← nextWord
    return w != [] && w != Text.ofString "as"
  let isString ← atString
  let w ← nextWord
  inField .name exportedName
  if ← attempt (word "as") then inField .alias bindingName
  else check (!isString && isIdentifier (← dialect) w)

/-- The bindings between the braces of an import. -/
def namedImports : Parse Unit := node .namedImports do
  symbol "\x7b"
  commaSeparated "\x7d" importSpecifier
  symbol "\x7d"

/-- The binding of a whole module. -/
def namespaceImport : Parse Unit := node (.other "namespace_import") do
  symbol "*"
  word "as"
  bindingName

/-- The bindings of an import. -/
def importClause : Parse Unit := node .importClause do
  let group : Parse Unit := do
    if ← startsWith '*' then namespaceImport else namedImports
  if (← nextWord) != [] then
    bindingName
    if ← attempt (op ",") then group
  else group

/-- A name with dots. -/
def dottedName : Parse Unit := do
  let _ ← identifierWord
  repeated (attempt do
    op "."
    let _ ← anyWord)

/-- An alias of a namespace or of a required module. -/
def importAlias : Parse Unit := do
  check (← dialect).types
  bindingName
  op "="
  if ← comesNext (do word "require"; symbol "(") then
    node (.other "import_require_clause") do
      word "require"
      symbol "("
      moduleSource
      symbol ")"
  else dottedName

/-- An import declaration. -/
def importDeclaration (go : Go) : Parse Unit := node .importStatement do
  let ctx ← context
  check !(ctx.dialect.strict && ctx.inFunction)
  word "import"
  if ← atString then moduleSource
  else
    typeMark do
      if (← startsWith '\x7b') || (← startsWith '*') then return true
      let w ← nextWord
      if w == Text.ofString "from" then
        comesNext (do word "from"; word "from")
      else return w != []
    if !(← attempt importAlias) then
      importClause
      word "from"
      moduleSource
  perhaps (importAttributes go)
  semicolon

/-- One name between the braces of an export; `default` only where it may stand. -/
def exportSpecifier (allowDefault : Bool) : Parse Unit := node (.other "export_specifier") do
  typeMark do
    if ← atString then return true
    let w ← nextWord
    return w != [] && w != Text.ofString "as"
  check (allowDefault || !(← atWord "default"))
  inField .name exportedName
  if ← attempt (word "as") then inField .alias exportedName

/-- The names between the braces of an export. -/
def exportClause (allowDefault : Bool) : Parse Unit := node (.other "export_clause") do
  symbol "\x7b"
  commaSeparated "\x7d" (exportSpecifier allowDefault)
  symbol "\x7d"

/-- The module that an export takes its names from. -/
def fromClause : Parse Unit := do
  word "from"
  moduleSource

/-- An export of names, from another module or of this one. -/
def exportNames : Parse Unit := do
  let strict := (← dialect).strict
  (do exportClause true; fromClause; semicolon) <|> (do exportClause (!strict); semicolon)

/-- An export of everything, perhaps under a name. -/
def exportAll : Parse Unit := do
  if ← comesNext (do symbol "*"; word "as") then
    node (.other "namespace_export") do
      check !(← dialect).strict
      node .star (symbol "*")
      word "as"
      exportedName
  else node .star (symbol "*")
  fromClause
  semicolon

/-- Words that start a declaration. -/
def declarationWords (d : Dialect) : List String :=
  ["var", "let", "const", "function", "class"]
    ++ (if d.types then
        ["interface", "type", "enum", "declare", "namespace", "module", "abstract"]
      else [])

/-- Whether a declaration comes next. -/
def atDeclaration : Parse Bool := do
  let w ← nextWord
  if (declarationWords (← dialect)).any fun s => Text.ofString s == w then return true
  if (← startsWith '@') && !(← dialect).strict then return true
  comesNext (do word "async"; sameLine; word "function")

/-- An export of a value: a function or class that needs no name, or an expression. -/
def exportDefault (go : Go) : Parse Unit := do
  word "default"
  let types := (← dialect).types
  if (← atWord "function") || (← comesNext (do word "async"; sameLine; word "function")) then
    node (.other "function_declaration") do
      let isAsync ← attempt (word "async")
      word "function"
      let isGenerator ← attempt (op "*")
      check !((← dialect).strict && isAsync && isGenerator)
      if (← nextWord) != [] then bindingName
      functionRest go isAsync isGenerator true
  else if (← atWord "class") || (← startsWith '@')
      || (types && (← comesNext (do word "abstract"; word "class"))) then
    node (.other "class_declaration") do
      decorators go
      if types then perhaps (word "abstract")
      classRest go true
  else if types && (← comesNext (do word "interface"; identifierWord)) then go .item
  else
    go .assignment
    semicolon

/-- An export declaration. -/
def exportDeclaration (go : Go) : Parse Unit := node .exportStatement do
  let ctx ← context
  let types := ctx.dialect.types
  check !(ctx.dialect.strict && ctx.inFunction)
  decorators go
  word "export"
  if ← startsWith '*' then exportAll
  else if ← startsWith '\x7b' then exportNames
  else if ← atWord "default" then exportDefault go
  else if types && (← atOp "=") then
    op "="
    go .expression
    semicolon
  else if types && (← comesNext (do word "as"; word "namespace")) then
    word "as"
    word "namespace"
    bindingName
    semicolon
  else if types && (← atWord "import") then
    word "import"
    bindingName
    op "="
    dottedName
    semicolon
  else if types && (← comesNext (do word "type"; symbol "\x7b")) then
    word "type"
    exportNames
  else
    check (← atDeclaration)
    go .item

end ImportScan.Script
