import ImportScan.Script.Module

/-! # Statements

    Statements and declarations.  Outside strict modules a declaration may stand wherever a
    statement may, and nothing is asked of jumps and labels.
-/

namespace ImportScan.Script

open Parse

/-- Statements up to a place where none follows. -/
def items (go : Go) (stop : Parse Bool) : Parse Unit := repeated do
  operandTrivia
  if ← stop then return false
  go .item
  return true

/-- Statements between braces. -/
def block (go : Go) : Parse Unit := node (.other "statement_block") do
  symbol "\x7b"
  items go (startsWith '\x7d')
  symbol "\x7d"

/-- A condition in parentheses. -/
def condition (go : Go) : Parse Unit := parenthesized go

/-- The body of a loop. -/
def loopBody (go : Go) : Parse Unit :=
  within (fun ctx => { ctx with inLoop := true }) (go .statement)

/-! ## Declarations -/

/-- A declared name or pattern with its type and value. -/
def declarator (go : Go) (constant : Bool) : Parse Unit := node (.other "variable_declarator") do
  let d ← dialect
  let isPattern := (← startsWith '[') || (← startsWith '\x7b')
  inField .name (go .binding)
  if d.types then
    perhaps (do symbol "!"; check (← atOp ":"))
    annotation? go
  let hasValue ← attempt (initializer go)
  check (hasValue || !(d.strict && (constant || isPattern)))

/-- Declarators with commas between them. -/
def declarators (go : Go) (constant : Bool) : Parse Unit := repeated do
  declarator go constant
  attempt (op ",")

/-- Whether a declaration with `let` comes next. -/
def atLet : Parse Bool := comesNext do
  word "let"
  let w ← nextWord
  check (w != Text.ofString "in" && w != Text.ofString "instanceof")
  check (w != [] || (← startsWith '[') || (← startsWith '\x7b'))

/-- Whether a declaration of a resource comes next. -/
def atUsing : Parse Bool := comesNext do
  check !(← dialect).strict
  perhaps (do word "await"; sameLine; check (← atWord "using"))
  word "using"
  sameLine
  let _ ← identifierWord
  op "="

/-- Whether a declaration of variables comes next. -/
def atVariables : Parse Bool := do
  return (← atWord "var") || (← atWord "const") || (← atLet) || (← atUsing)

/-- A declaration of variables, without its semicolon. -/
def variableDeclaration (go : Go) : Parse Unit := node (.other "lexical_declaration") do
  perhaps (do word "await"; sameLine; check (← atWord "using"))
  let w ← anyWord
  declarators go (w == Text.ofString "const")

/-- A function declaration. -/
def functionDeclaration (go : Go) : Parse Unit := node (.other "function_declaration") do
  let isAsync ← attempt (word "async")
  word "function"
  let isGenerator ← attempt (op "*")
  check !((← dialect).strict && isAsync && isGenerator)
  inField .name bindingName
  functionRest go isAsync isGenerator true

/-- A class declaration. -/
def classDeclaration (go : Go) : Parse Unit := node (.other "class_declaration") do
  decorators go
  if (← dialect).types then perhaps (word "abstract")
  classRest go false

/-! ## Declarations of types -/

/-- A member of an enumeration. -/
def enumMember (go : Go) : Parse Unit := do
  propertyName go
  perhaps (initializer go)

/-- An enumeration. -/
def enumDeclaration (go : Go) : Parse Unit := node (.other "enum_declaration") do
  perhaps (word "const")
  word "enum"
  bindingName
  symbol "\x7b"
  commaSeparated "\x7d" (enumMember go)
  symbol "\x7d"

/-- An interface. -/
def interfaceDeclaration (go : Go) : Parse Unit := node (.other "interface_declaration") do
  word "interface"
  bindingName
  typeParameters? go
  if ← attempt (word "extends") then
    repeated do
      go .type
      attempt (op ",")
  objectType go

/-- An alias of a type. -/
def aliasDeclaration (go : Go) : Parse Unit := node (.other "type_alias_declaration") do
  word "type"
  bindingName
  typeParameters? go
  op "="
  go .type
  semicolon

/-- A namespace or an ambient module. -/
def namespaceDeclaration (go : Go) : Parse Unit := node (.other "module") do
  wordOf ["namespace", "module"]
  sameLine
  if ← atString then stringLiteral
  else
    bindingName
    repeated (attempt (do op "."; bindingName))
  if ← startsWith '\x7b' then go .block else semicolon

/-- A declaration without a body. -/
def ambientDeclaration (go : Go) : Parse Unit := node (.other "ambient_declaration") do
  word "declare"
  sameLine
  if ← attempt (word "global") then go .block
  else
    check (← atDeclaration)
    go .item

/-- Whether a type declaration that a word announces comes next. -/
def announces (w : String) : Parse Bool := comesNext do
  check (← dialect).types
  word w
  sameLine
  let _ ← identifierWord

/-- A declaration of types, if one comes next. -/
def typeDeclaration (go : Go) : Parse Bool := do
  if !(← dialect).types then return false
  match (← nextWord).asString with
  | "interface" => if ← announces "interface" then interfaceDeclaration go; return true else return false
  | "type" => if ← announces "type" then aliasDeclaration go; return true else return false
  | "enum" => enumDeclaration go; return true
  | "const" =>
    if ← comesNext (do word "const"; word "enum") then enumDeclaration go; return true
    else return false
  | "namespace" => attempt (namespaceDeclaration go)
  | "module" => attempt (namespaceDeclaration go)
  | "declare" => attempt (ambientDeclaration go)
  | "global" => attempt (do word "global"; go .block)
  | "abstract" => if ← comesNext (do word "abstract"; word "class") then classDeclaration go; return true else return false
  | _ => return false

/-! ## Loops and branches -/

/-- The head of a loop over the keys or items of something. -/
def iterationHead (go : Go) : Parse Unit := do
  let d ← dialect
  (do
    if d.strict then wordOf ["var", "let", "const"] else wordOf ["var", "let", "const", "using"]
    go .binding
    annotation? go)
    <|> go .target
  let w ← anyWord
  if w == Text.ofString "of" then
    if d.strict then go .assignment else go .expression
  else
    check (w == Text.ofString "in")
    go .expression
  check (← startsWith ')')

/-- The head of a loop with a start, a condition and a step. -/
def countingHead (go : Go) : Parse Unit := do
  within (fun ctx => { ctx with noIn := true }) do
    if ← atVariables then variableDeclaration go
    else if !(← startsWith ';') then go .expression
  symbol ";"
  if !(← startsWith ';') then go .expression
  symbol ";"
  if !(← startsWith ')') then go .expression

/-- A loop with a head. -/
def forStatement (go : Go) : Parse Unit := node (.other "for_statement") do
  word "for"
  let isAwait ← attempt (word "await")
  check !((← dialect).strict && isAwait)
  symbol "("
  iterationHead go <|> countingHead go
  symbol ")"
  loopBody go

/-- A loop with its condition first. -/
def whileStatement (go : Go) : Parse Unit := node (.other "while_statement") do
  word "while"
  condition go
  loopBody go

/-- A loop with its condition last. -/
def doStatement (go : Go) : Parse Unit := node (.other "do_statement") do
  word "do"
  loopBody go
  word "while"
  condition go
  perhaps (symbol ";")

/-- A branch. -/
def ifStatement (go : Go) : Parse Unit := node (.other "if_statement") do
  word "if"
  condition go
  go .statement
  if ← attempt (word "else") then go .statement

/-- The cases of a switch. -/
def switchStatement (go : Go) : Parse Unit := node (.other "switch_statement") do
  word "switch"
  condition go
  symbol "\x7b"
  let stop : Parse Bool := do
    return (← startsWith '\x7d') || (← atWord "case") || (← atWord "default")
  within (fun ctx => { ctx with inSwitch := true }) do
    repeated do
      if ← startsWith '\x7d' then return false
      if ← attempt (word "case") then go .expression else word "default"
      op ":"
      items go stop
      return true
  symbol "\x7d"

/-- A guarded block with handlers. -/
def tryStatement (go : Go) : Parse Unit := node (.other "try_statement") do
  let strict := (← dialect).strict
  word "try"
  go .block
  let handled ← atWord "catch"
  if handled then
    word "catch"
    if strict || (← startsWith '(') then
      symbol "("
      go .binding
      annotation? go
      symbol ")"
    go .block
  let finished ← attempt (word "finally")
  if finished then go .block
  check (!strict || handled || finished)

/-! ## Jumps -/

/-- A jump to a label, or without one. -/
def jump (keyword : String) (allowed : Context → Bool) : Parse Unit :=
  node (.other (keyword ++ "_statement")) do
    let ctx ← context
    word keyword
    let labelled ← comesNext (do sameLine; identifierWord)
    if labelled then
      let label ← identifierWord
      check (!ctx.dialect.strict || ctx.labels.contains (plainWord label))
    else check (!ctx.dialect.strict || allowed ctx)
    semicolon

/-- A return from a function. -/
def returnStatement (go : Go) : Parse Unit := node (.other "return_statement") do
  let ctx ← context
  check (!ctx.dialect.strict || ctx.inFunction)
  word "return"
  let bare := (← atEnd) || (← breaks) || (← startsWith ';') || (← startsWith '\x7d')
  if !bare then go .expression
  semicolon

/-- A thrown value. -/
def throwStatement (go : Go) : Parse Unit := node (.other "throw_statement") do
  word "throw"
  if (← dialect).strict then sameLine
  go .expression
  semicolon

/-- A statement with a label. -/
def labeledStatement (go : Go) : Parse Unit := node (.other "labeled_statement") do
  let ctx ← context
  let label := plainWord (← identifierWord)
  op ":"
  check !(ctx.dialect.strict && ctx.labels.contains label)
  within (fun ctx => { ctx with labels := label :: ctx.labels }) (go .statement)

/-- An expression as a statement. -/
def expressionStatement (go : Go) : Parse Unit := node (.other "expression_statement") do
  go .expression
  semicolon

/-! ## Statements -/

/-- A statement that a word may announce, which is no declaration. -/
def plainStatement (go : Go) : Parse Unit := do
  let strict := (← dialect).strict
  if ← startsWith '\x7b' then block go
  else if ← startsWith ';' then symbol ";"
  else
    match (← nextWord).asString with
    | "if" => ifStatement go
    | "for" => forStatement go
    | "while" => whileStatement go
    | "do" => doStatement go
    | "switch" => switchStatement go
    | "try" => tryStatement go
    | "return" => returnStatement go
    | "throw" => throwStatement go
    | "break" => jump "break" fun ctx => ctx.inLoop || ctx.inSwitch
    | "continue" => jump "continue" fun ctx => ctx.inLoop
    | "debugger" =>
      word "debugger"
      semicolon
    | "with" =>
      check !strict
      node (.other "with_statement") do
        word "with"
        condition go
        go .statement
    | _ =>
      if ← comesNext (do let _ ← identifierWord; op ":") then labeledStatement go
      else expressionStatement go

/-- A declaration, if one comes next. -/
def declaration (go : Go) : Parse Bool := do
  if ← typeDeclaration go then return true
  if ← atVariables then
    variableDeclaration go
    semicolon
    return true
  match (← nextWord).asString with
  | "function" => named (word "function") (functionDeclaration go)
  | "class" => named (word "class") (classDeclaration go)
  | "async" => named (do word "async"; sameLine; word "function") (functionDeclaration go)
  | _ => return false
where
  /-- A declaration that keywords and a name announce.  Without a name it is an expression,
      which strict modules do not take for a statement. -/
  named (keywords : Parse Unit) (p : Parse Unit) : Parse Bool := do
    let announced ← comesNext do
      keywords
      perhaps (op "*")
      let w ← identifierWord
      check (w != Text.ofString "implements" || !(← dialect).types)
    let strict := (← dialect).strict
    if announced || (strict && (← comesNext keywords)) then
      p
      return true
    return false

/-- A statement, or a declaration in a list of statements. -/
def item (go : Go) : Parse Unit := do
  operandTrivia
  if (← startsWith '@') && !(← dialect).strict then
    if ← comesNext (do decorators go; word "export") then exportDeclaration go
    else classDeclaration go
  else
    match (← nextWord).asString with
    | "export" => exportDeclaration go
    | "import" =>
      if ← comesNext (do word "import"; symbol "(" <|> op ".") then expressionStatement go
      else importDeclaration go
    | _ => if !(← declaration go) then plainStatement go

/-- A statement on its own.  Outside strict modules a declaration will do. -/
def statement (go : Go) : Parse Unit := do
  operandTrivia
  if (← dialect).strict then
    check !((← atWord "function") || (← atWord "class") || (← atWord "const") || (← atLet))
    if ← atWord "var" then
      variableDeclaration go
      semicolon
    else
      check !(← atWord "export")
      plainStatement go
  else item go

/-- A whole file. -/
def program (go : Go) : Parse Unit := node (.other "program") do
  if !(← dialect).strict then perhaps do
    let rest := (← cursor).rest
    check ((Text.ofString "#!").isPrefixOf rest)
    consume (rest.takeWhile (!·.is '\n')) (rest.dropWhile (!·.is '\n'))
  items go atEnd
  trivia

end ImportScan.Script
