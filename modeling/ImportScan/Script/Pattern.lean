import ImportScan.Script.Types

/-! # Patterns and parameters

    What may stand on the left of an assignment or of a declaration, and between the
    parentheses of a function.
-/

namespace ImportScan.Script

open Parse

/-- A default value. -/
def initializer (go : Go) : Parse Unit := do
  op "="
  go .assignment

/-- An array pattern whose elements are patterns of a goal. -/
def arrayPattern (go : Go) (leaf : Goal) : Parse Unit := node (.other "array_pattern") do
  symbol "["
  within (fun ctx => { ctx with noIn := false }) do
    commaSeparated "]" do
      if ← atOp "," then return
      if ← attempt (op "...") then go leaf
      else
        go leaf
        perhaps (initializer go)
  symbol "]"

/-- An object pattern whose values are patterns of a goal. -/
def objectPattern (go : Go) (leaf : Goal) : Parse Unit := node (.other "object_pattern") do
  symbol "\x7b"
  within (fun ctx => { ctx with noIn := false }) do
    commaSeparated "\x7d" do
      if (← atOp ",") && !(← dialect).strict then return
      if ← attempt (op "...") then go leaf
      else
        (do propertyName go
            op ":"
            go leaf
            perhaps (initializer go))
          <|> (do
            node (.other "shorthand_property_identifier_pattern") do
              let _ ← identifierWord
            perhaps (initializer go))
  symbol "\x7d"

/-- A pattern that binds names. -/
def binding (go : Go) : Parse Unit := do
  if ← startsWith '[' then arrayPattern go .binding
  else if ← startsWith '\x7b' then objectPattern go .binding
  else bindingName

/-- The decorator of a class, a member or a parameter: a name with dots, perhaps called. -/
def decorator (go : Go) : Parse Unit := node .decorator do
  check !(← dialect).strict
  symbol "@"
  if (← dialect).types && (← startsWith '(') then
    symbol "("
    go .expression
    symbol ")"
  else
    identifier
    repeated (attempt do
      check (← atOp ".")
      extend (.other "member_expression") none do
        op "."
        if ← startsWith '#' then
          trivia
          privateName
        else
          node (.other "property_identifier") do
            let _ ← anyWord)
    if (← dialect).types && (← startsWith '<') then
      perhaps (extend .call (some .callee) do
        typeArguments go
        inField .arguments (arguments go))
    else if ← startsWith '(' then
      extend .call (some .callee) (inField .arguments (arguments go))

/-- Decorators one after the other. -/
def decorators (go : Go) : Parse Unit := repeated do
  if ← startsWith '@' then
    decorator go
    return true
  return false

/-- A parameter of a function. -/
def parameter (go : Go) : Parse Unit := do
  operandTrivia
  let d ← dialect
  if d.types then
    decorators go
    repeated (attempt do
      wordOf ["public", "private", "protected", "readonly", "override"]
      check ((← nextWord) != [] || (← startsWith '[') || (← startsWith '\x7b')))
  if ← attempt (op "...") then
    go .binding
    if d.strict then check (← startsWith ')')
  else if d.types && (← atWord "this") then word "this"
  else go .binding
  if d.types then
    perhaps (symbol "?")
    annotation? go
  if !d.strict || !(← startsWith ')') then perhaps (initializer go)

/-- The parameters of a function. -/
def parameters (go : Go) : Parse Unit := node (.other "formal_parameters") do
  symbol "("
  within (fun ctx => { ctx with noIn := false, noReturnType := false }) do
    commaSeparated ")" (parameter go)
  symbol ")"

/-- Statements between braces as the body of a function. -/
def functionBody (go : Go) (isAsync isGenerator : Bool) : Parse Unit :=
  within (fun ctx => ctx.enterFunction isAsync isGenerator) (go .block)

/-- Type parameters, parameters, return type and body of a function.  With types in force the
    body may be left out where `signatures` says so. -/
def functionRest (go : Go) (isAsync isGenerator signatures : Bool) : Parse Unit := do
  typeParameters? go
  within (fun ctx => { ctx with isAsync, isGenerator }) (parameters go)
  if (← dialect).types && (← atOp ":") then returnType go
  if signatures && (← dialect).types && !(← startsWith '\x7b') then semicolon
  else functionBody go isAsync isGenerator

end ImportScan.Script
