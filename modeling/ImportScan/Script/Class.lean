import ImportScan.Script.Pattern

/-! # Classes

    Class declarations and expressions: heritage and members.
-/

namespace ImportScan.Script

open Parse

/-- Words that may stand before a member, with types in force and without. -/
def memberModifiers (d : Dialect) : List String :=
  if d.types then
    ["static", "public", "private", "protected", "override", "readonly", "abstract", "declare",
     "accessor"]
  else ["static"]

/-- The name of a member of a class. -/
def memberName (go : Go) : Parse Unit := do
  if ← startsWith '#' then privateName else propertyName go

/-- The rest of a field: marks, type and value, and the end. -/
def fieldRest (go : Go) : Parse Unit := do
  let d ← dialect
  check !d.strict
  if d.types then
    perhaps (symbol "?" <|> symbol "!")
    annotation? go
  perhaps (within (fun ctx => { ctx.enterFunction false false with inFunction := ctx.inFunction })
    (initializer go))
  semicolon

/-- A block that runs when the class is made. -/
def staticBlock (go : Go) : Parse Unit := node (.other "class_static_block") do
  check !(← dialect).strict
  word "static"
  functionBody go false false

/-- An index signature. -/
def indexSignature (go : Go) : Parse Unit := node (.other "index_signature") do
  check (← dialect).types
  repeated (attempt do
    wordOf ["static", "readonly", "public", "private", "protected"]
    check ((← nextWord) != [] || (← startsWith '[')))
  symbol "["
  let _ ← identifierWord
  op ":"
  go .type
  symbol "]"
  annotation? go
  semicolon

/-- A method or a field. -/
def member (go : Go) : Parse Unit := node (.other "class_member") do
  decorators go
  let d ← dialect
  repeated (attempt do
    wordOf (memberModifiers d)
    check (← atMemberName))
  decorators go
  let isAsync ← attempt do
    word "async"
    sameLine
    check (← atMemberName)
  let isGenerator ← attempt (op "*")
  check !(d.strict && isAsync && isGenerator)
  let isAccessor ← attempt do
    check !(isAsync || isGenerator)
    wordOf ["get", "set"]
    check ((← atMemberName) && !(← startsWith '*'))
  memberName go
  if d.types then perhaps do
    symbol "?"
    check ((← startsWith '(') || (← startsWith '<'))
  if (← startsWith '(') || (d.types && (← startsWith '<')) then
    functionRest go isAsync isGenerator true
  else
    check !(isAsync || isGenerator || isAccessor)
    fieldRest go

/-- The members of a class between braces. -/
def classBody (go : Go) : Parse Unit := node (.other "class_body") do
  symbol "\x7b"
  repeated do
    if ← attempt (symbol "\x7d") then return false
    if ← attempt (symbol ";") then return true
    (staticBlock go <|> indexSignature go) <|> member go
    return true

/-- What a class extends and implements. -/
def heritage (go : Go) : Parse Unit := do
  let types := (← dialect).types
  if ← atWord "extends" then
    node (.other "class_heritage") do
      word "extends"
      go .callee
      if types && (← startsWith '<') then typeArguments go
  if types && (← atWord "implements") then
    word "implements"
    repeated do
      go .type
      attempt (op ",")

/-- A class from its keyword on; the name may be left out where `anonymous` says so. -/
def classRest (go : Go) (anonymous : Bool) : Parse Unit := do
  word "class"
  let w ← nextWord
  let types := (← dialect).types
  let named := w != [] && w != Text.ofString "extends"
    && !(types && w == Text.ofString "implements")
  if named then inField .name bindingName else check anonymous
  typeParameters? go
  heritage go
  classBody go

end ImportScan.Script
