import ImportScan.Script.Literal

/-! # Types

    The types of TypeScript, with their parameters and arguments.  What matters about them is
    where they end, and the dynamic imports in them.
-/

namespace ImportScan.Script

open Parse

/-- A type after a colon. -/
def annotation (go : Go) : Parse Unit := node (.other "type_annotation") do
  op ":"
  go .type

/-- A type after a colon, where types are in force and there is one. -/
def annotation? (go : Go) : Parse Unit := do
  if (← dialect).types && (← atOp ":") then annotation go

/-- What a function returns: a type, or a statement about a parameter. -/
def returnType (go : Go) : Parse Unit := node (.other "type_annotation") do
  op ":"
  (do word "asserts"
      sameLine
      let _ ← identifierOrThis
      perhaps (do word "is"; go .type)
      check (← endsHere))
    <|> (do
      let _ ← identifierOrThis
      sameLine
      word "is"
      go .type)
    <|> go .type
where
  /-- An identifier or `this`. -/
  identifierOrThis : Parse Text := do
    let w ← anyWord
    check (isIdentifier (← dialect) w || w == Text.ofString "this")
    return w
  /-- Whether the statement about a parameter ends here. -/
  endsHere : Parse Bool := do
    let o ← nextOp
    return o == "\x7b" || o == ";" || o == "=>" || o == "," || o == "\x7d" || o == ")" || o == ""
      || (← breaks)

/-- Parameters of a type. -/
def typeParameters (go : Go) : Parse Unit := node (.other "type_parameters") do
  symbol "<"
  commaSeparated ">" do
    repeated (attempt do wordOf ["const", "in", "out"]; check ((← nextWord) != []))
    let _ ← identifierWord
    perhaps (do word "extends"; go .type)
    perhaps (do op "="; go .type)
  symbol ">"

/-- Parameters of a type, where types are in force and there are some. -/
def typeParameters? (go : Go) : Parse Unit := do
  if (← dialect).types && (← startsWith '<') then typeParameters go

/-- Arguments of a type. -/
def typeArguments (go : Go) : Parse Unit := node (.other "type_arguments") do
  symbol "<"
  commaSeparated ">" (go .type)
  symbol ">"

/-- A call of `import` among types. -/
def importType (go : Go) : Parse Unit := do
  node .importWord (word "import")
  extend .call (some .callee) (inField .arguments (arguments go))

/-- Names with dots between them, and arguments behind. -/
def qualifiedRest (go : Go) : Parse Unit := do
  repeated (attempt do
    symbol "."
    let _ ← privateOrWord)
  if (← startsWith '<') && !(← breaks) then perhaps (typeArguments go)
where
  /-- A word or a private name. -/
  privateOrWord : Parse Unit := do
    if ← startsWith '#' then
      trivia
      privateName
    else
      let _ ← anyWord

/-- A parameter of a function type. -/
def typeParameter (go : Go) : Parse Unit := do
  perhaps (op "...")
  (do word "this") <|> go .binding
  perhaps (op "?")
  annotation? go

/-- The parameters and the result of a signature. -/
def signature (go : Go) : Parse Unit := do
  typeParameters? go
  symbol "("
  commaSeparated ")" (typeParameter go)
  symbol ")"
  if ← atOp ":" then returnType go

/-- A function type. -/
def functionType (go : Go) : Parse Unit := node (.other "function_type") do
  perhaps (do word "abstract"; check (← atWord "new"))
  perhaps (word "new")
  typeParameters? go
  symbol "("
  commaSeparated ")" (typeParameter go)
  symbol ")"
  op "=>"
  (do word "asserts"
      sameLine
      let _ ← anyWord
      perhaps (do word "is"; go .type))
    <|> (do
      let _ ← anyWord
      sameLine
      word "is"
      go .type)
    <|> go .type

/-- The end of a member of an object type. -/
def memberEnd : Parse Unit := do
  if ← attempt (symbol ";") then return
  if ← attempt (symbol ",") then return
  check ((← startsWith '\x7d') || (← breaks))

/-- A member of an object type. -/
def typeMember (go : Go) : Parse Unit := do
  member
  memberEnd
where
  /-- Marks of an optional or read-only member of a mapped type. -/
  mark (s : String) : Parse Unit := do
    perhaps (op "+" <|> op "-")
    symbol s
  /-- An index signature or a mapped type. -/
  index : Parse Unit := do
    perhaps (do perhaps (op "+" <|> op "-"); word "readonly")
    symbol "["
    (do let _ ← identifierWord
        word "in"
        go .type
        perhaps (do word "as"; go .type)
        symbol "]"
        perhaps (mark "?")
        annotation? go)
      <|> (do
        let _ ← identifierWord
        op ":"
        go .type
        symbol "]"
        perhaps (mark "?")
        annotation? go)
  /-- A property, a method or an accessor. -/
  property : Parse Unit := do
    repeated (attempt do
      wordOf ["readonly", "get", "set", "public", "private", "protected", "static"]
      check (← atMemberName))
    propertyName go
    perhaps (symbol "?")
    if (← startsWith '(') || (← startsWith '<') then signature go else annotation? go
  /-- One member. -/
  member : Parse Unit := do
    if (← startsWith '(') || (← startsWith '<') then signature go
    else
      (do word "new"; check ((← startsWith '(') || (← startsWith '<')); signature go)
        <|> index <|> property

/-- An object type. -/
def objectType (go : Go) : Parse Unit := node (.other "object_type") do
  symbol "\x7b"
  perhaps (symbol "|")
  repeated do
    if ← attempt (symbol "\x7d") then return false
    if ← attempt (symbol "|\x7d") then return false
    if ← attempt (symbol ";" <|> symbol ",") then return true
    typeMember go
    return true

/-- An element of a tuple type. -/
def tupleElement (go : Go) : Parse Unit := do
  perhaps (op "...")
  perhaps (do
    let _ ← anyWord
    perhaps (symbol "?")
    op ":")
  go .type
  perhaps (symbol "?")

/-- Words that are types of their own and take no arguments. -/
def typeWords : List Text := ["null", "true", "false", "void", "this"].map Text.ofString

/-- A type without operators. -/
def primaryType (go : Go) : Parse Unit := do
  if ← startsWith '(' then
    symbol "("
    go .type
    symbol ")"
  else if ← startsWith '\x7b' then objectType go
  else if ← startsWith '[' then
    symbol "["
    commaSeparated "]" (tupleElement go)
    symbol "]"
  else if ← startsWith '\x60' then template go .type
  else if ← atString then stringLiteral
  else
    let w ← nextWord
    if w == [] then
      perhaps (op "-")
      number
    else if w == Text.ofString "import" then
      importType go
      qualifiedRest go
    else
      let _ ← anyWord
      check (isIdentifier (← dialect) w || typeWords.contains w)
      qualifiedRest go

/-- A type that asks for the type of an expression. -/
def typeQuery (go : Go) : Parse Unit := do
  word "typeof"
  if ← atWord "import" then
    importType go
    qualifiedRest go
  else
    let w ← anyWord
    check (isIdentifier (← dialect) w || w == Text.ofString "this")
    qualifiedRest go

/-- A type without binary operators at its top. -/
def unaryType (go : Go) : Parse Unit := do
  operand
  repeated (attempt do
    sameLine
    symbol "["
    if !(← startsWith ']') then go .type
    symbol "]")
where
  /-- What array brackets may follow. -/
  operand : Parse Unit :=
    (do wordOf ["keyof", "readonly", "unique"]
        check (← startsType)
        go .unaryType)
      <|> (do word "infer"
              let _ ← identifierWord
              perhaps (do word "extends"; go .type))
      <|> typeQuery go
      <|> primaryType go
  /-- Whether a type may start here. -/
  startsType : Parse Bool := do
    if (← nextWord) != [] then return true
    let rest ← ahead
    match rest with
    | c :: _ => return "(\x7b[\x60\"\x27".toList.any fun p => c.is p
    | [] => return false

/-- Whether a function type may start here. -/
def atFunctionType : Parse Bool := do
  return (← startsWith '(') || (← startsWith '<') || (← atWord "new") || (← atWord "abstract")

/-- A type. -/
def typeExpression (go : Go) : Parse Unit := do
  if (← atFunctionType) && (← attempt (functionType go)) then return
  perhaps (symbol "|" <|> symbol "&")
  operandOrFunction
  repeated do
    let o ← nextOp
    if o == "|" || o == "&" then
      symbol o
      operandOrFunction
      return true
    return false
  perhaps (do
    sameLine
    word "extends"
    operandOrFunction
    repeated do
      let o ← nextOp
      if o == "|" || o == "&" then
        symbol o
        operandOrFunction
        return true
      return false
    op "?"
    go .type
    op ":"
    go .type)
where
  /-- An operand of a union or an intersection. -/
  operandOrFunction : Parse Unit := do
    if (← atFunctionType) && (← attempt (functionType go)) then return
    go .unaryType

end ImportScan.Script
