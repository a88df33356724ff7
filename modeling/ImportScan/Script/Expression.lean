import ImportScan.Script.Class

/-! # Expressions

    Operators are read without regard to their precedence: what counts is which calls there
    are and what their arguments look like.  Parentheses are read as an expression first; only
    when that fails, or an arrow follows, are they read again as parameters.
-/

namespace ImportScan.Script

open Parse

/-- Inside brackets of any kind, `in` is an operator again. -/
def inBrackets (p : Parse α) : Parse α :=
  within (fun ctx => { ctx with noIn := false, noReturnType := false }) p

/-! ## Literals -/

/-- An array. -/
def arrayLiteral (go : Go) : Parse Unit := node (.other "array") do
  symbol "["
  inBrackets do
    commaSeparated "]" do
      operandTrivia
      if ← atOp "," then return
      if ← atOp "..." then
        node (.other "spread_element") do
          op "..."
          go .assignment
      else go .assignment
  symbol "]"

/-- A member of an object. -/
def objectMember (go : Go) : Parse Unit := do
  let d ← dialect
  if (← atOp ",") && !d.strict then return
  if ← atOp "..." then
    node (.other "spread_element") do
      op "..."
      go .assignment
  else
    let isAsync ← attempt do
      word "async"
      sameLine
      check (← atMemberName)
    let isGenerator ← attempt (op "*")
    check !(d.strict && isAsync && isGenerator)
    let isAccessor ← attempt do
      check !(isAsync || isGenerator)
      wordOf ["get", "set"]
      check ((← atMemberName) && !(← startsWith '*'))
    let w ← nextWord
    propertyName go
    if (← startsWith '(') || (d.types && (← startsWith '<')) then
      functionRest go isAsync isGenerator false
    else
      check !(isAsync || isGenerator || isAccessor)
      if ← atOp ":" then
        op ":"
        go .assignment
      else check (w != [] && isIdentifier d w)

/-- An object. -/
def objectLiteral (go : Go) : Parse Unit := node (.other "object") do
  symbol "\x7b"
  inBrackets (commaSeparated "\x7d" (objectMember go))
  symbol "\x7d"

/-- An expression in parentheses. -/
def parenthesized (go : Go) : Parse Unit := node (.other "parenthesized_expression") do
  symbol "("
  inBrackets (go .expression)
  symbol ")"

/-- A function as an expression. -/
def functionExpression (go : Go) : Parse Unit := node (.other "function_expression") do
  let isAsync ← attempt (word "async")
  word "function"
  let isGenerator ← attempt (op "*")
  check !((← dialect).strict && isAsync && isGenerator)
  if (← nextWord) != [] then bindingName
  functionRest go isAsync isGenerator false

/-- A class as an expression. -/
def classExpression (go : Go) : Parse Unit := node (.other "class") do
  decorators go
  classRest go true

/-- The word `import`, as a callee or with its property. -/
def importOperand : Parse Unit := do
  if ← comesNext (do word "import"; symbol "(") then node .importWord (word "import")
  else
    node (.other "meta_property") do
      check !(← dialect).strict
      word "import"
      op "."
      word "meta"

/-- `new` with a constructor and arguments, or with its property. -/
def newExpression (go : Go) : Parse Unit := do
  let ctx ← context
  if ← comesNext (do word "new"; op ".") then
    node (.other "meta_property") do
      check (!ctx.dialect.strict || ctx.inFunction)
      word "new"
      op "."
      word "target"
  else
    node (.other "new_expression") do
      word "new"
      go .constructor
      if ctx.dialect.types then perhaps do
        typeArguments go
        check (← startsWith '(')
      if ← startsWith '(' then arguments go

/-- An operand that starts with a word. -/
def wordOperand (go : Go) : Parse Unit := do
  let ctx ← context
  let w ← nextWord
  let single (kind : String) : Parse Unit := node (.other kind) do
    let _ ← anyWord
  match w.asString with
  | "function" => functionExpression go
  | "class" => classExpression go
  | "new" => newExpression go
  | "import" => importOperand
  | "this" => single "this"
  | "null" => single "null"
  | "true" => single "true"
  | "false" => single "false"
  | "super" =>
    single "super"
    if ctx.dialect.strict then
      check ctx.inFunction
      check ((← startsWith '(') || (← startsWith '.') || (← startsWith '['))
  | "async" =>
    if ← comesNext (do word "async"; sameLine; word "function") then functionExpression go
    else identifier
  | _ => identifier

/-- An operand. -/
def operand (go : Go) : Parse Unit := do
  operandTrivia
  match ← ahead with
  | [] => failure
  | c :: _ =>
    if c.is '(' then parenthesized go
    else if c.is '[' then arrayLiteral go
    else if c.is '\x7b' then objectLiteral go
    else if c.is '\x60' then template go .expression
    else if c.is '"' || c.is '\x27' then stringLiteral
    else if c.is '/' then regex
    else if c.isDigit || c.is '.' then number
    else if c.is '<' then go .element
    else if c.is '@' then classExpression go
    else if c.is '#' then
      privateName
      check (← atWord "in")
    else wordOperand go

/-! ## Calls and members -/

/-- The number of arguments of the call that is being finished. -/
def argumentCount : Parse Nat := do
  return ((← last?).map (·.expressions.length)).getD 0

/-- The arguments of a call whose callee was read last.  In strict modules `import` takes
    exactly one. -/
def callRest (go : Go) : Parse Unit := do
  let isImport := (← lastKind) == .importWord
  let strict := (← dialect).strict
  extend .call (some .callee) do
    inField .arguments (arguments go)
    check (!(strict && isImport) || (← argumentCount) == 1)

/-- The template behind a tag that was read last. -/
def taggedRest (go : Go) : Parse Unit := do
  if (← dialect).strict then
    extend (.other "tagged_template") none do
      trivia
      template go .expression
  else
    extend .call (some .callee) do
      trivia
      inField .arguments (template go .expression)

/-- A member behind a dot. -/
def dotName : Parse Unit := do
  if ← startsWith '#' then privateName
  else
    node (.other "property_identifier") do
      let _ ← anyWord

/-- A subscript behind what was read last. -/
def subscriptRest (go : Go) : Parse Unit := do
  symbol "["
  inBrackets (go .expression)
  symbol "]"

/-- Type arguments behind what was read last, and the call they belong to. -/
def instantiationRest (go : Go) : Parse Unit :=
  (do
    extend .call (some .callee) do
      typeArguments go
      check ((← startsWith '(') || (← startsWith '\x60'))
      if ← startsWith '(' then inField .arguments (arguments go)
      else
        trivia
        inField .arguments (template go .expression))
    <|> (do
      extend (.other "instantiation_expression") none do
        typeArguments go
        match ← ahead with
        | [] => return
        | c :: _ => check (")]\x7d,;:.".toList.any fun p => c.is p))

/-- What follows `?.`. -/
def optionalRest (go : Go) : Parse Unit := do
  let after := do
    op "?."
    ahead
  match ← lookahead after with
  | c :: _ =>
    if c.is '(' then
      extend .call (some .callee) do
        op "?."
        inField .arguments (arguments go)
    else if c.is '[' then
      extend (.other "subscript_expression") none do
        op "?."
        subscriptRest go
    else if c.is '\x60' then
      extend .call (some .callee) do
        op "?."
        trivia
        inField .arguments (template go .expression)
    else if c.is '<' then
      extend .call (some .callee) do
        op "?."
        typeArguments go
        inField .arguments (arguments go)
    else
      extend (.other "member_expression") none do
        op "?."
        dotName
  | [] => failure

/-- Members, subscripts and calls behind what was read last. -/
def suffixes (go : Go) (calls : Bool) : Parse Unit := repeated do
  let types := (← dialect).types
  match ← nextOp with
  | "." =>
    extend (.other "member_expression") none do
      op "."
      dotName
    return true
  | "?." =>
    optionalRest go
    return true
  | "[" =>
    extend (.other "subscript_expression") none (subscriptRest go)
    return true
  | "(" =>
    if calls then callRest go
    return calls
  | "\x60" =>
    taggedRest go
    return true
  | "!" =>
    if types && !(← breaks) then
      extend (.other "non_null_expression") none (symbol "!")
      return true
    return false
  | "<" => if types && calls then attempt (instantiationRest go) else return false
  | "<<" => if types && calls then attempt (instantiationRest go) else return false
  | _ => return false

/-- What may be called, with the calls of it. -/
def callee (go : Go) : Parse Unit := do
  operand go
  suffixes go true

/-- What stands between `new` and its arguments. -/
def constructorName (go : Go) : Parse Unit := do
  operand go
  if (← lastKind) == .importWord then
    check !(← dialect).strict
    callRest go
  suffixes go false

/-! ## Operators -/

/-- Kinds of nodes that may be assigned to. -/
def isTarget (k : Cst.Kind) : Bool :=
  k == .identifier || k == .other "undefined" || k == .other "member_expression"
    || k == .other "subscript_expression" || k == .other "parenthesized_expression"
    || k == .other "non_null_expression"

/-- An operand with increments and decrements behind it. -/
def postfixed (go : Go) : Parse Unit := do
  callee go
  let o ← nextOp
  if (o == "++" || o == "--") && !(← breaks) then
    check (!(← dialect).strict || isTarget (← lastKind))
    extend (.other "update_expression") none (op o)

/-- A unary operator and its operand. -/
def unary (go : Go) : Parse Unit := do
  operandTrivia
  let ctx ← context
  let strict := ctx.dialect.strict
  let o ← nextOp
  if o == "!" || o == "~" || o == "+" || o == "-" then
    node (.other "unary_expression") do
      op o
      go .unary
  else if o == "++" || o == "--" then
    node (.other "update_expression") do
      op o
      go .unary
      check (!strict || isTarget (← lastKind))
  else if o == "<" && ctx.dialect.types && !ctx.dialect.jsx then
    node (.other "type_assertion") do
      typeArguments go
      go .unary
  else
    match (← nextWord).asString with
    | "typeof" => keyword "typeof"
    | "void" => keyword "void"
    | "delete" =>
      node (.other "unary_expression") do
        word "delete"
        go .unary
        check (!strict || (← lastKind) != .identifier)
    | "await" =>
      let awaited := node (.other "await_expression") do
        check (!strict || ctx.isAsync)
        word "await"
        go .unary
      if strict then awaited else awaited <|> postfixed go
    | _ => postfixed go
where
  /-- An operator that is a word. -/
  keyword (w : String) : Parse Unit := node (.other "unary_expression") do
    word w
    go .unary

/-- The binary operators that are punctuators. -/
def binaryOperators : List String :=
  ["||", "&&", "??", "|", "^", "&", "==", "!=", "===", "!==", "<", ">", "<=", ">=", "<<", ">>",
   ">>>", "+", "-", "*", "/", "%", "**"]

/-- Binary operators with their right operands behind what was read last. -/
def binaryRest (go : Go) : Parse Unit :=
  repeated do
    let ctx ← context
    let o ← nextOp
    if binaryOperators.contains o then
      check !(ctx.dialect.strict && o == "**" && (← lastKind) == .other "unary_expression")
      extend (.other "binary_expression") none do
        op o
        unary go
      return true
    else
      match (← nextWord).asString with
      | "instanceof" =>
        extend (.other "binary_expression") none do
          word "instanceof"
          unary go
        return true
      | "in" =>
        if ctx.noIn then return false
        extend (.other "binary_expression") none do
          word "in"
          unary go
        return true
      | "as" => converted "as"
      | "satisfies" => converted "satisfies"
      | _ => return false
where
  /-- A type behind an operand. -/
  converted (w : String) : Parse Bool := do
    if !(← dialect).types || (← breaks) then return false
    extend (.other "as_expression") none do
      word w
      if ← attempt (word "const") then return
      go .type
    return true

/-- Operands with binary operators between them. -/
def binary (go : Go) : Parse Unit := do
  unary go
  binaryRest go

/-- The choice between two that may follow what was read last. -/
def choiceRest (go : Go) : Parse Unit := do
  if ← atOp "?" then
    extend (.other "ternary_expression") none do
      op "?"
      let first (noReturnType : Bool) : Parse Unit := do
        within (fun ctx => { ctx with noIn := false, noReturnType }) (go .assignment)
        op ":"
      if (← dialect).types then first false <|> first true else first false
      go .assignment

/-- An operand, or a choice between two. -/
def conditional (go : Go) : Parse Unit := do
  binary go
  choiceRest go

/-! ## Functions with arrows -/

/-- The arrow of a function and what it gives. -/
def arrowBody (go : Go) (isAsync : Bool) : Parse Unit := do
  if (← dialect).strict then sameLine
  op "=>"
  if ← startsWith '\x7b' then functionBody go isAsync false
  else within (fun ctx => { ctx with isAsync, isGenerator := false }) (go .assignment)

/-- A function with an arrow. -/
def arrowFunction (go : Go) : Parse Unit := node (.other "arrow_function") do
  let types := (← dialect).types
  let isAsync ← attempt do
    word "async"
    sameLine
    check ((← nextWord) != [] || (← startsWith '(') || (← startsWith '<'))
  if (← startsWith '(') || (types && (← startsWith '<')) then
    typeParameters? go
    within (fun ctx => { ctx with isAsync, isGenerator := false }) (parameters go)
    if types && (← atOp ":") then returnType go
  else bindingName
  arrowBody go isAsync

/-- A function with an arrow and what applies to it.  Outside the strict dialect a body in braces
    may be followed by whatever follows an operand. -/
def arrowOperand (go : Go) : Parse Unit := do
  arrowFunction go
  if !(← dialect).strict then
    suffixes go true
    binaryRest go
    choiceRest go

/-- Whether a function with an arrow and a bare parameter comes next. -/
def atBareArrow : Parse Bool := do
  let bare := do
    let _ ← identifierWord
    check (← atOp "=>")
  let asynchronous := do
    word "async"
    sameLine
    bare
  return (← comesNext bare) || (← comesNext asynchronous)

/-! ## Assignments -/

/-- The assignment operators. -/
def assignmentOperators : List String :=
  ["=", "+=", "-=", "*=", "/=", "%=", "<<=", ">>=", ">>>=", "&=", "^=", "|=", "**=", "&&=", "||=",
   "??="]

/-- A pattern that is assigned to. -/
def target (go : Go) : Parse Unit :=
  (do
    if ← startsWith '[' then arrayPattern go .target
    else if ← startsWith '\x7b' then objectPattern go .target
    else failure
    let o ← nextOp
    check (o != "." && o != "[" && o != "("))
    <|> (do
      callee go
      check (isTarget (← lastKind)))

/-- An assignment to a pattern. -/
def patternAssignment (go : Go) : Parse Unit := node (.other "assignment_expression") do
  check ((← startsWith '[') || (← startsWith '\x7b'))
  target go
  op "="
  go .assignment

/-- A parse from an earlier cursor in place of what was read since, if it succeeds. -/
def insteadFrom (start : Cursor) (p : Parse Unit) : Parse Unit := fun ctx c =>
  match p ctx start with
  | some r => some r
  | none => some ((), c)

/-- A choice, or an assignment to what may be assigned to. -/
def plainAssignment (go : Go) : Parse Unit := do
  let ctx ← context
  let start ← cursor
  conditional go
  let o ← nextOp
  check (o != "=>")
  if assignmentOperators.contains o then
    check (isTarget (← lastKind))
    extend (.other "assignment_expression") none do
      op o
      go .assignment
  else if o == ":" && ctx.dialect.types && !ctx.noReturnType then
    if (← lastKind) == .other "parenthesized_expression" || (← lastKind) == .call then
      insteadFrom start (arrowOperand go)

/-- `yield` and what it gives. -/
def yieldExpression (go : Go) : Parse Unit := node (.other "yield_expression") do
  let ctx ← context
  check (!ctx.dialect.strict || ctx.isGenerator)
  word "yield"
  perhaps do
    sameLine
    perhaps (op "*")
    go .assignment

/-- An expression without commas at its top. -/
def assignment (go : Go) : Parse Unit := do
  operandTrivia
  if ← atBareArrow then arrowOperand go
  else if ← atWord "yield" then yieldExpression go
  else plainAssignment go <|> arrow <|> patternAssignment go
where
  /-- A function with an arrow, where parentheses or type parameters start one. -/
  arrow : Parse Unit := do
    check ((← startsWith '(') || (← startsWith '<') || (← atWord "async"))
    arrowOperand go

/-- An expression, with commas. -/
def expression (go : Go) : Parse Unit := do
  operandTrivia
  go .assignment
  repeated do
    if ← atOp "," then
      extend (.other "sequence_expression") none do
        op ","
        go .assignment
      return true
    return false

end ImportScan.Script
