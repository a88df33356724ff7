import ImportScan.Script.Goal

/-! # Templates, arguments, names of properties

    The parts of the grammar that expressions, classes and types share.
-/

namespace ImportScan.Script

open Parse

/-- A template literal.  Its text is read as it stands; a hole holds an expression, or a type. -/
def template (go : Go) (hole : Goal) : Parse Unit := node .template do
  exactly "\x60"
  repeated do
    let ctx ← context
    let c ← cursor
    match templateTextFrom ctx.dialect (ctx.budget + 1) [] c.rest with
    | none => failure
    | some (read, after) =>
      consume read.reverse after
      if ← attempt (exactly "\x60") then return false
      node .substitution do
        exactly "$\x7b"
        within (fun ctx => { ctx with noIn := false, noReturnType := false }) (go hole)
        symbol "\x7d"
      return true

/-- The arguments of a call.  Outside strict modules an argument may be left out. -/
def arguments (go : Go) : Parse Unit := node (.other "arguments") do
  symbol "("
  within (fun ctx => { ctx with noIn := false, noReturnType := false }) do
    commaSeparated ")" do
      operandTrivia
      if (← atOp ",") && !(← dialect).strict then return
      if ← atOp "..." then
        node (.other "spread_element") do
          op "..."
          go .assignment
      else if !(← startsWith ')') then go .assignment
  symbol ")"

/-- A computed name of a property. -/
def computedName (go : Go) : Parse Unit := node (.other "computed_property_name") do
  symbol "["
  within (fun ctx => { ctx with noIn := false, noReturnType := false }) (go .assignment)
  symbol "]"

/-- The name of a property: a word, a string, a number or an expression in brackets. -/
def propertyName (go : Go) : Parse Unit := do
  if ← startsWith '[' then computedName go
  else if ← atString then stringLiteral
  else if (← nextWord) != [] then
    node (.other "property_identifier") do
      let _ ← anyWord
  else number

/-- The name of a private member. -/
def privateName : Parse Unit := node (.other "private_property_identifier") do
  check !(← dialect).strict
  exactly "#"
  let ctx ← context
  match wordAt ctx.dialect ctx.budget (← cursor).rest with
  | some (raw, after) => consume raw after
  | none => failure

/-- Whether the name of a member comes next. -/
def atMemberName : Parse Bool := do
  if (← nextWord) != [] then return true
  let rest ← ahead
  match rest with
  | c :: _ => return c.is '[' || c.is '"' || c.is '\x27' || c.is '#' || c.is '*' || c.isDigit
  | [] => return false

end ImportScan.Script
