import ImportScan.Script.Pattern

/-! # JSX

    Elements with attributes and children.
-/

namespace ImportScan.Script

open Parse

/-- Whether a code point may stand in a name of an element or attribute. -/
def isNamePart (d : Dialect) (c : CodePoint) : Bool := d.isWordPart c || c.is '-'

/-- A simple name. -/
def simpleName : Parse Text := do
  trivia
  let d ← dialect
  let rest := (← cursor).rest
  check ((rest.head?.map d.isWordStart).getD false)
  let name := rest.takeWhile (isNamePart d)
  consume name (rest.dropWhile (isNamePart d))
  return name

/-- The rest of a name: parts behind dots, or one behind a colon. -/
def nameRest (read : Text) : Nat → Parse Text
  | 0 => return read
  | n + 1 => do
    if ← attempt (symbol ".") then nameRest (read ++ Text.ofChar '.' ++ (← simpleName)) n
    else if ← attempt (symbol ":") then return read ++ Text.ofChar ':' ++ (← simpleName)
    else return read

/-- The name of an element. -/
def elementName : Parse Text := do
  let budget := (← context).budget
  nameRest (← simpleName) budget

/-- An expression between braces, which may be missing. -/
def container (go : Go) : Parse Unit := node (.other "jsx_expression") do
  symbol "\x7b"
  if ← attempt (op "...") then go .assignment
  else if !(← startsWith '\x7d') then go .expression
  symbol "\x7d"

/-- A string without escapes. -/
def rawString : Parse Unit := node (.other "jsx_string") do
  match (← cursor).rest with
  | q :: rest =>
    check (q.is '"' || q.is '\x27')
    match rest.dropWhile (· != q) with
    | _ :: after => consume (q :: (rest.takeWhile (· != q) ++ [q])) after
    | [] => failure
  | [] => failure

/-- An attribute of an element. -/
def elementAttribute (go : Go) : Parse Unit := node (.other "jsx_attribute") do
  if ← startsWith '\x7b' then
    symbol "\x7b"
    op "..."
    go .assignment
    symbol "\x7d"
  else
    let _ ← simpleName
    perhaps do
      symbol ":"
      let _ ← simpleName
    if ← attempt (symbol "=") then
      if ← atString then
        trivia
        rawString
      else if ← startsWith '\x7b' then container go
      else go .element

/-- Whether a text starts with a character reference. -/
def isReference (t : Text) : Bool :=
  let body := (t.drop 1).takeWhile fun c => !c.is ';'
  let closed := !((t.drop 1).dropWhile fun c => !c.is ';').isEmpty
  let letter (c : CodePoint) : Bool := c.isBetween 'a' 'z' || c.isBetween 'A' 'Z'
  closed && !body.isEmpty && body.length ≤ 30
    && (match body with
        | h :: rest =>
          if h.is '#' then
            (match rest with
             | x :: digits =>
               if x.is 'x' || x.is 'X' then !digits.isEmpty && digits.all CodePoint.isHexDigit
               else rest.all CodePoint.isDigit
             | [] => false)
          else body.all letter
        | [] => false)

/-- Whether every ampersand of a text starts a character reference. -/
def hasReferencesOnly : Text → Bool
  | [] => true
  | c :: rest => (!c.is '&' || isReference (c :: rest)) && hasReferencesOnly rest

/-- Text between elements. -/
def elementText : Parse Unit := do
  let c ← cursor
  let isText (x : CodePoint) : Bool := !x.is '<' && !x.is '\x7b'
  let text := c.rest.takeWhile isText
  let strict := (← dialect).strict
  unless strict do
    check !(text.any fun x => x.is '>' || x.is '\x7d')
    check (hasReferencesOnly text)
  consume text (c.rest.dropWhile isText)

/-- The children of an element, up to its closing tag. -/
def children (go : Go) : Parse Unit := repeated do
  elementText
  let c ← cursor
  match c.rest with
  | x :: _ =>
    if x.is '\x7b' then
      container go
      return true
    else if ← comesNext (do symbol "<"; symbol "/") then return false
    else
      go .element
      return true
  | [] => failure

/-- The attributes of an element. -/
def attributes (go : Go) : Parse Unit := repeated do
  if (← startsWith '>') || (← startsWith '/') then return false
  elementAttribute go
  return true

/-- A JSX element. -/
def element (go : Go) : Parse Unit := node (.other "jsx_element") do
  let d ← dialect
  check d.jsx
  symbol "<"
  if ← attempt (symbol ">") then
    check !d.strict
    children go
    symbol "<"
    symbol "/"
    symbol ">"
  else
    let name ← elementName
    if d.types && (← startsWith '<') then typeArguments go
    attributes go
    if ← attempt (symbol "/") then symbol ">"
    else
      symbol ">"
      children go
      symbol "<"
      symbol "/"
      let closing ← elementName
      check (!d.strict || name == closing)
      symbol ">"

end ImportScan.Script
