import ImportScan.Script.Parse
import ImportScan.Escape

/-! # Tokens

    Words, punctuators, strings, numbers and regular expressions.
-/

namespace ImportScan.Script

open Parse

/-! ## Words -/

/-- An escaped code point in a word, as written, and what follows. -/
def wordEscape? (d : Dialect) (start : Bool) (t : Text) : Option (Text × Text) :=
  match t with
  | b :: u :: rest =>
    if b.is '\\' && u.is 'u' then
      match Escape.numeric? (u :: rest) with
      | some (n, after) =>
        let c := CodePoint.ofNat n
        if !d.strict || (if start then d.isWordStart c else d.isWordPart c) then
          some (t.take (t.length - after.length), after)
        else none
      | none => none
    else none
  | _ => none

/-- The rest of a word, reversed onto what was read, and what follows. -/
def wordFrom (d : Dialect) : Nat → Text → Text → Text × Text
  | 0, read, t => (read, t)
  | _ + 1, read, [] => (read, [])
  | n + 1, read, c :: rest =>
    if d.isWordPart c then wordFrom d n (c :: read) rest
    else if c.is '\\' then
      match wordEscape? d false (c :: rest) with
      | some (raw, after) => wordFrom d n (raw.reverse ++ read) after
      | none => (read, c :: rest)
    else (read, c :: rest)

/-- The word that a text starts with, as written, and what follows. -/
def wordAt (d : Dialect) (budget : Nat) (t : Text) : Option (Text × Text) :=
  match t with
  | [] => none
  | c :: rest =>
    let found :=
      if d.isWordStart c then some (wordFrom d budget [c] rest)
      else if c.is '\\' then
        (wordEscape? d true t).map fun (raw, after) => wordFrom d budget raw.reverse after
      else none
    found.map fun (read, after) => (read.reverse, after)

/-- Words that are never identifiers. -/
def reserved : List Text :=
  ["break", "case", "catch", "class", "const", "continue", "debugger", "default", "delete", "do",
   "else", "enum", "export", "extends", "false", "finally", "for", "function", "if", "import",
   "in", "instanceof", "new", "null", "return", "super", "switch", "this", "throw", "true", "try",
   "typeof", "var", "void", "while", "with"].map Text.ofString

/-- Words that are no identifiers in strict modules. -/
def strictReserved : List Text :=
  ["await", "implements", "interface", "let", "package", "private", "protected", "public",
   "static", "yield"].map Text.ofString

/-- The word with its escapes resolved. -/
def plainWord (raw : Text) : Text :=
  if raw.any (·.is '\\') then
    match Escape.values (Escape.tokens raw) with
    | .ok t => t
    | .error _ => raw
  else raw

/-- Whether a word may be an identifier. -/
def isIdentifier (d : Dialect) (raw : Text) : Bool :=
  if d.strict then
    let t := plainWord raw
    !reserved.contains t && !strictReserved.contains t
  else !reserved.contains raw

namespace Parse

/-- The next word, as written; empty when something else comes next. -/
def nextWord : Parse Text := do
  let ctx ← context
  return ((wordAt ctx.dialect ctx.budget (← ahead)).map (·.1)).getD []

/-- Whether a given word comes next. -/
def atWord (w : String) : Parse Bool := do return (← nextWord) == Text.ofString w

/-- Reads any word. -/
def anyWord : Parse Text := do
  trivia
  let ctx ← context
  match wordAt ctx.dialect ctx.budget (← cursor).rest with
  | some (raw, after) =>
    consume raw after
    return raw
  | none => failure

/-- Reads a given word. -/
def word (w : String) : Parse Unit := do check ((← anyWord) == Text.ofString w)

/-- Reads one of several words. -/
def wordOf (ws : List String) : Parse Unit := do
  let w ← anyWord
  check (ws.any fun s => Text.ofString s == w)

/-- Reads a word that may be an identifier. -/
def identifierWord : Parse Text := do
  let w ← anyWord
  check (isIdentifier (← dialect) w)
  return w

/-- Reads an identifier as a node. -/
def identifier : Parse Unit := do
  trivia
  let undefinedNext ← atWord "undefined"
  let strict := (← dialect).strict
  node (if undefinedNext && !strict then .other "undefined" else .identifier) do
    let _ ← identifierWord

/-- Reads a name that is bound, as a node. -/
def bindingName : Parse Unit := node .identifier do
  let _ ← identifierWord

end Parse

/-! ## Punctuators -/

/-- The punctuators of more than one character, longest first. -/
def longPunctuators : List (Text × String) :=
  [">>>=", "...", "===", "!==", "**=", "<<=", ">>=", ">>>", "&&=", "||=", "??=", "=>", "==", "!=",
   "<=", ">=", "&&", "||", "??", "?.", "++", "--", "+=", "-=", "*=", "/=", "%=", "&=", "|=", "^=",
   "<<", ">>", "**"].map fun s => (Text.ofString s, s)

/-- The punctuators that strict modules do not have. -/
def newPunctuators : List String := ["&&=", "||=", "??=", "??", "?."]

/-- The punctuator that a text starts with; a single character stands for itself. -/
def punctuatorAt (d : Dialect) (t : Text) : String :=
  let fits (p : Text × String) : Bool :=
    p.1.isPrefixOf t
      && !(d.strict && newPunctuators.contains p.2)
      && !(p.2 == "?." && ((t.drop 2).head?.map CodePoint.isDigit).getD false)
  match longPunctuators.find? fits with
  | some p => p.2
  | none => (Text.asString (t.take 1))

namespace Parse

/-- The punctuator that comes next. -/
def nextOp : Parse String := do return punctuatorAt (← dialect) (← ahead)

/-- Whether a given punctuator comes next. -/
def atOp (s : String) : Parse Bool := do return (← nextOp) == s

/-- Reads a punctuator. -/
def op (s : String) : Parse Unit := do
  check (← atOp s)
  symbol s

end Parse

/-! ## Literals -/

/-- How many code points an escape has, its backslash not counted; none when it is malformed. -/
def escapeSize? (d : Dialect) (inTemplate : Bool) (t : Text) : Option Nat :=
  match t with
  | [] => none
  | c :: rest =>
    if c.is 'u' || c.is 'x' then
      (Escape.numeric? t).bind fun (n, after) =>
        if d.strict && 0x10FFFF < n then none else some (t.length - after.length)
    else if c.is '\r' then some (if (rest.head?.map (·.is '\n')).getD false then 2 else 1)
    else if d.strict then
      if c.is '0' then
        let bad (x : CodePoint) : Bool := if inTemplate then x.isDigit else x.isBetween '0' '7'
        if (rest.head?.map bad).getD false then none else some 1
      else if c.isBetween '1' '7' || (!inTemplate && c.isDigit) then none
      else some 1
    else some 1

/-- A string behind its opening quote, up to and with the closing one, reversed, and what
    follows. -/
def stringFrom (d : Dialect) (quote : CodePoint) : Nat → Text → Text → Option (Text × Text)
  | 0, _, _ => none
  | _ + 1, _, [] => none
  | n + 1, read, c :: rest =>
    if c = quote then some (c :: read, rest)
    else if c.is '\\' then
      (escapeSize? d false rest).bind fun size =>
        stringFrom d quote n ((rest.take size).reverse ++ c :: read) (rest.drop size)
    else if c.is '\n' || c.is '\r' || (d.strict && (c.val == 0x2028 || c.val == 0x2029)) then none
    else stringFrom d quote n (c :: read) rest

/-- The text of a template up to the closing mark or the next hole, reversed, and what follows. -/
def templateTextFrom (d : Dialect) : Nat → Text → Text → Option (Text × Text)
  | 0, _, _ => none
  | _ + 1, _, [] => none
  | n + 1, read, c :: rest =>
    if c.is '\x60' then some (read, c :: rest)
    else if c.is '$' && (rest.head?.map (·.is '\x7b')).getD false then some (read, c :: rest)
    else if c.is '\\' then
      (escapeSize? d true rest).bind fun size =>
        templateTextFrom d n ((rest.take size).reverse ++ c :: read) (rest.drop size)
    else templateTextFrom d n (c :: read) rest

/-- A regular expression behind its opening slash, up to and with the closing one, reversed,
    and what follows. -/
def regexFrom (inClass : Bool) (read : Text) : Text → Option (Text × Text)
  | [] => none
  | [c] => if !inClass && c.is '/' then some (c :: read, []) else none
  | c :: d :: rest =>
    if Dialect.endsComment c then none
    else if c.is '\\' then
      if Dialect.endsComment d then none else regexFrom inClass (d :: c :: read) rest
    else if inClass then regexFrom (!c.is ']') (c :: read) (d :: rest)
    else if c.is '[' then regexFrom true (c :: read) (d :: rest)
    else if c.is '/' then some (c :: read, d :: rest)
    else regexFrom false (c :: read) (d :: rest)

/-- Digits with separators between them (no separators in strict modules), and what follows. -/
def digitsFrom (strict : Bool) (isDigit : CodePoint → Bool) (t : Text) : Text × Text :=
  let inside (c : CodePoint) : Bool := isDigit c || (!strict && c.is '_')
  (t.takeWhile inside, t.dropWhile inside)

/-- The exponent that a text starts with, if any, and what follows. -/
def exponentAt (strict : Bool) (t : Text) : Option (Text × Text) :=
  match t with
  | e :: rest =>
    if e.is 'e' || e.is 'E' then
      let (sign, more) :=
        match rest with
        | s :: more => if s.is '+' || s.is '-' then ([s], more) else ([], rest)
        | [] => ([], [])
      match digitsFrom strict CodePoint.isDigit more with
      | ([], _) => none
      | (ds, after) => some (e :: (sign ++ ds), after)
    else some ([], t)
  | [] => some ([], [])

/-- The number that a text starts with, and what follows. -/
def numberAt (d : Dialect) (t : Text) : Option (Text × Text) :=
  let suffix (read after : Text) : Option (Text × Text) :=
    match after with
    | n :: more => if !d.strict && n.is 'n' then some (read ++ [n], more) else some (read, after)
    | [] => some (read, after)
  let radix (z x : CodePoint) (rest : Text) (isDigit : CodePoint → Bool) : Option (Text × Text) :=
    match digitsFrom d.strict isDigit rest with
    | ([], _) => none
    | (ds, after) => suffix (z :: x :: ds) after
  let decimal : Option (Text × Text) :=
    let (whole, rest) := digitsFrom d.strict CodePoint.isDigit t
    let (fraction, rest) :=
      match rest with
      | dot :: more =>
        if dot.is '.' then
          let (ds, after) := digitsFrom d.strict CodePoint.isDigit more
          (dot :: ds, after)
        else ([], rest)
      | [] => ([], [])
    if whole.isEmpty && fraction.length < 2 then none
    else (exponentAt d.strict rest).bind fun (e, after) => suffix (whole ++ fraction ++ e) after
  let found :=
    match t with
    | z :: x :: rest =>
      if z.is '0' && (x.is 'x' || x.is 'X') then radix z x rest CodePoint.isHexDigit
      else if z.is '0' && (x.is 'o' || x.is 'O') then radix z x rest (·.isBetween '0' '7')
      else if z.is '0' && (x.is 'b' || x.is 'B') then radix z x rest (·.isBetween '0' '1')
      else if d.strict && z.is '0' && x.isDigit then none
      else decimal
    | _ => decimal
  found.bind fun (read, after) =>
    if d.strict && (after.head?.map d.isWordStart).getD false then none else some (read, after)

namespace Parse

/-- Reads a string literal as a node. -/
def stringLiteral : Parse Unit := node .string do
  let ctx ← context
  match (← cursor).rest with
  | q :: rest =>
    check (q.is '"' || q.is '\x27')
    match stringFrom ctx.dialect q (ctx.budget + 1) [q] rest with
    | some (read, after) => consume read.reverse after
    | none => failure
  | [] => failure

/-- Whether a string literal comes next. -/
def atString : Parse Bool := do return (← startsWith '"') || (← startsWith '\x27')

/-- Reads a number as a node. -/
def number : Parse Unit := node (.other "number") do
  match numberAt (← dialect) (← cursor).rest with
  | some (read, after) => consume read after
  | none => failure

/-- Reads a regular expression as a node. -/
def regex : Parse Unit := node (.other "regex") do
  match (← cursor).rest with
  | slash :: rest =>
    check (slash.is '/')
    match regexFrom false [slash] rest with
    | some (read, after) =>
      let flags := after.takeWhile (·.isBetween 'a' 'z')
      consume (read.reverse ++ flags) (after.dropWhile (·.isBetween 'a' 'z'))
    | none => failure
  | [] => failure

/-- Reads an HTML comment as a node, where an operand may start. -/
def htmlComment : Parse Unit := node (.other "html_comment") do
  let d ← dialect
  check !d.strict
  let rest := (← cursor).rest
  check ((Text.ofString "<!--").isPrefixOf rest || (Text.ofString "-->").isPrefixOf rest)
  let newline := (← cursor).newline
  consume (rest.takeWhile (!Dialect.endsComment ·)) (rest.dropWhile (!Dialect.endsComment ·))
  moveTo { (← cursor) with newline }

/-- Skips blanks and comments, HTML comments included, where an operand may start. -/
def operandTrivia : Parse Unit := do
  repeated (attempt htmlComment)

/-- Reads a semicolon, or does without one at the end of a line, block or file. -/
def semicolon : Parse Unit := do
  if ← attempt (symbol ";") then return
  let rest ← ahead
  match rest with
  | [] => return
  | c :: more =>
    if c.is '}' then return
    sameLineOr c more
where
  /-- Outside strict modules, a line that starts with an operator continues the one before. -/
  sameLineOr (c : CodePoint) (more : Text) : Parse Unit := do
    check (← breaks)
    unless (← dialect).strict do
      let next (p : CodePoint → Bool) : Bool := (more.head?.map p).getD false
      check !("\x60,:;*%><=[(?^|&/".toList.any fun p => c.is p)
      check (!c.is '.' || next CodePoint.isDigit)
      check (!c.is '+' || next (·.is '+'))
      check (!c.is '-' || next (·.is '-'))
      check (!c.is '!' || !next (·.is '='))

end Parse

end ImportScan.Script
