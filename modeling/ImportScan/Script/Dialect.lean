import ImportScan.Text.Unicode.Classes

/-! # Dialects

    The grammar is one for all languages that the scanner reads; a dialect switches parts of
    it on and off.

    * `Dialect.javascript`, `Dialect.typescript`, `Dialect.tsx` : current languages without
      early errors.
    * `Dialect.module` : strict ES2017 modules with object rest and spread.
-/

namespace ImportScan.Script

/-- Which parts of the grammar are in force. -/
structure Dialect where
  /-- Type annotations and the other TypeScript constructs. -/
  types : Bool := false
  /-- JSX elements. -/
  jsx : Bool := false
  /-- Strict ES2017 modules: nothing newer, and early errors. -/
  strict : Bool := false
deriving Repr, DecidableEq

namespace Dialect

/-- JavaScript with JSX. -/
def javascript : Dialect := { jsx := true }

/-- TypeScript. -/
def typescript : Dialect := { types := true }

/-- TypeScript with JSX. -/
def tsx : Dialect := { types := true, jsx := true }

/-- Strict modules, with or without JSX. -/
def module (jsx : Bool) : Dialect := { jsx, strict := true }

/-- Whether a code point ends a line, so that a semicolon may be left out after it. -/
def isBreak (d : Dialect) (c : CodePoint) : Bool :=
  c.is '\n' || c.val == 0x2028 || c.val == 0x2029 || (d.strict && c.is '\r')

/-- Whether a code point ends a line comment. -/
def endsComment (c : CodePoint) : Bool :=
  c.is '\n' || c.is '\r' || c.val == 0x2028 || c.val == 0x2029

/-- Whether a code point is white space between tokens. -/
def isSpace (d : Dialect) (c : CodePoint) : Bool :=
  (9 ≤ c.val && c.val ≤ 13) || c.val == 32 || c.val == 0x2028 || c.val == 0x2029
    || c.val == 0xFEFF || (128 ≤ c.val && Unicode.spaceSeparator.contains c)
    || (!d.strict && (c.val == 0x2060 || c.val == 0x200B))

/-- The ASCII characters that no word holds. -/
def isPunctuation (c : CodePoint) : Bool :=
  ":;\x60\"\x27@#.,|^&<=>+-*/\\%?!~()[]\x7b\x7d".toList.any fun p => c.is p

/-- Whether a code point may stand in a word. -/
def isWordPart (d : Dialect) (c : CodePoint) : Bool :=
  if c.val < 128 then
    if d.strict then
      c.isDigit || c.isBetween 'a' 'z' || c.isBetween 'A' 'Z' || c.is '_' || c.is '$'
    else 32 < c.val && !isPunctuation c
  else if d.strict then Unicode.identifierPart.contains c || c.val == 0x200C || c.val == 0x200D
  else !d.isSpace c

/-- Whether a code point may start a word. -/
def isWordStart (d : Dialect) (c : CodePoint) : Bool :=
  if d.strict && 128 ≤ c.val then Unicode.identifierStart.contains c
  else d.isWordPart c && !c.isDigit

end Dialect

/-- What the grammar knows about the place it is at. -/
structure Context where
  /-- The dialect. -/
  dialect : Dialect
  /-- An upper bound for the number of rounds of any repetition. -/
  budget : Nat
  /-- The word `in` is no operator here. -/
  noIn : Bool := false
  /-- A colon after parentheses starts no return type here. -/
  noReturnType : Bool := false
  /-- Inside the body of a function. -/
  inFunction : Bool := false
  /-- Inside a loop. -/
  inLoop : Bool := false
  /-- Inside a switch. -/
  inSwitch : Bool := false
  /-- Inside an asynchronous function. -/
  isAsync : Bool := false
  /-- Inside a generator. -/
  isGenerator : Bool := false
  /-- The labels around. -/
  labels : List Text := []
deriving Repr

/-- The context inside a function. -/
def Context.enterFunction (ctx : Context) (isAsync isGenerator : Bool) : Context :=
  { dialect := ctx.dialect, budget := ctx.budget, inFunction := true, isAsync, isGenerator }

end ImportScan.Script
