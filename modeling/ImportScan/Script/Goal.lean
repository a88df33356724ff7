import ImportScan.Script.Token

/-! # Goals

    The nonterminals that refer to each other.  A production takes the parse of every goal as
    an argument; `Script.parseGoal` ties them together.
-/

namespace ImportScan.Script

/-- What is to be parsed. -/
inductive Goal where
  /-- A statement, or a declaration in a list of statements. -/
  | item
  /-- A statement on its own, as the body of a loop. -/
  | statement
  /-- Statements between braces. -/
  | block
  /-- An expression, with commas. -/
  | expression
  /-- An expression without commas at its top. -/
  | assignment
  /-- A unary operator and its operand. -/
  | unary
  /-- What may be called, with the calls of it. -/
  | callee
  /-- What stands between `new` and its arguments. -/
  | constructor
  /-- A pattern that binds names. -/
  | binding
  /-- A pattern that is assigned to. -/
  | target
  /-- A type. -/
  | type
  /-- A type without binary operators at its top. -/
  | unaryType
  /-- A JSX element. -/
  | element
deriving Repr, DecidableEq

/-- The parse of every goal. -/
abbrev Go := Goal → Parse Unit

namespace Parse

/-- Items with commas between them up to a closing punctuator, which is not read; a comma may
    stand after the last one. -/
def commaSeparated (closing : String) (item : Parse Unit) : Parse Unit := repeated do
  if ← comesNext (symbol closing) then return false
  item
  if ← attempt (op ",") then return true
  check (← comesNext (symbol closing))
  return false

end Parse

end ImportScan.Script
