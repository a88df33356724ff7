import ImportScan.Script.Jsx
import ImportScan.Script.Statement

/-! # Programs

    The productions tied together.  Every step from a goal to one of its parts spends fuel, of
    which there is more than the length of a source can use up.
-/

namespace ImportScan.Script

open Parse

/-- The production of a goal. -/
def production (go : Go) : Goal → Parse Unit
  | .item => item go
  | .statement => statement go
  | .block => block go
  | .expression => expression go
  | .assignment => assignment go
  | .unary => unary go
  | .callee => callee go
  | .constructor => constructorName go
  | .binding => binding go
  | .target => target go
  | .type => typeExpression go
  | .unaryType => unaryType go
  | .element => element go

/-- The parse of a goal within a depth. -/
def parseGoal : Nat → Goal → Parse Unit
  | 0, _ => failure
  | n + 1, goal => production (parseGoal n) goal

/-- The tree of a file that could not be parsed. -/
def failedTree : Cst.Node :=
  .mk { kind := .other "program", hasError := true } [.mk { kind := .error, hasError := true } []]

/-- The syntax tree of a source in a dialect.  A source that the grammar does not accept has
    a tree with an error. -/
def parse (d : Dialect) (source : Text) : Cst.Node :=
  let size := source.length
  match program (parseGoal (16 * size + 64)) { dialect := d, budget := size } { rest := source } with
  | some (_, c) => c.nodes.head?.getD failedTree
  | none => failedTree

end ImportScan.Script
