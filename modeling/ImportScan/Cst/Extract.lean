import ImportScan.Cst.Node
import ImportScan.Cst.Source
import ImportScan.Walk

/-! # Imports of a concrete syntax tree

    The records of a tree, in source order: import declarations, re-exports of names, dynamic
    imports, and calls of a name that the file binds to the build-time import.

    * `Cst.macroBindings` : those local names.
    * `Cst.visit`         : the record that one node gives, if any.
    * `Cst.branching`     : the children of a node, which the walk comes to next.
    * `Cst.extract`       : the records of a whole tree.
-/

namespace ImportScan.Cst

/-- The source text of a node. -/
def textOf (bytes : Bytes) (n : Node) : Except Fault Text := textBetween bytes n.start n.stop

/-- The value of a string literal: what stands between its quotes. -/
def stringValue (bytes : Bytes) (n : Node) : Except Fault Text :=
  cookedBetween bytes (n.start + 1) (n.stop - 1)

/-! ## Names bound to the build-time import -/

/-- The name that a binding imports. -/
def importedName (bytes : Bytes) (name : Node) : Except Fault Text :=
  if name.kind == .string then stringValue bytes name else textOf bytes name

/-- The local name that a binding from a module gives to the build-time import, if it does. -/
def specifierBinding (bytes : Bytes) (module : Text) (spec : Node) : Except Fault (List Text) :=
  match spec.child? .name with
  | none => .ok []
  | some name => do
    let imported ← importedName bytes name
    if module == macroModule && imported == macroName then
      match spec.child? .alias with
      | some local' => return [← textOf bytes local']
      | none => return [imported]
    else return []

/-- The bindings between braces of an import declaration. -/
def specifiers (statement : Node) : List Node :=
  ((statement.named.filter (·.kind == .importClause)).flatMap fun clause =>
    (clause.named.filter (·.kind == .namedImports)).flatMap fun names =>
      names.named.filter (·.kind == .importSpecifier))

/-- The names that one statement binds to the build-time import. -/
def statementBindings (bytes : Bytes) (statement : Node) : Except Fault (List Text) :=
  if statement.kind == .importStatement then
    match statement.child? .source with
    | none => .ok []
    | some source => do
      let module ← stringValue bytes source
      let found ← (specifiers statement).mapM (specifierBinding bytes module)
      return found.flatten
  else .ok []

/-- The names that the statements of a file bind to the build-time import. -/
def macroBindings (bytes : Bytes) (root : Node) : Except Fault (List Text) := do
  let found ← root.children.mapM (statementBindings bytes)
  return found.flatten

/-! ## Arguments of import calls -/

/-- The name hint of a hole: the identifier it consists of. -/
def holeHint (bytes : Bytes) (hole : Node) : Except Fault Datum :=
  match hole.expressions with
  | first :: _ => if first.kind == .identifier then (textOf bytes first).map .text else .ok .null
  | [] => .ok .null

/-- The segments and hints of a template from an offset on, up to the end of its text. -/
def templateParts (bytes : Bytes) (stop : Int) :
    Nat → List Node → Except Fault (List Datum × List Datum)
  | start, [] => do return ([.text (← cookedBetween bytes start stop)], [])
  | start, hole :: rest => do
    let segment ← cookedBetween bytes start hole.start
    let hint ← holeHint bytes hole
    let (quasis, hints) ← templateParts bytes stop hole.stop rest
    return (.text segment :: quasis, hint :: hints)

/-- The holes of a template. -/
def holes (template : Node) : List Node := template.named.filter (·.kind == .substitution)

/-- What the first argument of an import call names. -/
def argumentTarget (bytes : Bytes) (path : Text) (call : Node) : Except Fault Target :=
  match ((call.child? .arguments).map Node.expressions).getD [] with
  | [] => .error (.argument path)
  | argument :: _ =>
    match argument.kind with
    | .string => do return .literal (.text (← stringValue bytes argument))
    | .template => do
      let (quasis, hints) ←
        templateParts bytes ((argument.stop : Int) - 1) (argument.start + 1) (holes argument)
      Target.ofParts path quasis hints
    | _ => .error (.argument path)

/-! ## The walk -/

/-- The record of a declaration that names a module. -/
def declaration (o : Origin) (bytes : Bytes) (source : Node) : Except Fault (Option Import) := do
  return some (o.record false (.literal (.text (← stringValue bytes source))))

/-- The record that one node gives, if any. -/
def visit (o : Origin) (bytes : Bytes) (names : List Text) (n : Node) :
    Except Fault (Option Import) :=
  match n.kind with
  | .importStatement =>
    match n.child? .source with
    | some source => declaration o bytes source
    | none => .ok none
  | .exportStatement =>
    match n.child? .source with
    | some source =>
      if n.children.any (·.kind == .star) then .ok none else declaration o bytes source
    | none => .ok none
  | .call =>
    match n.child? .callee with
    | some callee =>
      match callee.kind with
      | .importWord => do return some (o.record true (← argumentTarget bytes o.path n))
      | .identifier => do
        if names.contains (← textOf bytes callee) then
          return some (o.record false (← argumentTarget bytes o.path n))
        else return none
      | _ => .ok none
    | none => .ok none
  | _ => .ok none

/-- Nodes branch into their children. -/
def branching : Branching Node where
  children := Node.children
  preorder := Node.preorder
  preorder_eq := Node.preorder_eq

/-- The imports of a tree over its source, in source order. -/
def extract (o : Origin) (bytes : Bytes) (root : Node) : Except Fault (List Import) := do
  let names ← macroBindings bytes root
  Walk.drain branching (visit o bytes names) [] [root]

/-! ## Rejected trees -/

/-- Why a node that is not an error is rejected, if it is. -/
def disabled? (decorators dynamicImport : Bool) (n : Node) : Option SyntaxFault :=
  if !decorators && n.kind == .decorator then some (.decorator n.info.row)
  else if !dynamicImport && n.isDynamicImport then some (.dynamicImport n.info.row)
  else none

/-- Where a node is faulty, if it is. -/
def faulty? (n : Node) : Option SyntaxFault :=
  if n.isFaulty then some (.unexpected n.info.row n.info.column) else none

/-- The cause of rejection that the first faulty node gives. -/
def describeError (root : Node) : SyntaxFault :=
  (Walk.first? branching faulty? [root]).getD .unlocated

/-- Why a tree is rejected, if it is: it holds an error, or a construct that is switched off. -/
def reject? (decorators dynamicImport : Bool) (root : Node) : Option SyntaxFault :=
  if root.info.hasError then some (describeError root)
  else if decorators && dynamicImport then none
  else Walk.first? branching (disabled? decorators dynamicImport) [root]

end ImportScan.Cst
