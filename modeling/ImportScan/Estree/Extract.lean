import ImportScan.Walk

/-! # Imports of an ESTree program

    A program is a datum: nodes are mappings with a `type`, their fields hold scalars, nodes
    and lists.  Nothing is known about its shape, so every field may be missing or of a wrong
    kind; a missing field reads as null.

    * `Estree.macroBindings` : the local names of the build-time import.
    * `Estree.visit`         : the record that one node gives, if any.
    * `Estree.children`      : the nodes in the fields of a node.
    * `Estree.preorder`      : a node and all nodes below it.
    * `Estree.extract`       : the records of a program, parents before children and fields in
                               their order.
-/

namespace ImportScan.Estree

/-- Whether a datum is a text equal to a literal. -/
def isWord (d : Datum) (word : String) : Bool := d == .str word

/-- Whether a datum is a node: a mapping with a text as its type. -/
def isNode (d : Datum) : Bool :=
  match d.field "type" with
  | .text _ => true
  | _ => false

/-- Whether a datum is a node of a type. -/
def isOfType (d : Datum) (type : String) : Bool := isWord (d.field "type") type

/-- The items of a field; null and other data that count as switched off have none. -/
def itemsOf (d : Datum) : Except Fault (List Datum) :=
  if d.truthy then
    match d.items? with
    | some items => .ok items
    | none => .error (.notIterable d)
  else .ok []

/-- A datum that may be the member of a set. -/
def member (d : Datum) : Except Fault Datum :=
  if d.isScalar then .ok d else .error (.unhashable d)

/-! ## Names bound to the build-time import -/

/-- The local name that a binding from a module gives to the build-time import, if it does. -/
def specifierBinding (module spec : Datum) : Except Fault (List Datum) :=
  if isOfType spec "ImportSpecifier" then do
    let imported := spec.field "imported"
    let module ← member module
    let name ← member ((imported.field "name").orElse (imported.field "value"))
    if module == .text macroModule && name == .text macroName then
      return [← member ((spec.field "local").field "name")]
    else return []
  else .ok []

/-- The names that one statement binds to the build-time import. -/
def statementBindings (statement : Datum) : Except Fault (List Datum) :=
  if isOfType statement "ImportDeclaration" then do
    let module := (statement.field "source").field "value"
    let found ← (← itemsOf (statement.field "specifiers")).mapM (specifierBinding module)
    return found.flatten
  else .ok []

/-- The names that the statements of a program bind to the build-time import. -/
def macroBindings (program : Datum) : Except Fault (List Datum) := do
  let found ← (← itemsOf (program.field "body")).mapM statementBindings
  return found.flatten

/-! ## Arguments of import calls -/

/-- The items of a field that has to be there. -/
def requiredItems (d : Datum) : Except Fault (List Datum) :=
  match d.items? with
  | some items => .ok items
  | none => .error (.notIterable d)

/-- What an argument of an import call names. -/
def argumentTarget (path : Text) (argument : Datum) : Except Fault Target :=
  let value := argument.field "value"
  match isOfType argument "Literal" || isOfType argument "StringLiteral", value with
  | true, .text t => .ok (.literal (.text t))
  | _, _ =>
    if isOfType argument "TemplateLiteral" then do
      let quasis := (← requiredItems (argument.field "quasis")).map fun q =>
        (q.field "value").field "cooked"
      let hints := (← requiredItems (argument.field "expressions")).map fun e =>
        if isOfType e "Identifier" then e.field "name" else .null
      Target.ofParts path quasis hints
    else .error (.argument path)

/-- The first argument of a call. -/
def firstArgument (path : Text) (call : Datum) : Except Fault Datum :=
  match call.field "arguments" with
  | .list (first :: _) => .ok first
  | .text (c :: _) => .ok (.text [c])
  | .map (e :: es) =>
    match (e :: es).find? (·.1 == .int 0) with
    | some (_, v) => .ok v
    | none => .error (.missingKey (.int 0))
  | d =>
    if d.truthy then
      .error (.wrongKind (Text.concat [d.kindName.quoted, " object is not subscriptable"]))
    else .error (.argument path)

/-! ## The walk -/

/-- The record of a call, if it imports something. -/
def visitCall (o : Origin) (names : List Datum) (call : Datum) : Except Fault (Option Import) :=
  let callee := call.field "callee"
  if isOfType callee "Import" then do
    let target ← argumentTarget o.path (← firstArgument o.path call)
    return some (o.record true target)
  else if isOfType callee "Identifier" then do
    let name ← member (callee.field "name")
    if names.any (· == name) then
      let target ← argumentTarget o.path (← firstArgument o.path call)
      return some (o.record false target)
    else return none
  else .ok none

/-- The record that one node gives, if any. -/
def visit (o : Origin) (names : List Datum) (node : Datum) : Except Fault (Option Import) :=
  if isOfType node "ImportDeclaration" then
    .ok (some (o.record false (.literal ((node.field "source").field "value"))))
  else if isOfType node "ExportNamedDeclaration" then
    match node.field "source" with
    | .null => .ok none
    | source => .ok (some (o.record false (.literal (source.field "value"))))
  else if isOfType node "ImportExpression" then do
    let target ← argumentTarget o.path (node.field "source")
    return some (o.record true target)
  else if isOfType node "CallExpression" then visitCall o names node
  else .ok none

/-- The nodes that a value in a field holds: the value itself, or the nodes in a list. -/
def nodesIn : Datum → List Datum
  | .list items => items.filter isNode
  | d => if isNode d then [d] else []

/-- The nodes in the fields of a node, in the order of the fields. -/
def children : Datum → List Datum
  | .map entries => entries.flatMap fun entry => nodesIn entry.2
  | _ => []

mutual

/-- A node and all nodes below it, parents before children. -/
def preorder : Datum → List Datum
  | .map entries => .map entries :: preorderFields entries
  | d => [d]

/-- The nodes in fields and all nodes below them. -/
def preorderFields : List (Datum × Datum) → List Datum
  | [] => []
  | (_, value) :: rest => preorderValue value ++ preorderFields rest

/-- The nodes in a value and all nodes below them. -/
def preorderValue : Datum → List Datum
  | .list items => preorderItems items
  | .map entries =>
    if isNode (.map entries) then .map entries :: preorderFields entries else []
  | _ => []

/-- The nodes among the items of a list and all nodes below them. -/
def preorderItems : List Datum → List Datum
  | [] => []
  | d :: rest => (if isNode d then preorder d else []) ++ preorderItems rest

end

theorem preorderItems_eq (items : List Datum) :
    preorderItems items = (items.filter isNode).flatMap preorder := by
  induction items with
  | nil => rfl
  | cons d rest ih => cases h : isNode d <;> simp [preorderItems, h, ih]

theorem preorderValue_eq (d : Datum) : preorderValue d = (nodesIn d).flatMap preorder := by
  cases d with
  | list items => rw [preorderValue, nodesIn, preorderItems_eq]
  | map entries =>
    cases h : isNode (.map entries) <;> simp [preorderValue, nodesIn, preorder, h]
  | _ => simp [preorderValue, nodesIn, isNode, Datum.field]

theorem preorderFields_eq (entries : List (Datum × Datum)) :
    preorderFields entries = (children (.map entries)).flatMap preorder := by
  induction entries with
  | nil => rfl
  | cons entry rest ih =>
    obtain ⟨key, value⟩ := entry
    simp only [children] at ih
    simp [preorderFields, preorderValue_eq, ih, children]

theorem preorder_eq (d : Datum) : preorder d = d :: (children d).flatMap preorder := by
  cases d with
  | map entries => rw [preorder, preorderFields_eq]
  | _ => simp [preorder, children]

/-- Nodes branch into the nodes in their fields. -/
def branching : Branching Datum := { children, preorder, preorder_eq }

/-- The imports of a program, in source order.  The program has to be a mapping. -/
def extract (o : Origin) (program : Datum) : Except Fault (List Import) := do
  let names ← macroBindings program
  match program with
  | .map entries => Walk.drain branching (visit o names) [] [.map entries]
  | _ => .error (.wrongKind (Text.ofString "vars() argument must have __dict__ attribute"))

end ImportScan.Estree
