import ImportScan.Text.Basic

/-! # Concrete syntax trees

    A node covers a span of source octets, has a kind, may stand in a field of its parent,
    and is either named or mere punctuation.

    * `Node.child?`    : the first child in a field.
    * `Node.named`     : the children that are not punctuation.
    * `Node.preorder`  : a node and everything below it, parents before children.
-/

namespace ImportScan.Cst

/-- What a node is.  The kinds that matter to the scanner have constructors of their own. -/
inductive Kind where
  /-- An import declaration. -/
  | importStatement
  /-- An export declaration. -/
  | exportStatement
  /-- The bindings of an import declaration. -/
  | importClause
  /-- The bindings between braces of an import declaration. -/
  | namedImports
  /-- One binding between braces. -/
  | importSpecifier
  /-- A call. -/
  | call
  /-- The word `import` as the callee of a call. -/
  | importWord
  /-- An identifier in an expression. -/
  | identifier
  /-- A string literal. -/
  | string
  /-- A template literal. -/
  | template
  /-- A hole of a template literal. -/
  | substitution
  /-- A comment. -/
  | comment
  /-- A star. -/
  | star
  /-- A decorator. -/
  | decorator
  /-- A place that could not be parsed. -/
  | error
  /-- Any other kind, by its name. -/
  | other (name : String)
deriving Repr, DecidableEq, Inhabited

namespace Kind

/-- The name of a kind. -/
def name : Kind → String
  | .importStatement => "import_statement"
  | .exportStatement => "export_statement"
  | .importClause => "import_clause"
  | .namedImports => "named_imports"
  | .importSpecifier => "import_specifier"
  | .call => "call_expression"
  | .importWord => "import"
  | .identifier => "identifier"
  | .string => "string"
  | .template => "template_string"
  | .substitution => "template_substitution"
  | .comment => "comment"
  | .star => "*"
  | .decorator => "decorator"
  | .error => "ERROR"
  | .other n => n

/-- The kinds with constructors of their own. -/
def known : List Kind :=
  [.importStatement, .exportStatement, .importClause, .namedImports, .importSpecifier, .call,
   .importWord, .identifier, .string, .template, .substitution, .comment, .star, .decorator, .error]

/-- The kind of a name. -/
def ofName (n : String) : Kind := (known.find? (·.name == n)).getD (.other n)

end Kind

/-- The part that a node plays in its parent. -/
inductive Field where
  /-- The module that a declaration names. -/
  | source
  /-- What a call calls. -/
  | callee
  /-- The arguments of a call. -/
  | arguments
  /-- The imported name of a binding. -/
  | name
  /-- The local name of a binding. -/
  | alias
  /-- Any other part, by its name. -/
  | other (name : String)
deriving Repr, DecidableEq, Inhabited

/-- The field of a name. -/
def Field.ofName (n : String) : Field :=
  if n = "source" then .source
  else if n = "function" then .callee
  else if n = "arguments" then .arguments
  else if n = "name" then .name
  else if n = "alias" then .alias
  else .other n

/-- What is known about a node besides its children. -/
structure Info where
  /-- What the node is. -/
  kind : Kind
  /-- The first octet of the node in the source. -/
  start : Nat := 0
  /-- The octet after the last one of the node. -/
  stop : Nat := 0
  /-- The part it plays in its parent. -/
  field : Option Field := none
  /-- Whether it is more than punctuation. -/
  isNamed : Bool := true
  /-- Whether it was made up to go on after an error. -/
  isMissing : Bool := false
  /-- The row it starts in, from zero. -/
  row : Nat := 0
  /-- The octet of that row it starts at. -/
  column : Nat := 0
  /-- Whether an error is reported at or below it. -/
  hasError : Bool := false
deriving Repr, DecidableEq, Inhabited

/-- A node of a concrete syntax tree. -/
inductive Node where
  /-- A node and its children. -/
  | mk (info : Info) (children : List Node)
deriving Repr, Inhabited

namespace Node

/-- What is known about the node. -/
def info : Node → Info
  | .mk i _ => i

/-- The children in source order. -/
def children : Node → List Node
  | .mk _ cs => cs

/-- What the node is. -/
def kind (n : Node) : Kind := n.info.kind

/-- The first octet of the node. -/
def start (n : Node) : Nat := n.info.start

/-- The octet after the last one of the node. -/
def stop (n : Node) : Nat := n.info.stop

/-- The first child in a field. -/
def child? (n : Node) (f : Field) : Option Node := n.children.find? (·.info.field == some f)

/-- The children that are not punctuation. -/
def named (n : Node) : List Node := n.children.filter (·.info.isNamed)

/-- The named children that are not comments. -/
def expressions (n : Node) : List Node := n.named.filter (·.kind != .comment)

/-- Whether the node itself is an error. -/
def isFaulty (n : Node) : Bool := n.kind == .error || n.info.isMissing

/-- A call whose callee is the word `import`. -/
def isDynamicImport (n : Node) : Bool :=
  n.kind == .call && ((n.child? .callee).map (·.kind == .importWord)).getD false

mutual

/-- The node and everything below it, parents before children. -/
def preorder : Node → List Node
  | .mk i cs => .mk i cs :: preorderAll cs

/-- Nodes and everything below them, parents before children. -/
def preorderAll : List Node → List Node
  | [] => []
  | n :: ns => preorder n ++ preorderAll ns

end

theorem preorderAll_eq (ns : List Node) : preorderAll ns = ns.flatMap preorder := by
  induction ns with
  | nil => rfl
  | cons n ns ih => rw [preorderAll, List.flatMap_cons, ih]

theorem preorder_eq (n : Node) : n.preorder = n :: n.children.flatMap preorder := by
  obtain ⟨info, children⟩ := n
  rw [preorder, preorderAll_eq, Node.children]

end Node

end ImportScan.Cst
