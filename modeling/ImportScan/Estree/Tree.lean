import ImportScan.Datum.Basic
import ImportScan.Script.Program

/-! # ESTree programs of sources

    A strict module as an ESTree program.  The nodes that the scanner looks at have their
    standard shape; every other node keeps its children in source order.  Parentheses leave no
    trace, and identifiers and literals have their values.
-/

namespace ImportScan.Estree

/-- The code points of a text between two octet offsets. -/
def between (start stop : Nat) (offset : Nat) : Text → Text
  | [] => []
  | c :: rest =>
    let next := offset + c.utf8Size
    if stop ≤ offset then []
    else if start ≤ offset then c :: between start stop next rest
    else between start stop next rest

/-- The source text of an offset range. -/
def sourceText (source : Text) (start stop : Nat) : Text := between start stop 0 source

/-- The value of raw text; surrogate escapes stay separate code points. -/
def cooked (raw : Text) : Text :=
  match Escape.values (Escape.tokens raw.normalizeNewlines) with
  | .ok t => t
  | .error _ => raw

/-- A node with a type and fields. -/
def record (type : String) (fields : List (String × Datum)) : Datum :=
  .map ((.str "type", .str type) :: fields.map fun (k, v) => (.str k, v))

/-- A literal with the value of a string. -/
def literal (source : Text) (n : Cst.Node) : Datum :=
  record "Literal" [("value", .text (cooked (sourceText source (n.start + 1) (n.stop - 1))))]

/-- An identifier. -/
def identifier (source : Text) (n : Cst.Node) : Datum :=
  record "Identifier" [("name", .text (Script.plainWord (sourceText source n.start n.stop)))]

/-- One binding between the braces of an import. -/
def importSpecifier (source : Text) (spec : Cst.Node) : Datum :=
  let name := ((spec.child? .name).map (identifier source)).getD .null
  let bound := ((spec.child? .alias).map (identifier source)).getD name
  record "ImportSpecifier" [("local", bound), ("imported", name)]

/-- The bindings of an import between braces. -/
def importSpecifiers (source : Text) (statement : Cst.Node) : List Datum :=
  ((statement.children.filter (·.kind == .importClause)).flatMap fun clause =>
    (clause.children.filter (·.kind == .namedImports)).flatMap fun names =>
      (names.children.filter (·.kind == .importSpecifier)).map (importSpecifier source))

/-- An import declaration. -/
def importDeclaration (source : Text) (statement : Cst.Node) : Datum :=
  record "ImportDeclaration"
    [("specifiers", .list (importSpecifiers source statement)),
     ("source", ((statement.child? .source).map (literal source)).getD .null)]

/-- The text segments of a template from an offset on. -/
def quasis (source : Text) (stop : Nat) : Nat → List Cst.Node → List Datum
  | start, [] => [segment start stop]
  | start, hole :: rest => segment start hole.start :: quasis source stop hole.stop rest
where
  /-- One segment. -/
  segment (start stop : Nat) : Datum :=
    record "TemplateElement"
      [("value", .map [(.str "cooked", .text (cooked (sourceText source start stop)))])]

/-- The single expression of a pair of parentheses or a hole. -/
def only (items : List Datum) : Datum := items.headD .null

mutual

/-- The ESTree node of a node. -/
def ofNode (source : Text) : Cst.Node → Datum
  | .mk info children =>
    let n : Cst.Node := .mk info children
    match info.kind with
    | .importStatement => importDeclaration source n
    | .exportStatement =>
      if children.any (·.kind == .star) then record "ExportAllDeclaration" []
      else
        record "ExportNamedDeclaration"
          [("declaration", .list (ofNodes source children)),
           ("source", ((n.child? .source).map (literal source)).getD .null)]
    | .call =>
      match ofNodes source children with
      | callee :: rest =>
        record "CallExpression"
          [("callee", callee), ("arguments", ((rest.head?).map (·.field "children")).getD (.list []))]
      | [] => .null
    | .importWord => record "Import" []
    | .identifier => identifier source n
    | .string => literal source n
    | .template =>
      let holes := children.filter (·.kind == .substitution)
      record "TemplateLiteral"
        [("quasis", .list (quasis source (info.stop - 1) (info.start + 1) holes)),
         ("expressions", .list (ofNodes source children))]
    | .substitution => only (ofNodes source children)
    | .other name =>
      if name == "parenthesized_expression" then only (ofNodes source children)
      else record name [("children", .list (ofNodes source children))]
    | kind => record kind.name [("children", .list (ofNodes source children))]

/-- The ESTree nodes of nodes, comments left out. -/
def ofNodes (source : Text) : List Cst.Node → List Datum
  | [] => []
  | n :: ns => if n.kind == .comment then ofNodes source ns else ofNode source n :: ofNodes source ns

end

/-- The program of a source, if the source is a strict module. -/
def program? (jsx : Bool) (source : Text) : Option Datum :=
  match Script.parse (.module jsx) source with
  | .mk info children =>
    if info.hasError then none
    else some (record "Program" [("body", .list (ofNodes source children))])

end ImportScan.Estree
