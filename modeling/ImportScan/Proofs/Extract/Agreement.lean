import ImportScan.Proofs.Extract.Cst
import ImportScan.Proofs.Extract.Estree

/-! # Agreement of the two extractors

    A program has many concrete syntax trees and many ESTrees.  All of them have the same
    records, or all of them fail for the same argument of an import call.

    * `extractors_agree` : whatever the program and whichever two trees encode it.
-/

namespace ImportScan

/-- A concrete syntax tree and an ESTree of one program have the same records, unless an import
    call has a first argument that names nothing; then both report it. -/
theorem extractors_agree (o : Origin) {program : List Term} {bytes : Bytes} {root : Cst.Node}
    {tree : Datum} (hroot : Cst.Represents bytes program root)
    (htree : Estree.Represents program tree) :
    (∃ records, Cst.extract o bytes root = .ok records ∧ Estree.extract o tree = .ok records)
      ∨ (Cst.extract o bytes root = .error (.argument o.path)
        ∧ Estree.extract o tree = .error (.argument o.path)) := by
  rw [Cst.extract_eq hroot, Estree.extract_eq htree]
  obtain ⟨records, hrecords⟩ | herror := Term.extract_cases o program
  · exact .inl ⟨records, hrecords, hrecords⟩
  · exact .inr ⟨herror, herror⟩

/-! ## A program that renames the build-time import -/

namespace Renamed

/-- A declaration that binds the build-time import to `i`, and a call of `i` with a comment and
    a template that has a hole and an escape. -/
def source : Bytes :=
  (Text.ofString
    "import\x7bimportSync as i\x7dfrom'@embroider/macros';i(/**/\x60a$\x7bx\x7d\\x62\x60)").utf8

/-- The template of the call. -/
def template : Term :=
  .template (Text.ofString "a") [(.identifier (Text.ofString "x"), Text.ofString "b")]

def program : List Term :=
  [.importFrom macroModule [(macroName, Text.ofString "i")],
   .other [.nameCall (Text.ofString "i") [template]]]

/-! ### Its concrete syntax tree -/

section Cst

open Cst

/-- A mark of punctuation. -/
def sign (text : String) (start stop : Nat) : Node :=
  .mk { kind := .ofName text, start, stop, isNamed := false } []

def holeNode : Node :=
  .mk { kind := .substitution, start := 55, stop := 59 }
    [sign "$\x7b" 55 57, .mk { kind := .identifier, start := 57, stop := 58 } [],
     sign "\x7d" 58 59]

def argumentsNode : Node :=
  .mk { kind := .other "arguments", start := 48, stop := 65, field := some .arguments }
    [sign "(" 48 49, .mk { kind := .comment, start := 49, stop := 53 } [],
     .mk { kind := .template, start := 53, stop := 64 } [holeNode], sign ")" 64 65]

def callNode : Node :=
  .mk { kind := .call, start := 47, stop := 65 }
    [.mk { kind := .identifier, start := 47, stop := 48, field := some .callee } [], argumentsNode]

def clauseNode : Node :=
  .mk { kind := .importClause, start := 6, stop := 23 }
    [.mk { kind := .namedImports, start := 6, stop := 23 }
      [.mk { kind := .importSpecifier, start := 7, stop := 22 }
        [.mk { kind := .identifier, start := 7, stop := 17, field := some .name } [],
         .mk { kind := .identifier, start := 21, stop := 22, field := some .alias } []]]]

def declarationNode : Node :=
  .mk { kind := .importStatement, start := 0, stop := 47 }
    [sign "import" 0 6, clauseNode, sign "from" 23 27,
     .mk { kind := .string, start := 27, stop := 46, field := some .source } [], sign ";" 46 47]

def root : Node :=
  .mk { kind := .other "program", start := 0, stop := 65 }
    [declarationNode,
     .mk { kind := .other "expression_statement", start := 47, stop := 65 } [callNode]]

theorem sign_trivia (text : String) (start stop : Nat) : Trivia (sign text start stop) :=
  ⟨rfl, .inr rfl⟩

theorem encodes_hole (fit : Fit) :
    Encodes source fit [.identifier (Text.ofString "x")] holeNode.children :=
  .skip (sign_trivia ..) <|
    .term rfl (by decide) (.identifier rfl rfl) rfl nofun .nil (.skip (sign_trivia ..) .nil)

theorem encodes_arguments (fit : Fit) : Encodes source fit [template] argumentsNode.children := by
  refine .skip (sign_trivia ..) <| .skip ⟨rfl, .inl rfl⟩ <|
    .term rfl (by decide) (.template rfl (.before rfl (.last rfl))) rfl ?_ ?_
      (.skip (sign_trivia ..) .nil)
  · exact List.forall_mem_singleton.mpr (encodes_hole .exact)
  · exact .around trivial (encodes_hole .loose) .nil

theorem encodes_call :
    Encodes source .loose [.nameCall (Text.ofString "i") [template]] [callNode] := by
  refine .term rfl (by decide) (.nameCall rfl rfl rfl rfl rfl) rfl ?_ ?_ .nil
  · exact List.forall_mem_singleton.mpr (encodes_arguments .exact)
  · exact .beside trivial .nil (.around trivial (encodes_arguments .loose) .nil)

theorem encodes_declaration : Encodes source .loose [] declarationNode.children :=
  .skip (sign_trivia ..) <|
    .beside trivial
      (.beside trivial
        (.beside trivial (.beside trivial .nil (.beside trivial .nil .nil)) .nil) .nil) <|
    .skip (sign_trivia ..) <| .beside trivial .nil <| .skip (sign_trivia ..) .nil

theorem root_represents : Represents source program root := by
  refine ⟨trivial, .term rfl (by decide) (.importFrom rfl rfl rfl ?_) rfl nofun
    encodes_declaration (.term rfl (by decide) (.other trivial (by decide)) rfl nofun
      encodes_call .nil)⟩
  exact .cons ⟨_, rfl, rfl, rfl⟩ .nil

end Cst

/-! ### Its ESTree -/

section Estree

open Estree

/-- A node of a type. -/
def node (type : String) (fields : List (String × Datum)) : Datum :=
  .map ((.str "type", .str type) :: fields.map fun f => (.str f.1, f.2))

def identifierNode (name : String) : Datum := node "Identifier" [("name", .str name)]

def quasi (cooked : String) : Datum :=
  node "TemplateElement" [("value", .map [(.str "cooked", .str cooked)])]

def templateNode : Datum :=
  node "TemplateLiteral"
    [("quasis", .list [quasi "a", quasi "b"]), ("expressions", .list [identifierNode "x"])]

def expressionNode : Datum :=
  node "CallExpression" [("callee", identifierNode "i"), ("arguments", .list [templateNode])]

def importNode : Datum :=
  node "ImportDeclaration"
    [("specifiers", .list [node "ImportSpecifier"
      [("imported", identifierNode "importSync"), ("local", identifierNode "i")]]),
     ("source", node "Literal" [("value", .text macroModule)])]

def body : List Datum := [importNode, node "ExpressionStatement" [("expression", expressionNode)]]

def tree : Datum := node "Program" [("body", .list body)]

theorem isOfType_node (type : String) (fields : List (String × Datum)) :
    isOfType (node type fields) type = true :=
  isOfType_iff.mpr rfl

theorem encodes_expression (fit : Fit) :
    Encodes fit [.identifier (Text.ofString "x")] [identifierNode "x"] :=
  .term (.identifier (isOfType_node ..) rfl) rfl nofun .nil .nil

theorem silent_node {type : String} {fields : List (String × Datum)}
    (h : type ∉ ["ImportDeclaration", "ExportNamedDeclaration", "ImportExpression",
      "CallExpression"]) : Silent (node type fields) :=
  silent_of_isOfType (isOfType_node type fields) h

theorem encodes_templateNode (fit : Fit) : Encodes fit [template] [templateNode] := by
  have hinside : children templateNode = [quasi "a", quasi "b", identifierNode "x"] := rfl
  refine .term (.template (isOfType_node ..) rfl rfl rfl) rfl ?_ ?_ .nil
  · exact List.forall_mem_singleton.mpr (encodes_expression .exact)
  · rw [hinside]
    exact .beside (silent_node (by decide)) .nil <|
      .beside (silent_node (by decide)) .nil (encodes_expression .loose)

theorem encodes_expressionNode :
    Encodes .loose [.nameCall (Text.ofString "i") [template]] [expressionNode] := by
  have hinside : children expressionNode = [identifierNode "i", templateNode] := rfl
  refine .term (.nameCall (isOfType_node ..) (isOfType_node ..) rfl rfl) rfl ?_ ?_ .nil
  · exact List.forall_mem_singleton.mpr (encodes_templateNode .exact)
  · rw [hinside]
    exact .beside (silent_node (by decide)) .nil (encodes_templateNode .loose)

theorem encodes_body (fit : Fit) : Encodes fit program body := by
  refine .term (.importFrom (isOfType_node ..) rfl rfl ?_) rfl nofun ?_ <|
    .term (.other ?_ rfl rfl nofun) rfl nofun encodes_expressionNode .nil
  · exact .cons ⟨rfl, rfl⟩ .nil
  · exact .beside (silent_node (by decide)) (.beside (silent_node (by decide)) .nil
      (.beside (silent_node (by decide)) .nil .nil)) (.beside (silent_node (by decide)) .nil .nil)
  · exact silent_node (by decide)

theorem tree_represents : Represents program tree :=
  ⟨silent_node (by decide), ⟨body, rfl, encodes_body .exact⟩, encodes_body .loose⟩

end Estree

/-- Where the program stands. -/
def origin : Origin :=
  { path := Text.ofString "a.js"
    package :=
      { name := .str "p", root := Text.ofString "/p", extensions := defaultExtensions,
        parser := .treeSitter, options := .null, version := .null, treeType := none } }

/-- The declaration, and the template with the hint of its hole and its escape resolved. -/
def records : List Import :=
  [origin.record false (.literal (.text macroModule)),
   origin.record false (.template (.str "a") [(.str "x", .str "b")])]

end Renamed

theorem extractors_agree_renamed :
    Cst.Represents Renamed.source Renamed.program Renamed.root
      ∧ Estree.Represents Renamed.program Renamed.tree
      ∧ Cst.extract Renamed.origin Renamed.source Renamed.root = .ok Renamed.records
      ∧ Estree.extract Renamed.origin Renamed.tree = .ok Renamed.records := by
  have hcst : Cst.extract Renamed.origin Renamed.source Renamed.root = .ok Renamed.records := by
    rw [Cst.extract_eq Renamed.root_represents]
    rfl
  refine ⟨Renamed.root_represents, Renamed.tree_represents, hcst, ?_⟩
  obtain ⟨records, hroot, htree⟩ | ⟨hroot, -⟩ :=
    extractors_agree Renamed.origin Renamed.root_represents Renamed.tree_represents
  · rw [htree, ← hroot, hcst]
  · rw [hcst] at hroot
    cases hroot

end ImportScan
