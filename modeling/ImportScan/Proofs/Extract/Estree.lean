import ImportScan.Proofs.Fault
import ImportScan.Proofs.Extract.Program
import ImportScan.Proofs.Extract.Walk

/-! # ESTree programs

    An ESTree encodes a program when its nodes have the shapes of the terms, up to nodes that
    only hold other nodes together.  Its records are those of the program.

    * `Estree.Spells`     : a node has the shape of a term.
    * `Estree.Encodes`    : nodes encode terms.
    * `Estree.Represents` : a tree encodes a program.
    * `Estree.extract_eq` : its records are those of the program.
-/

namespace ImportScan.Estree

/-! ## Trees that encode programs -/

/-- A node that gives no record and binds no name itself: not a declaration that names a
    module, and neither a dynamic import nor the call of a name. -/
structure Silent (d : Datum) : Prop where
  /-- It is a node. -/
  node : isNode d = true
  /-- It is no import declaration. -/
  declaration : isOfType d "ImportDeclaration" = false
  /-- It exports nothing of another module by name. -/
  reexport : isOfType d "ExportNamedDeclaration" = true → d.field "source" = .null
  /-- It is no dynamic import. -/
  expression : isOfType d "ImportExpression" = false
  /-- It calls neither the word `import` nor a name. -/
  call : isOfType d "CallExpression" = true →
    isOfType (d.field "callee") "Import" = false ∧ isOfType (d.field "callee") "Identifier" = false

/-- A binding gives an imported name, which is an identifier or a string, and a local name. -/
def Binds (binding : Text × Text) (spec : Datum) : Prop :=
  ((spec.field "imported").field "name").orElse ((spec.field "imported").field "value")
      = .text binding.1
    ∧ (spec.field "local").field "name" = .text binding.2

/-- A node has the shape of a term, and the nodes in the last argument stand where the
    expressions of the term do. -/
inductive Spells : Term → Datum → List (List Datum) → Prop where
  | importFrom {source : Text} {bindings : List (Text × Text)} {d : Datum} {specs : List Datum}
      (htype : isOfType d "ImportDeclaration" = true)
      (hvalue : (d.field "source").field "value" = .text source)
      (hspecs : d.field "specifiers" = .list specs)
      (hbinds : List.Forall₂ Binds bindings (specs.filter (isOfType · "ImportSpecifier"))) :
      Spells (.importFrom source bindings) d []
  | exportFrom {source : Text} {d : Datum} (htype : isOfType d "ExportNamedDeclaration" = true)
      (hvalue : (d.field "source").field "value" = .text source) : Spells (.exportFrom source) d []
  | exportLocal {inside : List Term} {d : Datum}
      (htype : isOfType d "ExportNamedDeclaration" = true) (hsource : d.field "source" = .null) :
      Spells (.exportLocal inside) d []
  | exportAll {source : Text} {d : Datum} (htype : isOfType d "ExportAllDeclaration" = true)
      (hvalue : (d.field "source").field "value" = .text source) : Spells (.exportAll source) d []
  | importCall {arguments : List Term} {d : Datum} {list : List Datum}
      (htype : isOfType d "CallExpression" = true)
      (hcallee : isOfType (d.field "callee") "Import" = true)
      (hlist : d.field "arguments" = .list list) : Spells (.importCall arguments) d [list]
  | importExpression {argument : Term} {d : Datum}
      (htype : isOfType d "ImportExpression" = true) :
      Spells (.importCall [argument]) d [[d.field "source"]]
  | nameCall {name : Text} {arguments : List Term} {d : Datum} {list : List Datum}
      (htype : isOfType d "CallExpression" = true)
      (hcallee : isOfType (d.field "callee") "Identifier" = true)
      (hname : (d.field "callee").field "name" = .text name)
      (hlist : d.field "arguments" = .list list) : Spells (.nameCall name arguments) d [list]
  | identifier {name : Text} {d : Datum} (htype : isOfType d "Identifier" = true)
      (hname : d.field "name" = .text name) : Spells (.identifier name) d []
  | string {value : Text} {d : Datum}
      (htype : isOfType d "Literal" = true ∨ isOfType d "StringLiteral" = true)
      (hvalue : d.field "value" = .text value) : Spells (.string value) d []
  | template {first : Text} {parts : List (Term × Text)} {d : Datum}
      {quasis expressions : List Datum} (htype : isOfType d "TemplateLiteral" = true)
      (hquasis : d.field "quasis" = .list quasis)
      (hsegments : (quasis.map fun q => (q.field "value").field "cooked")
        = (first :: parts.map (·.2)).map .text)
      (hexpressions : d.field "expressions" = .list expressions) :
      Spells (.template first parts) d (expressions.map ([·]))
  | other {inside : List Term} {d : Datum} (hsilent : Silent d)
      (hidentifier : isOfType d "Identifier" = false)
      (htemplate : isOfType d "TemplateLiteral" = false)
      (hstring : ∀ t, d.field "value" = .text t →
        isOfType d "Literal" = false ∧ isOfType d "StringLiteral" = false) :
      Spells (.other inside) d []

/-- Nodes encode terms, in the same order.  What stands inside a node encodes what stands
    inside its term, and the expressions of a term are found in their places one by one. -/
inductive Encodes : Fit → List Term → List Datum → Prop where
  | nil {fit : Fit} : Encodes fit [] []
  | hold {d : Datum} {inner ts : List Term} {ds : List Datum} (hsilent : Silent d)
      (hinside : Encodes .loose inner (children d)) (hrest : Encodes .loose ts ds) :
      Encodes .loose (inner ++ ts) (d :: ds)
  | term {fit : Fit} {t : Term} {d : Datum} {places : List (List Datum)} {ts : List Term}
      {ds : List Datum} (hspells : Spells t d places) (hcount : t.groups.length = places.length)
      (hplaces : ∀ p ∈ t.groups.zip places, Encodes .exact p.1 p.2)
      (hinside : Encodes .loose t.inside (children d)) (hrest : Encodes fit ts ds) :
      Encodes fit (t :: ts) (d :: ds)

/-- A tree encodes a program: its root is silent, its body has one node for each statement,
    and there is nothing else of the program in its fields. -/
structure Represents (program : List Term) (tree : Datum) : Prop where
  /-- The root gives no record. -/
  silent : Silent tree
  /-- Statement by statement. -/
  statements : ∃ body, tree.field "body" = .list body ∧ Encodes .exact program body
  /-- All fields together. -/
  inside : Encodes .loose program (children tree)

/-- A silent node that holds nothing of the program may stand anywhere. -/
theorem Encodes.beside {d : Datum} {ts : List Term} {ds : List Datum} (hsilent : Silent d)
    (hinside : Encodes .loose [] (children d)) (hrest : Encodes .loose ts ds) :
    Encodes .loose ts (d :: ds) := .hold hsilent hinside hrest

/-! ## Types -/

theorem ofString_injective : Function.Injective Text.ofString := by
  have hchar : Function.Injective CodePoint.ofChar := by
    intro a b h
    exact Char.toNat_inj.mp (Fin.mk.inj h)
  intro a b h
  exact String.toList_inj.mp (List.map_injective_iff.mpr hchar h)

theorem beq_text_iff {d : Datum} {t : Text} : (d == .text t) = true ↔ d = .text t := by
  change Datum.same d (.text t) = true ↔ _
  cases d <;> simp [Datum.same, Datum.sameScalar]

theorem isOfType_iff {d : Datum} {type : String} :
    isOfType d type = true ↔ d.field "type" = .str type := beq_text_iff

/-- A node of one type is of no other. -/
theorem isOfType_ne {d : Datum} {a b : String} (h : isOfType d a = true) (hne : a ≠ b) :
    isOfType d b = false := by
  rw [← Bool.not_eq_true, isOfType_iff, isOfType_iff.mp h, Datum.str, Datum.str, Datum.text.injEq]
  exact fun heq => hne (ofString_injective heq)

theorem isNode_of_isOfType {d : Datum} {type : String} (h : isOfType d type = true) :
    isNode d = true := by
  rw [isNode, isOfType_iff.mp h, Datum.str]

theorem Spells.isNode {t : Term} {d : Datum} {places : List (List Datum)} (h : Spells t d places) :
    Estree.isNode d = true := by
  cases h with
  | string htype => exact htype.elim isNode_of_isOfType isNode_of_isOfType
  | other hsilent => exact hsilent.node
  | _ => exact isNode_of_isOfType ‹_›

/-- A node is silent by its type alone unless it is a declaration, a dynamic import or a call. -/
theorem silent_of_isOfType {d : Datum} {type : String} (h : isOfType d type = true)
    (hne : type ∉ ["ImportDeclaration", "ExportNamedDeclaration", "ImportExpression",
      "CallExpression"]) : Silent d := by
  simp only [List.mem_cons, List.not_mem_nil, or_false, not_or] at hne
  obtain ⟨hdeclaration, hreexport, hexpression, hcall⟩ := hne
  exact {
    node := isNode_of_isOfType h
    declaration := isOfType_ne h hdeclaration
    reexport := by simp [isOfType_ne h hreexport]
    expression := isOfType_ne h hexpression
    call := by simp [isOfType_ne h hcall] }

/-! ## Arguments -/

theorem Encodes.head {t : Term} {ts : List Term} {ds : List Datum}
    (h : Encodes .exact (t :: ts) ds) :
    ∃ d places rest, ds = d :: rest ∧ Spells t d places ∧ t.groups.length = places.length ∧
      ∀ p ∈ t.groups.zip places, Encodes .exact p.1 p.2 := by
  cases h with
  | term hspells hcount hplaces => exact ⟨_, _, _, rfl, hspells, hcount, hplaces⟩

/-- The hint of a hole. -/
def hintOf (e : Datum) : Datum := if isOfType e "Identifier" then e.field "name" else .null

theorem hintOf_eq {t : Term} {d : Datum} (h : Encodes .exact [t] [d]) : hintOf d = t.hint := by
  obtain ⟨_, places, rest, heq, hspells, -⟩ := h.head
  cases heq
  cases hspells with
  | identifier htype hname => simp [hintOf, htype, hname, Term.hint]
  | other _ hidentifier => simp [hintOf, hidentifier, Term.hint]
  | string htype =>
    obtain htype | htype := htype
    · simp [hintOf, isOfType_ne htype, Term.hint]
    · simp [hintOf, isOfType_ne htype, Term.hint]
  | _ => simp [hintOf, isOfType_ne ‹isOfType d _ = true›, Term.hint]

/-- The expressions of a template give the hints of its terms. -/
theorem hints_of_places {parts : List (Term × Text)} {ds : List Datum}
    (hcount : parts.length = ds.length)
    (hplaces : ∀ p ∈ (parts.map fun part => [part.1]).zip (ds.map ([·])),
      Encodes .exact p.1 p.2) :
    ds.map hintOf = parts.map fun part => part.1.hint := by
  induction ds generalizing parts with
  | nil => rw [List.length_eq_zero_iff.mp hcount, List.map_nil, List.map_nil]
  | cons d ds ih =>
    cases parts with
    | nil => cases hcount
    | cons part parts =>
      simp only [List.map_cons, List.zip_cons_cons, List.forall_mem_cons] at hplaces
      rw [List.map_cons, List.map_cons, hintOf_eq hplaces.1, ih (Nat.succ.inj hcount) hplaces.2]

/-- What an argument names is what the term it encodes names. -/
theorem argumentTarget_eq {path : Text} {t : Term} {ts : List Term} {d : Datum} {rest : List Datum}
    (h : Encodes .exact (t :: ts) (d :: rest)) :
    argumentTarget path d = Term.target path (t :: ts) := by
  obtain ⟨_, places, _, heq, hspells, hcount, hplaces⟩ := h.head
  cases heq
  cases hspells with
  | string htype hvalue =>
    have hliteral : (isOfType d "Literal" || isOfType d "StringLiteral") = true := by
      simpa using htype
    simp [argumentTarget, hliteral, hvalue, Term.target, Term.target?]
  | @template first parts _ _ expressions htype hquasis hsegments hexpressions =>
    have hhints : expressions.map hintOf = parts.map fun part => part.1.hint :=
      hints_of_places (by simpa [Term.groups] using hcount) hplaces
    -- a template is asked for last, after the two types of strings
    have hliteral : (isOfType d "Literal" || isOfType d "StringLiteral") = false := by
      simp [isOfType_ne htype]
    simp only [argumentTarget, hliteral, htype, if_true, hquasis, hexpressions]
    change Target.ofParts path (List.map _ _) (expressions.map hintOf) = _
    rw [hsegments, hhints]
    exact Term.ofParts_template path first parts ts
  | other _ _ htemplate hstring =>
    simp only [argumentTarget, htemplate]
    split
    · -- a literal with a text as its value would be a string
      next t hliteral hvalue =>
      obtain ⟨hplain, hnamed⟩ := hstring t hvalue
      simp [hplain, hnamed] at hliteral
    · rfl
  | _ => simp [argumentTarget, isOfType_ne ‹isOfType d _ = true›, Term.target, Term.target?]

/-- What the first argument of a call names is what the first term names. -/
theorem firstArgument_eq {path : Text} {arguments : List Term} {call : Datum} {list : List Datum}
    (hlist : call.field "arguments" = .list list) (h : Encodes .exact arguments list) :
    (do argumentTarget path (← firstArgument path call)) = Term.target path arguments := by
  cases h with
  | nil => simp only [firstArgument, hlist]; rfl
  | term hspells hcount hplaces hinside hrest =>
    simp only [firstArgument, hlist]
    exact argumentTarget_eq (.term hspells hcount hplaces hinside hrest)

/-! ## The record of a node -/

variable {o : Origin} {names : List Text}

theorem visit_silent {names : List Datum} {d : Datum} (h : Silent d) :
    visit o names d = .ok none := by
  have hcall : isOfType d "CallExpression" = true → visitCall o names d = .ok none := by
    intro htype
    obtain ⟨himport, hidentifier⟩ := h.call htype
    simp [visitCall, himport, hidentifier]
  simp only [visit, h.declaration, h.expression, Bool.false_eq_true, if_false]
  split
  · next hreexport => rw [h.reexport hreexport]
  · split
    · next htype => exact hcall htype
    · rfl

theorem visit_call {names : List Datum} {d : Datum} (h : isOfType d "CallExpression" = true) :
    visit o names d = visitCall o names d := by
  simp [visit, h, isOfType_ne h]

theorem any_beq_text (name : Text) :
    (names.map Datum.text).any (· == .text name) = names.contains name := by
  rw [Bool.eq_iff_iff, List.any_eq_true, List.contains_iff_mem]
  simp only [beq_text_iff, exists_eq_right, List.mem_map, Datum.text.injEq]

/-- A node gives the record of the term it encodes. -/
theorem visit_eq {t : Term} {d : Datum} {places : List (List Datum)} (h : Spells t d places)
    (hplaces : ∀ p ∈ t.groups.zip places, Encodes .exact p.1 p.2) :
    visit o (names.map .text) d = t.own o names := by
  cases h with
  | importFrom htype hvalue => simp [visit, htype, hvalue, Term.own]
  | exportFrom htype hvalue =>
    rw [visit, isOfType_ne htype (by decide), htype]
    -- the source is there, since it has a value
    cases hsource : d.field "source" with
    | null => rw [hsource] at hvalue; cases hvalue
    | _ => rw [hsource] at hvalue; simp [hvalue, Term.own]
  | exportLocal htype hsource => simp [visit, htype, isOfType_ne htype, hsource, Term.own]
  | importCall htype hcallee hlist =>
    have harguments := hplaces _ List.mem_cons_self
    rw [visit_call htype, visitCall, if_pos hcallee, Term.own, ← firstArgument_eq hlist harguments,
      bind_assoc]
  | importExpression htype =>
    have harguments := hplaces _ List.mem_cons_self
    simp [visit, htype, isOfType_ne htype, Term.own, argumentTarget_eq harguments]
  | @nameCall name _ _ _ htype hcallee hname hlist =>
    have harguments := hplaces _ List.mem_cons_self
    have hword : isOfType (d.field "callee") "Import" = false := isOfType_ne hcallee (by decide)
    rw [visit_call htype, visitCall, hword, hcallee, hname, Term.own, ← any_beq_text,
      ← firstArgument_eq hlist harguments, bind_assoc]
    rfl
  | exportAll htype => exact visit_silent (silent_of_isOfType htype (by decide))
  | identifier htype => exact visit_silent (silent_of_isOfType htype (by decide))
  | string htype =>
    exact visit_silent (htype.elim (silent_of_isOfType · (by decide))
      (silent_of_isOfType · (by decide)))
  | template htype => exact visit_silent (silent_of_isOfType htype (by decide))
  | other hsilent => exact visit_silent hsilent

/-! ## Names bound to the build-time import -/

theorem itemsOf_list (items : List Datum) : itemsOf (.list items) = .ok items := by
  cases items <;> rfl

theorem specifierBinding_eq {source : Text} {binding : Text × Text} {spec : Datum}
    (htype : isOfType spec "ImportSpecifier" = true) (h : Binds binding spec) :
    specifierBinding (.text source) spec = .ok ((Term.macroName? source binding).map .text) := by
  obtain ⟨himported, hlocal⟩ := h
  have hsame : (Datum.text source == .text macroModule && Datum.text binding.1 == .text macroName)
      = true ↔ source = macroModule ∧ binding.1 = macroName := by
    rw [Bool.and_eq_true, beq_text_iff, beq_text_iff, Datum.text.injEq, Datum.text.injEq]
  -- both names and the module are texts, so they can be compared
  have hcompare : specifierBinding (.text source) spec =
      if Datum.text source == .text macroModule && Datum.text binding.1 == .text macroName then
        .ok [.text binding.2]
      else .ok [] := by
    simp only [specifierBinding, htype, himported, hlocal, if_true]
    rfl
  rw [hcompare, Term.macroName?]
  by_cases hmacro : source = macroModule ∧ binding.1 = macroName
  · rw [if_pos (hsame.mpr hmacro), if_pos hmacro]
    rfl
  · rw [if_neg (mt hsame.mp hmacro), if_neg hmacro]
    rfl

theorem specifiers_bindings {source : Text} {bindings : List (Text × Text)} {specs : List Datum}
    (h : List.Forall₂ Binds bindings (specs.filter (isOfType · "ImportSpecifier"))) :
    ∃ found, specs.mapM (specifierBinding (.text source)) = .ok found
      ∧ found.flatten = (bindings.flatMap (Term.macroName? source)).map .text := by
  induction specs generalizing bindings with
  | nil =>
    cases h
    exact ⟨[], rfl, rfl⟩
  | cons spec specs ih =>
    cases htype : isOfType spec "ImportSpecifier" with
    | false =>
      rw [List.filter_cons_of_neg (by simp [htype])] at h
      obtain ⟨found, hfound, hflat⟩ := ih h
      exact ⟨[] :: found, mapM_cons_ok (by simp [specifierBinding, htype]) hfound, hflat⟩
    | true =>
      rw [List.filter_cons_of_pos (by simp [htype])] at h
      cases h with
      | cons hbinds hrest =>
        obtain ⟨found, hfound, hflat⟩ := ih hrest
        refine ⟨_, mapM_cons_ok (specifierBinding_eq htype hbinds) hfound, ?_⟩
        rw [List.flatten_cons, hflat, List.flatMap_cons, List.map_append]

theorem statementBindings_eq {t : Term} {d : Datum} {places : List (List Datum)}
    (h : Spells t d places) : statementBindings d = .ok (t.macroNames.map .text) := by
  cases h with
  | @importFrom source _ _ specs htype hvalue hspecs hbinds =>
    obtain ⟨found, hfound, hflat⟩ : ∃ found,
        specs.mapM (specifierBinding (.text source)) = .ok found ∧ _ := specifiers_bindings hbinds
    rw [statementBindings, if_pos htype, hvalue, hspecs, itemsOf_list]
    change (do
      let found ← specs.mapM (specifierBinding (.text source))
      return found.flatten) = _
    rw [hfound, Term.macroNames, ← hflat]
    rfl
  | other hsilent => simp [statementBindings, hsilent.declaration, Term.macroNames]
  | string htype =>
    obtain htype | htype := htype
    · simp [statementBindings, isOfType_ne htype, Term.macroNames]
    · simp [statementBindings, isOfType_ne htype, Term.macroNames]
  | _ => simp [statementBindings, isOfType_ne ‹isOfType d _ = true›, Term.macroNames]

theorem Encodes.bindings {ts : List Term} {ds : List Datum} (h : Encodes .exact ts ds) :
    ds.mapM statementBindings = .ok (ts.map fun t => t.macroNames.map .text) := by
  induction ds generalizing ts with
  | nil =>
    cases h
    rfl
  | cons d ds ih =>
    cases h with
    | term hspells _ _ _ hrest => exact mapM_cons_ok (statementBindings_eq hspells) (ih hrest)

theorem macroBindings_eq {program : List Term} {tree : Datum} {body : List Datum}
    (hbody : tree.field "body" = .list body) (h : Encodes .exact program body) :
    macroBindings tree = .ok ((program.flatMap Term.macroNames).map .text) := by
  simp only [macroBindings, hbody, itemsOf_list]
  change (do
    let found ← body.mapM statementBindings
    return found.flatten) = _
  rw [h.bindings, List.map_flatMap]
  rfl

/-! ## The walk -/

section Walk

variable {names : List Datum}

/-- The records of a mapping alone: those of the node it is, if it is one. -/
theorem walkItems_map (entries : List (Datum × Datum)) :
    walkItems o names [.map entries]
      = if isNode (.map entries) then walkNode o names entries else .ok [] := by
  rw [walkItems, walkItems]
  split
  · cases walkNode o names entries <;> simp [bind, Except.bind, pure, Except.pure]
  · rfl

theorem walkItems_cons (d : Datum) (ds : List Datum) :
    walkItems o names (d :: ds)
      = Term.gather (.ok none) (walkItems o names [d]) (walkItems o names ds) := by
  cases d with
  | map entries =>
    rw [walkItems_map, walkItems]
    split <;> rfl
  | _ => simp only [walkItems, Term.gather_ok_nil]

theorem walkItems_append (cs ds : List Datum) :
    walkItems o names (cs ++ ds)
      = Term.gather (.ok none) (walkItems o names cs) (walkItems o names ds) := by
  induction cs with
  | nil => rw [List.nil_append, walkItems.eq_1, Term.gather_ok_nil]
  | cons c cs ih =>
    rw [List.cons_append, walkItems_cons, walkItems_cons c cs, ih, Term.gather_assoc]

theorem walkItems_not_node {d : Datum} (h : isNode d = false) :
    walkItems o names [d] = .ok [] := by
  cases d with
  | map entries => simp [walkItems_map, h]
  | _ => simp only [walkItems]

theorem walkItems_filter (ds : List Datum) :
    walkItems o names (ds.filter isNode) = walkItems o names ds := by
  induction ds with
  | nil => rfl
  | cons d ds ih =>
    cases hnode : isNode d with
    | true => rw [List.filter_cons_of_pos hnode, walkItems_cons, ih, ← walkItems_cons]
    | false =>
      rw [List.filter_cons_of_neg (by simp [hnode]), ih, walkItems_cons d, walkItems_not_node hnode,
        Term.gather_ok_nil]

theorem walkValue_eq (d : Datum) : walkValue o names d = walkItems o names (nodesIn d) := by
  cases d with
  | list items => rw [walkValue, nodesIn, walkItems_filter]
  | map entries =>
    cases hnode : isNode (.map entries) <;>
      simp [walkValue, nodesIn, hnode, walkItems_map, walkItems.eq_1]
  | _ => simp [walkValue, nodesIn, isNode, Datum.field, walkItems]

theorem walkFields_eq (entries : List (Datum × Datum)) :
    walkFields o names entries = walkItems o names (children (.map entries)) := by
  rw [children]
  induction entries with
  | nil => simp only [walkFields, List.flatMap_nil, walkItems]
  | cons entry entries ih =>
    obtain ⟨key, value⟩ := entry
    rw [walkFields, List.flatMap_cons, walkItems_append, walkValue_eq, ih]
    rfl

theorem walkItems_node {d : Datum} (h : isNode d = true) (ds : List Datum) :
    walkItems o names (d :: ds)
      = Term.gather (visit o names d) (walkItems o names (children d)) (walkItems o names ds) := by
  cases d with
  | map entries =>
    rw [walkItems, if_pos h, walkNode, walkFields_eq]
    simp only [Term.gather, bind_assoc, pure_bind]
  | _ => cases h

end Walk

/-- The records of nodes are those of the terms they encode. -/
theorem Encodes.walkItems_eq {fit : Fit} {ts : List Term} {ds : List Datum}
    (h : Encodes fit ts ds) :
    walkItems o (names.map .text) ds = Term.recordsAll o names ts := by
  induction h with
  | nil => simp only [walkItems, Term.recordsAll]
  | hold hsilent _ _ ihinside ihrest =>
    -- the node adds nothing to what it holds, and this stands before what follows
    rw [walkItems_node hsilent.node, visit_silent hsilent, ihinside, ihrest,
      Term.recordsAll_append]
  | term hspells _ hplaces _ _ _ ihinside ihrest =>
    rw [walkItems_node hspells.isNode, visit_eq hspells hplaces, ihinside, ihrest,
      Term.recordsAll_cons]

/-- The records of a tree that encodes a program are those of the program. -/
theorem extract_eq {program : List Term} {tree : Datum} (h : Represents program tree) :
    extract o tree = Term.extract o program := by
  obtain ⟨body, hbody, hstatements⟩ := h.statements
  cases tree with
  | map entries =>
    rw [extract_eq_walk, macroBindings_eq hbody hstatements, Term.extract,
      ← h.inside.walkItems_eq, ← walkFields_eq]
    change walkNode o _ entries = _
    rw [walkNode, visit_silent h.silent]
    exact bind_pure (walkFields o _ entries)
  | _ => cases h.silent.node

end ImportScan.Estree
