import ImportScan.Proofs.Extract.Agreement

/-! # Annotations

    The nodes of a program may carry fields that nothing looks at: places in the source, raw
    texts, lists of tokens.  Every field of a node is searched for further nodes, so such a field
    is passed over for what it holds and not for its name.

    * `Estree.Annotated`    : a program with such fields added to any number of its nodes.
    * `Estree.Regular`      : a node whose fields have the kinds that they have in programs.
    * `Annotated.preorder`  : the walk comes to the same nodes.
    * `Annotated.visit_eq`  : a node gives the same record.
    * `extract_annotated`   : the walk finds the same imports, or fails in the same way.
-/

namespace ImportScan.Estree

/-! ## Added fields -/

/-- The fields of nodes that are looked at by their names. -/
def readNames : List String :=
  ["type", "source", "value", "callee", "name", "body", "specifiers", "imported", "local",
   "arguments", "cooked", "quasis", "expressions"]

/-- A field that nothing looks at: its name is none of those, and its value is neither a node nor
    a list with a node in it. -/
structure Idle (key value : Datum) : Prop where
  unread : ∀ name ∈ readNames, key ≠ .str name
  holdsNone : nodesIn value = []

/-- The entries of a mapping with idle ones added at any places, and with the values of the
    others related. -/
inductive Widened (related : Datum → Datum → Prop) :
    List (Datum × Datum) → List (Datum × Datum) → Prop where
  | nil : Widened related [] []
  | keep {key value value' : Datum} {es fs : List (Datum × Datum)} (hvalue : related value value')
      (hrest : Widened related es fs) : Widened related ((key, value) :: es) ((key, value') :: fs)
  | add {key value : Datum} {es fs : List (Datum × Datum)} (hidle : Idle key value)
      (hrest : Widened related es fs) : Widened related es ((key, value) :: fs)

/-- A datum with idle fields added to any number of the nodes in it, or of other mappings. -/
inductive Annotated : Datum → Datum → Prop where
  | refl (d : Datum) : Annotated d d
  | list {xs ys : List Datum} (h : List.Forall₂ Annotated xs ys) : Annotated (.list xs) (.list ys)
  | map {es fs : List (Datum × Datum)} (h : Widened Annotated es fs) : Annotated (.map es) (.map fs)

namespace Annotated

variable {d d' : Datum}

/-! ## What annotations leave -/

theorem eq_of_isScalar (h : Annotated d d') (hd : d.isScalar = true) : d' = d := by
  cases h with
  | refl => rfl
  | list => cases hd
  | map => cases hd

theorem eq_text_iff (h : Annotated d d') {t : Text} : d' = .text t ↔ d = .text t := by
  cases h <;> simp

/-- Values of a field that is looked at. -/
theorem field {name : String} (h : Annotated d d') (hname : name ∈ readNames) :
    Annotated (d.field name) (d'.field name) := by
  cases h with
  | refl => exact .refl _
  | list => exact .refl _
  | @map es fs h =>
    show Annotated (Datum.lookup es (.str name)) (Datum.lookup fs (.str name))
    induction h with
    | nil => exact .refl _
    | @keep key value value' es fs hvalue _ ih =>
      unfold Datum.lookup at ih ⊢
      cases hkey : key == Datum.str name with
      | true => simpa [hkey] using hvalue
      | false => simpa [hkey] using ih
    | @add key value es fs hidle _ ih =>
      -- the field that is asked for is not the added one
      have hkey : (key == Datum.str name) = false := by
        rw [Bool.eq_false_iff]
        exact fun heq => hidle.unread name hname (beq_text_iff.mp heq)
      unfold Datum.lookup at ih ⊢
      simpa [hkey] using ih

theorem isOfType_eq (h : Annotated d d') (type : String) : isOfType d' type = isOfType d type := by
  rw [Bool.eq_iff_iff, isOfType_iff, isOfType_iff]
  exact (h.field (by decide)).eq_text_iff

theorem isNode_eq (h : Annotated d d') : isNode d' = isNode d := by
  have htype : Annotated (d.field "type") (d'.field "type") := h.field (by decide)
  unfold isNode
  generalize d.field "type" = type, d'.field "type" = type' at htype ⊢
  cases htype <;> rfl

/-! ## The nodes that a walk comes to -/

theorem filter_isNode {xs ys : List Datum} (h : List.Forall₂ Annotated xs ys) :
    List.Forall₂ Annotated (xs.filter isNode) (ys.filter isNode) :=
  List.rel_filter (fun _ _ hd => iff_of_eq (congrArg (· = true) hd.isNode_eq.symm)) h

theorem nodesIn (h : Annotated d d') : List.Forall₂ Annotated (nodesIn d) (nodesIn d') := by
  have hself : ∀ {d}, List.Forall₂ Annotated (Estree.nodesIn d) (Estree.nodesIn d) :=
    List.forall₂_same.mpr fun d _ => .refl d
  cases h with
  | refl => exact hself
  | list h => exact filter_isNode h
  | @map es fs h =>
    have hmap : Annotated (.map es) (.map fs) := .map h
    simp only [Estree.nodesIn, hmap.isNode_eq]
    split
    · exact .cons hmap .nil
    · exact .nil

/-- An added field holds no node, so the children are those of before. -/
theorem children (h : Annotated d d') : List.Forall₂ Annotated (children d) (children d') := by
  cases h with
  | refl => exact List.forall₂_same.mpr fun d _ => .refl d
  | list => exact .nil
  | @map es fs h =>
    show List.Forall₂ Annotated (es.flatMap fun e => Estree.nodesIn e.2)
      (fs.flatMap fun e => Estree.nodesIn e.2)
    induction h with
    | nil => exact .nil
    | keep hvalue _ ih =>
      rw [List.flatMap_cons, List.flatMap_cons]
      exact List.rel_append hvalue.nodesIn ih
    | add hidle _ ih =>
      rw [List.flatMap_cons, hidle.holdsNone, List.nil_append]
      exact ih

/-- The walk comes to the same nodes, in the same order. -/
theorem preorder (d : Datum) :
    ∀ d', Annotated d d' → List.Forall₂ Annotated (preorder d) (preorder d') := by
  induction d using branching.induct with
  | h d ih =>
    intro d' h
    -- the children correspond, and below each of them the nodes do by induction
    have hchildren := (List.forall₂_and_left _ _).mpr ⟨ih, h.children⟩
    rw [preorder_eq, preorder_eq]
    exact .cons h (List.rel_flatMap hchildren fun _ c' hc => hc.1 c' hc.2)

end Annotated

/-! ## Regular programs -/

/-- A list, or nothing at all. -/
inductive Listed : Datum → Prop where
  | absent : Listed .null
  | list (items : List Datum) : Listed (.list items)

instance decidableListed : (d : Datum) → Decidable (Listed d)
  | .null => isTrue .absent
  | .list items => isTrue (.list items)
  | .bool _ => isFalse nofun
  | .int _ => isFalse nofun
  | .real _ => isFalse nofun
  | .text _ => isFalse nofun
  | .moment _ => isFalse nofun
  | .map _ => isFalse nofun

theorem mem_nodesIn_self {d : Datum} (h : isNode d = true) : d ∈ nodesIn d := by
  cases d with
  | map => simp [nodesIn, h]
  | _ => cases h

/-- The nodes in a list are among its items. -/
theorem Listed.mem_nodesIn {type : String} {d c : Datum} (h : Listed d)
    (hc : c ∈ d.items?.getD []) (htype : isOfType c type = true) : c ∈ nodesIn d := by
  cases h with
  | absent => cases hc
  | list => exact List.mem_filter.mpr ⟨hc, isNode_of_isOfType htype⟩

/-- The lists that nodes of a type have. -/
def listFields : List (String × String) :=
  [("ImportDeclaration", "specifiers"), ("CallExpression", "arguments"),
   ("TemplateLiteral", "quasis"), ("TemplateLiteral", "expressions")]

/-- The scalars that nodes of a type have, in a field or in a field of what stands there. -/
def scalarFields : List (String × List String) :=
  [("ImportDeclaration", ["source", "value"]), ("ExportNamedDeclaration", ["source", "value"]),
   ("ImportSpecifier", ["imported", "name"]), ("ImportSpecifier", ["imported", "value"]),
   ("ImportSpecifier", ["local", "name"]), ("Identifier", ["name"])]

/-- What is reached through fields one after the other. -/
def along (path : List String) (d : Datum) : Datum := path.foldl (fun d name => d.field name) d

/-- The text segment of a template that an element of it stands for. -/
def segmentOf (q : Datum) : Datum := along ["value", "cooked"] q

/-- A node whose fields have the kinds that they have in programs.  Only those fields count that
    are looked at in a node of its type. -/
structure Regular (d : Datum) : Prop where
  /-- Its lists are lists, if they are there. -/
  listed : ∀ p ∈ listFields, isOfType d p.1 = true → Listed (d.field p.2)
  /-- Its scalars are scalars. -/
  scalar : ∀ p ∈ scalarFields, isOfType d p.1 = true → (along p.2 d).isScalar = true
  /-- The segments of a template are scalars, too. -/
  cooked : isOfType d "TemplateLiteral" = true →
    ∀ q ∈ (d.field "quasis").items?.getD [], (segmentOf q).isScalar = true

instance (d : Datum) : Decidable (Regular d) :=
  decidable_of_iff
    ((∀ p ∈ listFields, isOfType d p.1 = true → Listed (d.field p.2))
      ∧ (∀ p ∈ scalarFields, isOfType d p.1 = true → (along p.2 d).isScalar = true)
      ∧ (isOfType d "TemplateLiteral" = true →
        ∀ q ∈ (d.field "quasis").items?.getD [], (segmentOf q).isScalar = true))
    ⟨fun ⟨listed, scalar, cooked⟩ => ⟨listed, scalar, cooked⟩,
      fun ⟨listed, scalar, cooked⟩ => ⟨listed, scalar, cooked⟩⟩

/-- A datum with regular nodes only. -/
def Tidy (d : Datum) : Prop := ∀ n ∈ preorder d, Regular n

instance (d : Datum) : Decidable (Tidy d) :=
  inferInstanceAs (Decidable (∀ n ∈ preorder d, Regular n))

namespace Tidy

variable {d : Datum}

theorem regular (h : Tidy d) : Regular d := by
  rw [Tidy, preorder_eq] at h
  exact h d List.mem_cons_self

theorem child {c : Datum} (h : Tidy d) (hc : c ∈ children d) : Tidy c := by
  intro n hn
  refine h n ?_
  rw [preorder_eq]
  exact List.mem_cons_of_mem _ (List.mem_flatMap.mpr ⟨c, hc, hn⟩)

/-- Everything below a node is tidy like it. -/
theorem below (d : Datum) : Tidy d → ∀ n ∈ preorder d, Tidy n := by
  induction d using branching.induct with
  | h d ih =>
    intro h n hn
    rw [preorder_eq] at hn
    obtain rfl | hn := List.mem_cons.mp hn
    · exact h
    · obtain ⟨c, hc, hn⟩ := List.mem_flatMap.mp hn
      exact ih c hc (h.child hc) n hn

/-- A node in a field is a child. -/
theorem inField {name : String} {c : Datum} (h : Tidy d) (hc : c ∈ nodesIn (d.field name)) :
    Tidy c := by
  refine h.child ?_
  cases d with
  | map es =>
    change c ∈ nodesIn ((es.find? fun e => e.1 == .str name).map (·.2) |>.getD .null) at hc
    cases hfound : es.find? fun e => e.1 == .str name with
    | none =>
      rw [hfound] at hc
      cases hc
    | some e =>
      rw [hfound] at hc
      exact List.mem_flatMap.mpr ⟨e, List.mem_of_find?_eq_some hfound, hc⟩
  | _ => cases hc

/-- So is a node among the items of a listed field. -/
theorem inItems {name type : String} {c : Datum} (h : Tidy d) (hd : Listed (d.field name))
    (hc : c ∈ (d.field name).items?.getD []) (htype : isOfType c type = true) : Tidy c :=
  h.inField (hd.mem_nodesIn hc htype)

end Tidy

/-! ## What a walk finds -/

/-- The target of a template in terms of its segments and the hints of its holes. -/
theorem argumentTarget_template {path : Text} {d : Datum}
    (htype : isOfType d "TemplateLiteral" = true) :
    argumentTarget path d = (do
      let quasis ← (requiredItems (d.field "quasis")).map (·.map segmentOf)
      let hints ← (requiredItems (d.field "expressions")).map (·.map hintOf)
      Target.ofParts path quasis hints) := by
  have hliteral : (isOfType d "Literal" || isOfType d "StringLiteral") = false := by
    simp [isOfType_ne htype]
  simp only [argumentTarget, hliteral, htype, if_true]
  cases requiredItems (d.field "quasis") with
  | error => rfl
  | ok =>
    cases requiredItems (d.field "expressions") with
    | error => rfl
    | ok => rfl

namespace Annotated

variable {α : Type} {d d' : Datum} {o : Origin} {path : Text} {names : List Datum}

/-- A list stays a list, item by item. -/
theorem listed (h : Annotated d d') (hd : Listed d) :
    (d = .null ∧ d' = .null)
      ∨ ∃ xs ys, d = .list xs ∧ d' = .list ys
          ∧ List.Forall₂ (fun x y => x ∈ xs ∧ Annotated x y) xs ys := by
  have hmem : ∀ {xs ys}, List.Forall₂ Annotated xs ys →
      List.Forall₂ (fun x y => x ∈ xs ∧ Annotated x y) xs ys :=
    fun h => (List.forall₂_and_left _ _).mpr ⟨fun _ hx => hx, h⟩
  cases hd with
  | absent => exact .inl ⟨rfl, h.eq_of_isScalar rfl⟩
  | list xs =>
    cases h with
    | refl => exact .inr ⟨xs, xs, rfl, rfl, hmem (List.forall₂_same.mpr fun d _ => .refl d)⟩
    | list h => exact .inr ⟨_, _, rfl, rfl, hmem h⟩

theorem along (h : Annotated d d') {path : List String} (hpath : ∀ name ∈ path, name ∈ readNames) :
    Annotated (along path d) (along path d') := by
  induction path generalizing d d' with
  | nil => exact h
  | cons name path ih =>
    obtain ⟨hname, hrest⟩ := List.forall_mem_cons.mp hpath
    exact ih (h.field hname) hrest

/-- The scalars of a node stay as they are. -/
theorem scalar_eq (h : Annotated d d') (hd : Tidy d) (p : String × List String)
    (hp : p ∈ scalarFields) (htype : isOfType d p.1 = true) :
    Estree.along p.2 d = Estree.along p.2 d' := by
  have hread : ∀ p ∈ scalarFields, ∀ name ∈ p.2, name ∈ readNames := by decide
  exact ((h.along (hread p hp)).eq_of_isScalar (hd.regular.scalar p hp htype)).symm

/-! ### Arguments of import calls -/

/-- What is read from each item of a list that has to be there. -/
theorem requiredItems_map {read : Datum → α} (h : Annotated d d') (hd : Listed d)
    (hread : ∀ x ∈ d.items?.getD [], ∀ y, Annotated x y → read x = read y) :
    (requiredItems d).map (·.map read) = (requiredItems d').map (·.map read) := by
  obtain ⟨rfl, rfl⟩ | ⟨xs, ys, rfl, rfl, hitems⟩ := h.listed hd
  · rfl
  · have hmap : List.Forall₂ (fun x y => read x = read y) xs ys :=
      hitems.imp fun x y hxy => hread x hxy.1 y hxy.2
    have hsame : xs.map read = ys.map read := by
      rw [← List.forall₂_eq_eq_eq, List.forall₂_map_left_iff, List.forall₂_map_right_iff]
      exact hmap
    exact congrArg Except.ok hsame

theorem hintOf_eq (h : Annotated d d') (hd : isOfType d "Identifier" = true → Tidy d) :
    hintOf d = hintOf d' := by
  rw [hintOf, hintOf, h.isOfType_eq]
  split
  · next htype => exact h.scalar_eq (hd htype) ("Identifier", ["name"]) (by decide) htype
  · rfl

theorem argumentTarget_eq (h : Annotated d d')
    (hd : isOfType d "TemplateLiteral" = true → Tidy d) :
    argumentTarget path d = argumentTarget path d' := by
  cases htype : isOfType d "TemplateLiteral" with
  | true =>
    have htidy : Tidy d := hd htype
    have hquasis := htidy.regular.listed ("TemplateLiteral", "quasis") (by decide) htype
    have hexpressions := htidy.regular.listed ("TemplateLiteral", "expressions") (by decide) htype
    have hsegments := requiredItems_map (h.field (by decide)) hquasis fun q hq _ hqq' =>
      ((hqq'.along (by decide)).eq_of_isScalar (htidy.regular.cooked htype q hq)).symm
    have hhints := requiredItems_map (h.field (by decide)) hexpressions fun e he _ hee' =>
      hee'.hintOf_eq (htidy.inItems hexpressions he)
    have htype' : isOfType d' "TemplateLiteral" = true := (h.isOfType_eq _).trans htype
    rw [argumentTarget_template htype, argumentTarget_template htype', hhints]
    exact congrArg (· >>= _) hsegments
  | false =>
    -- only a text is taken from a literal, and it is the same
    have hvalue : Annotated (d.field "value") (d'.field "value") := h.field (by decide)
    simp only [argumentTarget, h.isOfType_eq, htype, Bool.false_eq_true, if_false]
    generalize (isOfType d "Literal" || isOfType d "StringLiteral") = isLiteral
    generalize d.field "value" = value, d'.field "value" = value' at hvalue ⊢
    cases hvalue with
    | refl => rfl
    | list => cases isLiteral <;> rfl
    | map => cases isLiteral <;> rfl

/-- What the first argument of a call names. -/
theorem calledTarget_eq (h : Annotated d d') (hd : Tidy d)
    (htype : isOfType d "CallExpression" = true) :
    (firstArgument path d >>= argumentTarget path)
      = (firstArgument path d' >>= argumentTarget path) := by
  have harguments : Annotated (d.field "arguments") (d'.field "arguments") :=
    h.field (by decide)
  have hlisted : Listed (d.field "arguments") :=
    hd.regular.listed ("CallExpression", "arguments") (by decide) htype
  obtain ⟨hnone, hnone'⟩ | ⟨xs, ys, hxs, hys, hitems⟩ := harguments.listed hlisted
  · simp only [firstArgument, hnone, hnone']
  · simp only [firstArgument, hxs, hys]
    cases hitems with
    | nil => rfl
    | @cons x y _ _ hfirst =>
      -- the argument need not be a node, but a template is one
      have hmem : x ∈ (d.field "arguments").items?.getD [] := by
        rw [hxs]
        exact hfirst.1
      exact hfirst.2.argumentTarget_eq (hd.inItems hlisted hmem)

/-! ### The record of a node -/

theorem visitCall_eq (h : Annotated d d') (hd : Tidy d)
    (htype : isOfType d "CallExpression" = true) :
    visitCall o names d = visitCall o names d' := by
  have hcallee : Annotated (d.field "callee") (d'.field "callee") := h.field (by decide)
  have htarget : (firstArgument o.path d >>= argumentTarget o.path) = _ :=
    h.calledTarget_eq hd htype
  have hrecord : ∀ isDynamic, (do
      let target ← argumentTarget o.path (← firstArgument o.path d)
      return some (o.record isDynamic target)) = (do
      let target ← argumentTarget o.path (← firstArgument o.path d')
      return some (o.record isDynamic target)) := by
    intro isDynamic
    rw [← bind_assoc, ← bind_assoc, htarget]
  simp only [visitCall, hcallee.isOfType_eq, hrecord]
  split
  · rfl
  · split
    · next hidentifier =>
      have htidy : Tidy (d.field "callee") :=
        hd.inField (mem_nodesIn_self (isNode_of_isOfType hidentifier))
      have hname : (d.field "callee").field "name" = (d'.field "callee").field "name" :=
        hcallee.scalar_eq htidy ("Identifier", ["name"]) (by decide) hidentifier
      rw [hname]
    · rfl

theorem visit_eq (h : Annotated d d') (hd : Tidy d) :
    visit o names d = visit o names d' := by
  have hsource : Annotated (d.field "source") (d'.field "source") := h.field (by decide)
  simp only [visit, h.isOfType_eq]
  split
  · next htype =>
    have hvalue : (d.field "source").field "value" = (d'.field "source").field "value" :=
      h.scalar_eq hd ("ImportDeclaration", ["source", "value"]) (by decide) htype
    rw [hvalue]
  · split
    · next htype =>
      have hvalue : (d.field "source").field "value" = (d'.field "source").field "value" :=
        h.scalar_eq hd ("ExportNamedDeclaration", ["source", "value"]) (by decide) htype
      generalize d.field "source" = source, d'.field "source" = source' at hsource hvalue ⊢
      cases hsource with
      | refl => rfl
      | list => rfl
      | map => simp only [hvalue]
    · split
      · rw [hsource.argumentTarget_eq fun htemplate =>
          hd.inField (mem_nodesIn_self (isNode_of_isOfType htemplate))]
      · split
        · next htype => exact h.visitCall_eq hd htype
        · rfl

/-! ### Names bound to the build-time import -/

theorem specifierBinding_eq (h : Annotated d d')
    (hd : isOfType d "ImportSpecifier" = true → Tidy d) (module : Datum) :
    specifierBinding module d = specifierBinding module d' := by
  simp only [specifierBinding, h.isOfType_eq]
  split
  · next htype =>
    have hscalar : ∀ path, ("ImportSpecifier", path) ∈ scalarFields →
        Estree.along path d = Estree.along path d' :=
      fun path hpath => h.scalar_eq (hd htype) _ hpath htype
    have hname := hscalar ["imported", "name"] (by decide)
    have hvalue := hscalar ["imported", "value"] (by decide)
    have hlocal := hscalar ["local", "name"] (by decide)
    simp only [Estree.along, List.foldl_cons, List.foldl_nil] at hname hvalue hlocal
    rw [hname, hvalue, hlocal]
  · rfl

/-- What is computed for the items of a listed field one by one. -/
theorem mapM_itemsOf {α : Type} {f g : Datum → Except Fault α} (h : Annotated d d')
    (hd : Listed d) (hfg : ∀ x ∈ d.items?.getD [], ∀ y, Annotated x y → f x = g y) :
    (itemsOf d >>= fun items => items.mapM f) = (itemsOf d' >>= fun items => items.mapM g) := by
  obtain ⟨rfl, rfl⟩ | ⟨xs, ys, rfl, rfl, hitems⟩ := h.listed hd
  · rfl
  · rw [itemsOf_list, itemsOf_list]
    exact mapM_eq_mapM (hitems.imp fun x y hxy => hfg x hxy.1 y hxy.2)

theorem statementBindings_eq (h : Annotated d d')
    (hd : isOfType d "ImportDeclaration" = true → Tidy d) :
    statementBindings d = statementBindings d' := by
  simp only [statementBindings, h.isOfType_eq]
  split
  · next htype =>
    have htidy : Tidy d := hd htype
    have hlisted := htidy.regular.listed ("ImportDeclaration", "specifiers") (by decide) htype
    have hvalue : (d.field "source").field "value" = (d'.field "source").field "value" :=
      h.scalar_eq htidy ("ImportDeclaration", ["source", "value"]) (by decide) htype
    have hspecifiers := mapM_itemsOf (h.field (by decide)) hlisted
      fun spec hspec _ hsame => hsame.specifierBinding_eq
        (htidy.inItems hlisted hspec) ((d.field "source").field "value")
    rw [← hvalue, ← bind_assoc, ← bind_assoc, hspecifiers]
  · rfl

theorem macroBindings_eq (h : Annotated d d') (hd : Tidy d) (hbody : Listed (d.field "body")) :
    macroBindings d = macroBindings d' := by
  have hstatements := mapM_itemsOf (h.field (by decide)) hbody
    fun statement hmem _ hsame => hsame.statementBindings_eq (hd.inItems hbody hmem)
  rw [macroBindings, macroBindings, ← bind_assoc, ← bind_assoc, hstatements]

end Annotated

/-- Annotations do not matter: a program with a list of statements and fields of the usual kinds
    gives the same imports, or the same failure, whatever idle fields are added to it. -/
theorem extract_annotated (o : Origin) {program program' : Datum}
    (hbody : Listed (program.field "body")) (htidy : Tidy program)
    (h : Annotated program program') : extract o program' = extract o program := by
  have hnames := h.macroBindings_eq htidy hbody
  cases h with
  | refl => rfl
  | list => rfl
  | map h =>
    -- the names are the same, and the two walks come to the same nodes up to annotations
    have hnodes := (List.forall₂_and_left _ _).mpr ⟨htidy.below _, Annotated.preorder _ _ (.map h)⟩
    rw [extract_eq_collect, extract_eq_collect, hnames]
    refine bind_congr fun names => (Walk.collect_eq_collect ?_).symm
    exact hnodes.imp fun _ _ hnode => hnode.2.visit_eq hnode.1

/-! ### A program with places -/

/-- Where something stands in the source, in two ways. -/
def places : List (Datum × Datum) :=
  [(.str "range", .list [.int 0, .int 9]),
   (.str "loc", .map [(.str "start", .map [(.str "line", .int 1), (.str "column", .int 0)])])]

mutual

/-- A datum with places in all its mappings, behind their own fields. -/
def located : Datum → Datum
  | .list xs => .list (locatedItems xs)
  | .map es => .map (locatedEntries es)
  | d => d

/-- The items of a list with places in them. -/
def locatedItems : List Datum → List Datum
  | [] => []
  | x :: xs => located x :: locatedItems xs

/-- The entries of a mapping with places in them and behind them. -/
def locatedEntries : List (Datum × Datum) → List (Datum × Datum)
  | [] => places
  | (key, value) :: es => (key, located value) :: locatedEntries es

end

theorem idle_str {name : String} {value : Datum} (hname : name ∉ readNames)
    (hvalue : nodesIn value = []) : Idle (.str name) value where
  unread _ hread heq := hname (ofString_injective (Datum.text.inj heq) ▸ hread)
  holdsNone := hvalue

theorem widened_places : Widened Annotated [] places :=
  .add (idle_str (by decide) rfl) (.add (idle_str (by decide) rfl) .nil)

mutual

theorem annotated_located (d : Datum) : Annotated d (located d) := by
  cases d with
  | list xs => rw [located]; exact .list (annotated_items xs)
  | map es => rw [located]; exact .map (widened_entries es)
  | _ => exact .refl _

theorem annotated_items : ∀ xs : List Datum, List.Forall₂ Annotated xs (locatedItems xs)
  | [] => .nil
  | x :: xs => .cons (annotated_located x) (annotated_items xs)

theorem widened_entries : ∀ es : List (Datum × Datum), Widened Annotated es (locatedEntries es)
  | [] => widened_places
  | (_, value) :: es => .keep (annotated_located value) (widened_entries es)

end

theorem extract_annotated_located :
    Listed (Renamed.tree.field "body") ∧ Tidy Renamed.tree
      ∧ Annotated Renamed.tree (located Renamed.tree)
      ∧ extract Renamed.origin (located Renamed.tree) = .ok Renamed.records := by
  have hbody : Listed (Renamed.tree.field "body") := .list Renamed.body
  have htidy : Tidy Renamed.tree := by decide +kernel
  refine ⟨hbody, htidy, annotated_located _, ?_⟩
  rw [extract_annotated Renamed.origin hbody htidy (annotated_located _),
    extract_eq Renamed.tree_represents]
  rfl

end ImportScan.Estree
