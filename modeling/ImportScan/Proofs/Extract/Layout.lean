import ImportScan.Proofs.Fault
import ImportScan.Proofs.Extract.Rejection
import ImportScan.Proofs.Extract.Walk

/-! # Layout

    Where the nodes of a tree stand in the source and which comments stand between them is the
    layout of the tree.  What the tree imports does not depend on it: every choice among the
    children of a node passes over comments, and every text that is cut out of the source is
    cut at the ends of a node.

    * `Cst.Outline`       : what is left of a tree without its layout.
    * `Cst.Spans`         : the nodes of a tree lie in the source, and quotes have room in them.
    * `Cst.Relaid`        : two trees over their sources differ in their layout alone.
    * `Relaid.extract_eq` : such trees import the same.
    * `Backend.treeImports_relaid` : and if one of them is rejected, so is the other.
-/

namespace ImportScan

namespace Cst

/-! ## Trees without their layout -/

namespace Node

/-- A comment that is no part of anything: it holds nothing and stands in no field. -/
def isRemark (n : Node) : Bool :=
  n.kind == .comment && n.children.isEmpty && n.info.field.isNone

/-- Whether the octets of a node as a whole may tell what is imported. -/
def isSpelled (n : Node) : Bool :=
  n.kind == .string || n.kind == .identifier ||
    [Field.source, .name, .alias, .callee].any fun f => n.info.field == some f

/-- Whether the first and the last octet of a node are taken for quotes. -/
def isQuoted (n : Node) : Bool :=
  n.kind == .string || n.kind == .template || n.info.field == some .source

/-- The children apart from comments that are no part of anything. -/
def kept (n : Node) : List Node := n.children.filter fun c => !c.isRemark

theorem kind_of_isRemark {n : Node} (h : n.isRemark = true) : n.kind = .comment := by
  simp only [isRemark, Bool.and_eq_true, beq_iff_eq] at h
  exact h.1.1

theorem field_of_isRemark {n : Node} (h : n.isRemark = true) : n.info.field = none := by
  simp only [isRemark, Bool.and_eq_true, Option.isNone_iff_eq_none] at h
  exact h.2

theorem children_of_isRemark {n : Node} (h : n.isRemark = true) : n.children = [] := by
  simp only [isRemark, Bool.and_eq_true, List.isEmpty_iff] at h
  exact h.1.2

end Node

/-- The octets of a node. -/
def octets (bytes : Bytes) (n : Node) : Bytes := slice bytes n.start n.stop

/-- The octets of a template between its holes, from an offset on. -/
def between (bytes : Bytes) (stop : Nat) : Nat → List Node → List Bytes
  | start, [] => [slice bytes start stop]
  | start, hole :: rest => slice bytes start hole.start :: between bytes stop hole.stop rest

/-- What a node tells besides its children, wherever it stands. -/
structure Label where
  /-- What it is. -/
  kind : Kind
  /-- The part it plays in its parent. -/
  field : Option Field
  /-- Whether it is more than punctuation. -/
  isNamed : Bool
  /-- Its octets, if they may tell what is imported. -/
  spelling : Option Bytes
  /-- The octets of its segments, if it is a template. -/
  segments : List Bytes
deriving Repr, DecidableEq

/-- The label of a node over its source. -/
def label (bytes : Bytes) (n : Node) : Label where
  kind := n.kind
  field := n.info.field
  isNamed := n.info.isNamed
  spelling := if n.isSpelled then some (octets bytes n) else none
  segments := if n.kind = .template then between bytes (n.stop - 1) (n.start + 1) (holes n) else []

/-- What is left of a tree without its layout. -/
inductive Outline where
  /-- A node and those of its children that are no mere comments. -/
  | mk (label : Label) (children : List Outline)
deriving Repr

mutual

/-- Outlines can be compared. -/
def Outline.decEq : (a b : Outline) → Decidable (a = b)
  | .mk l cs, .mk l' cs' =>
    have := Outline.decEqAll cs cs'
    decidable_of_iff (l = l' ∧ cs = cs') (by rw [Outline.mk.injEq])

/-- Lists of outlines can be compared. -/
def Outline.decEqAll : (as bs : List Outline) → Decidable (as = bs)
  | [], [] => .isTrue rfl
  | [], _ :: _ => .isFalse nofun
  | _ :: _, [] => .isFalse nofun
  | a :: as, b :: bs =>
    have := Outline.decEq a b
    have := Outline.decEqAll as bs
    decidable_of_iff (a = b ∧ as = bs) (by rw [List.cons.injEq])

end

instance : DecidableEq Outline := Outline.decEq

mutual

/-- The outline of a node over its source. -/
def outline (bytes : Bytes) : Node → Outline
  | .mk info children => .mk (label bytes (.mk info children)) (outlineAll bytes children)

/-- The outlines of nodes, without comments that are no part of anything. -/
def outlineAll (bytes : Bytes) : List Node → List Outline
  | [] => []
  | n :: ns =>
    if n.isRemark then outlineAll bytes ns else outline bytes n :: outlineAll bytes ns

end

variable {bytes bytes' : Bytes} {n n' root root' : Node}

theorem outlineAll_eq (ns : List Node) :
    outlineAll bytes ns = (ns.filter fun c => !c.isRemark).map (outline bytes) := by
  induction ns with
  | nil => rfl
  | cons n ns ih => cases h : n.isRemark <;> simp [outlineAll, h, ih]

theorem outline_eq (n : Node) :
    outline bytes n = .mk (label bytes n) (n.kept.map (outline bytes)) := by
  obtain ⟨info, children⟩ := n
  rw [outline, outlineAll_eq, Node.kept, Node.children]

/-- A node lies in the source, and if it stands in quotes, they have room in it. -/
structure Spanned (bytes : Bytes) (n : Node) : Prop where
  ordered : n.start ≤ n.stop
  inside : n.stop ≤ bytes.length
  quoted : n.isQuoted = true → n.start + 2 ≤ n.stop

instance (bytes : Bytes) (n : Node) : Decidable (Spanned bytes n) :=
  decidable_of_iff
    (n.start ≤ n.stop ∧ n.stop ≤ bytes.length ∧ (n.isQuoted = true → n.start + 2 ≤ n.stop))
    ⟨fun h => ⟨h.1, h.2.1, h.2.2⟩, fun h => ⟨h.ordered, h.inside, h.quoted⟩⟩

/-- All nodes of a tree lie in the source, and those in quotes have room for them. -/
def Spans (bytes : Bytes) (root : Node) : Prop := ∀ n ∈ root.preorder, Spanned bytes n

instance (bytes : Bytes) (root : Node) : Decidable (Spans bytes root) :=
  inferInstanceAs (Decidable (∀ n ∈ root.preorder, Spanned bytes n))

theorem Spans.self (h : Spans bytes n) : Spanned bytes n := by
  apply h
  rw [Node.preorder_eq]
  exact List.mem_cons_self

theorem Spans.child {c : Node} (h : Spans bytes n) (hc : c ∈ n.children) : Spans bytes c := by
  intro m hm
  apply h
  rw [Node.preorder_eq]
  exact List.mem_cons_of_mem n (List.mem_flatMap_of_mem hc hm)

/-- Two trees over their sources differ in their layout alone. -/
structure Relaid (bytes bytes' : Bytes) (root root' : Node) : Prop where
  outline : outline bytes root = outline bytes' root'
  spans : Spans bytes root
  spans' : Spans bytes' root'

instance (bytes bytes' : Bytes) (root root' : Node) : Decidable (Relaid bytes bytes' root root') :=
  decidable_of_iff
    (Cst.outline bytes root = Cst.outline bytes' root' ∧ Spans bytes root ∧ Spans bytes' root')
    ⟨fun ⟨houtline, hspans, hspans'⟩ => ⟨houtline, hspans, hspans'⟩,
      fun h => ⟨h.outline, h.spans, h.spans'⟩⟩

namespace Relaid

theorem symm (h : Relaid bytes bytes' n n') : Relaid bytes' bytes n' n :=
  ⟨h.outline.symm, h.spans', h.spans⟩

theorem label (h : Relaid bytes bytes' n n') : label bytes n = label bytes' n' := by
  have houtline := h.outline
  rw [outline_eq, outline_eq] at houtline
  exact (Outline.mk.inj houtline).1

theorem kind (h : Relaid bytes bytes' n n') : n.kind = n'.kind := congrArg Label.kind h.label

theorem field (h : Relaid bytes bytes' n n') : n.info.field = n'.info.field :=
  congrArg Label.field h.label

theorem isNamed (h : Relaid bytes bytes' n n') : n.info.isNamed = n'.info.isNamed :=
  congrArg Label.isNamed h.label

/-! ## Children -/

/-- Apart from comments, the children correspond to each other. -/
theorem kept (h : Relaid bytes bytes' n n') :
    List.Forall₂ (Relaid bytes bytes') n.kept n'.kept := by
  have houtline := h.outline
  rw [outline_eq, outline_eq] at houtline
  have hsame : List.Forall₂ (fun c c' => Cst.outline bytes c = Cst.outline bytes' c')
      n.kept n'.kept := by
    have heq := (Outline.mk.inj houtline).2
    rw [← List.forall₂_eq_eq_eq] at heq
    exact List.forall₂_map_right_iff.mp (List.forall₂_map_left_iff.mp heq)
  have hspans : ∀ c ∈ n.kept, Spans bytes c := fun c hc => h.spans.child (List.mem_filter.mp hc).1
  have hspans' : ∀ c ∈ n'.kept, Spans bytes' c :=
    fun c hc => h.spans'.child (List.mem_filter.mp hc).1
  have hleft := (List.forall₂_and_left _ _).mpr ⟨hspans, hsame⟩
  have hboth := ((List.forall₂_and_left _ _).mpr ⟨hspans', hleft.flip⟩).flip
  exact hboth.imp fun _ _ hc => ⟨hc.2.2, hc.2.1, hc.1⟩

theorem exists_of_mem {ns ns' : List Node} (h : List.Forall₂ (Relaid bytes bytes') ns ns')
    (hn : n ∈ ns) : ∃ n' ∈ ns', Relaid bytes bytes' n n' := by
  induction h with
  | nil => cases hn
  | @cons m m' _ _ hm _ ih =>
    rcases List.mem_cons.mp hn with rfl | hn
    · exact ⟨m', List.mem_cons_self, hm⟩
    · obtain ⟨n', hn', h'⟩ := ih hn
      exact ⟨n', List.mem_cons_of_mem m' hn', h'⟩

/-- A choice among the children that depends on their labels and passes over comments. -/
theorem filter {p : Node → Bool} (h : Relaid bytes bytes' n n')
    (hremark : ∀ c, c.isRemark = true → p c = false)
    (hp : ∀ {c c'}, Relaid bytes bytes' c c' → p c = p c') :
    List.Forall₂ (Relaid bytes bytes') (n.children.filter p) (n'.children.filter p) := by
  have hkept : ∀ n : Node, n.kept.filter p = n.children.filter p := by
    intro n
    rw [Node.kept, List.filter_filter]
    refine List.filter_congr fun c _ => ?_
    cases hc : c.isRemark with
    | true => simp [hremark c hc]
    | false => simp
  rw [← hkept, ← hkept]
  exact List.rel_filter (fun _ _ hc => iff_of_eq (congrArg (· = true) (hp hc))) h.kept

/-- The named children of a kind. -/
theorem namedOf {k : Kind} (h : Relaid bytes bytes' n n') (hk : k ≠ .comment) :
    List.Forall₂ (Relaid bytes bytes') (n.named.filter (·.kind == k))
      (n'.named.filter (·.kind == k)) := by
  simp only [Node.named, List.filter_filter]
  refine h.filter (fun c hc => ?_) fun hc => by rw [hc.kind, hc.isNamed]
  have hne : Kind.comment ≠ k := fun heq => hk heq.symm
  simp [Node.kind_of_isRemark hc, hne]

/-- The children that are expressions. -/
theorem expressions (h : Relaid bytes bytes' n n') :
    List.Forall₂ (Relaid bytes bytes') n.expressions n'.expressions := by
  simp only [Node.expressions, Node.named, List.filter_filter]
  refine h.filter (fun c hc => ?_) fun hc => by rw [hc.kind, hc.isNamed]
  simp [Node.kind_of_isRemark hc]

/-- The first child in a field. -/
theorem child? (h : Relaid bytes bytes' n n') (f : Field) :
    Option.Rel (Relaid bytes bytes') (n.child? f) (n'.child? f) := by
  have hfield : List.Forall₂ (Relaid bytes bytes') (n.children.filter (·.info.field == some f))
      (n'.children.filter (·.info.field == some f)) := by
    refine h.filter (fun c hc => ?_) fun hc => by rw [hc.field]
    simp [Node.field_of_isRemark hc]
  simp only [Node.child?, ← List.head?_filter]
  generalize n.children.filter _ = found, n'.children.filter _ = found' at hfield
  cases hfield with
  | nil => exact .none
  | cons hc _ => exact .some hc

/-- The bindings between braces. -/
theorem specifiers (h : Relaid bytes bytes' n n') :
    List.Forall₂ (Relaid bytes bytes') (specifiers n) (specifiers n') := by
  refine List.rel_flatMap (h.namedOf (by decide)) fun _ _ hclause => ?_
  exact List.rel_flatMap (hclause.namedOf (by decide)) fun _ _ hnames => hnames.namedOf (by decide)

theorem holes (h : Relaid bytes bytes' n n') :
    List.Forall₂ (Relaid bytes bytes') (holes n) (holes n') := h.namedOf (by decide)

/-! ## Texts -/

theorem octets (h : Relaid bytes bytes' n n') (hspelled : n.isSpelled = true) :
    octets bytes n = octets bytes' n' := by
  have hspelling := congrArg Label.spelling h.label
  have hspelled' : n'.isSpelled = true := by
    rwa [Node.isSpelled, ← h.kind, ← h.field]
  simp only [Cst.label, hspelled, hspelled', if_true] at hspelling
  exact Option.some.inj hspelling

theorem clampOffset_natCast (length i : Nat) : clampOffset length i = min i length := by
  rw [clampOffset, if_pos (Int.natCast_nonneg i), Int.toNat_natCast]

theorem slice_eq {start stop : Nat} (h : start ≤ stop ∧ stop ≤ bytes.length) :
    slice bytes start stop = (bytes.drop start).take (stop - start) := by
  simp only [slice, clampOffset_natCast, Nat.min_eq_left h.2, Nat.min_eq_left (Nat.le_trans h.1 h.2)]

theorem textOf_eq (h : Relaid bytes bytes' n n') (hspelled : n.isSpelled = true) :
    textOf bytes n = textOf bytes' n' := by
  have hoctets := h.octets hspelled
  unfold Cst.octets at hoctets
  rw [textOf, textBetween, hoctets, textOf, textBetween]

/-- What stands between quotes is cut out of the octets of the node. -/
theorem slice_inner (h : Spanned bytes n) (hquoted : n.isQuoted = true) :
    slice bytes (n.start + 1) (n.stop - 1)
      = ((Cst.octets bytes n).drop 1).take ((Cst.octets bytes n).length - 2) := by
  have hinside := h.inside
  have hroom := h.quoted hquoted
  have hstart : (n.start : Int) + 1 = (n.start + 1 : Nat) := by omega
  have hstop : (n.stop : Int) - 1 = (n.stop - 1 : Nat) := by omega
  have hlength : (bytes.drop n.start).length = bytes.length - n.start := List.length_drop
  rw [Cst.octets, hstart, hstop, slice_eq (by omega), slice_eq (by omega), List.drop_take,
    List.drop_drop, List.take_take, List.length_take, hlength]
  congr 1
  omega

theorem cookedBetween_congr {start stop start' stop' : Int}
    (h : slice bytes start stop = slice bytes' start' stop') :
    cookedBetween bytes start stop = cookedBetween bytes' start' stop' := by
  rw [cookedBetween, textBetween, h, cookedBetween, textBetween]

theorem stringValue_eq (h : Relaid bytes bytes' n n') (hspelled : n.isSpelled = true)
    (hquoted : n.isQuoted = true) : stringValue bytes n = stringValue bytes' n' := by
  have hquoted' : n'.isQuoted = true := by
    rwa [Node.isQuoted, ← h.kind, ← h.field]
  apply cookedBetween_congr
  rw [slice_inner h.spans.self hquoted, slice_inner h.spans'.self hquoted', h.octets hspelled]

theorem importedName_eq (h : Relaid bytes bytes' n n') (hfield : n.info.field = some .name) :
    importedName bytes n = importedName bytes' n' := by
  have hspelled : n.isSpelled = true := by simp [Node.isSpelled, hfield]
  unfold importedName
  rw [← h.kind]
  split
  · next hstring => exact h.stringValue_eq hspelled (by simp [Node.isQuoted, hstring])
  · exact h.textOf_eq hspelled

/-- The module that a declaration names. -/
theorem sourceValue_eq (h : Relaid bytes bytes' n n') (hfield : n.info.field = some .source) :
    stringValue bytes n = stringValue bytes' n' :=
  h.stringValue_eq (by simp [Node.isSpelled, hfield]) (by simp [Node.isQuoted, hfield])

theorem holeHint_eq (h : Relaid bytes bytes' n n') : holeHint bytes n = holeHint bytes' n' := by
  have hexpressions := h.expressions
  unfold holeHint
  generalize n.expressions = found, n'.expressions = found' at hexpressions ⊢
  cases hexpressions with
  | nil => rfl
  | cons hfirst _ =>
    simp only [← hfirst.kind]
    split
    · next hidentifier => rw [hfirst.textOf_eq (by simp [Node.isSpelled, hidentifier])]
    · rfl

/-- Where the segments of a template have the same octets, they have the same values. -/
theorem templateParts_eq {holes holes' : List Node} {start stop start' stop' : Nat}
    (hholes : List.Forall₂ (Relaid bytes bytes') holes holes')
    (hsegments : between bytes stop start holes = between bytes' stop' start' holes') :
    templateParts bytes stop start holes = templateParts bytes' stop' start' holes' := by
  -- the next segment starts where the hole ends, so both starts vary
  induction hholes generalizing start start' with
  | nil =>
    rw [templateParts, templateParts, cookedBetween_congr (List.cons.inj hsegments).1]
  | cons hhole _ ih =>
    obtain ⟨hsegment, hrest⟩ := List.cons.inj hsegments
    rw [templateParts, templateParts, cookedBetween_congr hsegment, hhole.holeHint_eq, ih hrest]

/-! ## Records -/

variable {o : Origin} {names : List Text}

theorem argumentTarget_eq (h : Relaid bytes bytes' n n') (path : Text) :
    argumentTarget bytes path n = argumentTarget bytes' path n' := by
  have harguments : List.Forall₂ (Relaid bytes bytes')
      (((n.child? .arguments).map Node.expressions).getD [])
      (((n'.child? .arguments).map Node.expressions).getD []) := by
    have hlist := h.child? .arguments
    generalize n.child? .arguments = list, n'.child? .arguments = list' at hlist ⊢
    cases hlist with
    | none => exact .nil
    | some hlist => exact hlist.expressions
  unfold argumentTarget
  generalize ((n.child? .arguments).map Node.expressions).getD [] = arguments,
    ((n'.child? .arguments).map Node.expressions).getD [] = arguments' at harguments ⊢
  cases harguments with
  | nil => rfl
  | @cons argument argument' rest rest' hargument _ =>
    simp only [← hargument.kind]
    split
    · next hstring =>
      have hspelled : argument.isSpelled = true := by simp [Node.isSpelled, hstring]
      rw [hargument.stringValue_eq hspelled (by simp [Node.isQuoted, hstring])]
    · next htemplate =>
      have hsegments := congrArg Label.segments hargument.label
      have hkind' := hargument.kind.symm.trans htemplate
      simp only [Cst.label, htemplate, hkind', if_true] at hsegments
      -- the text of a template ends before its last quote
      have hstop : ∀ {bytes} {n : Node}, Spanned bytes n → n.kind = .template →
          (n.stop : Int) - 1 = (n.stop - 1 : Nat) := by
        intro bytes n hspan hkind
        have hroom := hspan.quoted (by simp [Node.isQuoted, hkind])
        omega
      rw [hstop hargument.spans.self htemplate, hstop hargument.spans'.self hkind',
        templateParts_eq hargument.holes hsegments]
    · rfl

theorem declaration_eq {source source' : Node} (h : Relaid bytes bytes' source source')
    (hfield : source.info.field = some .source) :
    declaration o bytes source = declaration o bytes' source' := by
  rw [declaration, h.sourceValue_eq hfield, declaration]

/-- Whether there is a star among the children. -/
theorem any_star_eq (h : Relaid bytes bytes' n n') :
    n.children.any (·.kind == .star) = n'.children.any (·.kind == .star) := by
  have hstars : List.Forall₂ (Relaid bytes bytes') (n.children.filter (·.kind == .star))
      (n'.children.filter (·.kind == .star)) := by
    refine h.filter (fun c hc => ?_) fun hc => by rw [hc.kind]
    simp [Node.kind_of_isRemark hc]
  have hany : ∀ cs : List Node,
      cs.any (·.kind == .star) = !(cs.filter (·.kind == .star)).isEmpty := by
    intro cs
    rw [Bool.eq_iff_iff]
    simp
  rw [hany, hany]
  generalize n.children.filter _ = stars, n'.children.filter _ = stars' at hstars ⊢
  cases hstars <;> rfl

/-- A node in a field, as its parent finds it. -/
theorem field_of_child? {f : Field} {c : Node} (h : n.child? f = some c) :
    c.info.field = some f := by
  simpa using List.find?_some h

/-- A node gives the same record wherever it stands. -/
theorem visit_eq (h : Relaid bytes bytes' n n') :
    visit o bytes names n = visit o bytes' names n' := by
  have hsource := h.child? .source
  have hcallee := h.child? .callee
  unfold visit
  rw [← h.kind, ← h.any_star_eq, h.argumentTarget_eq]
  generalize hs : n.child? .source = source, n'.child? .source = source' at hsource ⊢
  generalize hc : n.child? .callee = callee, n'.child? .callee = callee' at hcallee ⊢
  cases n.kind with
  | importStatement =>
    cases hsource with
    | none => rfl
    | some hsource => exact hsource.declaration_eq (field_of_child? hs)
  | exportStatement =>
    cases hsource with
    | none => rfl
    | some hsource => simp only [hsource.declaration_eq (field_of_child? hs)]
  | call =>
    cases hcallee with
    | none => rfl
    | some hcallee =>
      have hspelled := hcallee.textOf_eq (by simp [Node.isSpelled, field_of_child? hc])
      simp only [← hcallee.kind, hspelled]
  | _ => rfl

theorem specifierBinding_eq (h : Relaid bytes bytes' n n') (module : Text) :
    specifierBinding bytes module n = specifierBinding bytes' module n' := by
  have hname := h.child? .name
  have halias := h.child? .alias
  unfold specifierBinding
  generalize hn : n.child? .name = name, n'.child? .name = name' at hname ⊢
  generalize ha : n.child? .alias = given, n'.child? .alias = given' at halias ⊢
  cases hname with
  | none => rfl
  | some hname =>
    simp only [hname.importedName_eq (field_of_child? hn)]
    cases halias with
    | none => rfl
    | some halias =>
      simp only [halias.textOf_eq (by simp [Node.isSpelled, field_of_child? ha])]

theorem statementBindings_eq (h : Relaid bytes bytes' n n') :
    statementBindings bytes n = statementBindings bytes' n' := by
  have hsource := h.child? .source
  have hspecifiers : ∀ module, (Cst.specifiers n).mapM (specifierBinding bytes module)
      = (Cst.specifiers n').mapM (specifierBinding bytes' module) :=
    fun module => mapM_eq_mapM (h.specifiers.imp fun _ _ hspec => hspec.specifierBinding_eq module)
  unfold statementBindings
  rw [← h.kind]
  generalize hs : n.child? .source = source, n'.child? .source = source' at hsource ⊢
  cases hsource with
  | none => rfl
  | some hsource =>
    simp only [hsource.sourceValue_eq (field_of_child? hs), hspecifiers]

/-- Comments bind no names, so they can be left out. -/
theorem macroBindings_kept (root : Node) :
    macroBindings bytes root = (do
      let found ← root.kept.mapM (statementBindings bytes)
      return found.flatten) := by
  have hcons : ∀ n ns, (do return (← (n :: ns).mapM (statementBindings bytes)).flatten) = (do
      let own ← statementBindings bytes n
      let others ← (do return (← ns.mapM (statementBindings bytes)).flatten)
      return own ++ others : Except Fault (List Text)) := by
    intro n ns
    simp only [List.mapM_cons, bind_assoc, pure_bind, List.flatten_cons]
  unfold macroBindings Node.kept
  induction root.children with
  | nil => rfl
  | cons n ns ih =>
    rw [hcons, ih]
    cases hn : n.isRemark with
    | false => rw [List.filter_cons_of_pos (by simp [hn]), hcons]
    | true =>
      have hnone : statementBindings bytes n = .ok [] := by
        simp [statementBindings, Node.kind_of_isRemark hn]
      rw [List.filter_cons_of_neg (by simp [hn]), hnone]
      exact bind_pure
        (do return (← (ns.filter fun c => !c.isRemark).mapM (statementBindings bytes)).flatten :
          Except Fault (List Text))

theorem macroBindings_eq (h : Relaid bytes bytes' root root') :
    macroBindings bytes root = macroBindings bytes' root' := by
  rw [macroBindings_kept, macroBindings_kept,
    mapM_eq_mapM (h.kept.imp fun _ _ hstatement => hstatement.statementBindings_eq)]

/-- A comment has no record, and nothing is below it. -/
theorem walkAll_kept (ns : List Node) :
    walkAll o bytes names ns = walkAll o bytes names (ns.filter fun c => !c.isRemark) := by
  induction ns with
  | nil => rfl
  | cons n ns ih =>
    cases hn : n.isRemark with
    | false => rw [List.filter_cons_of_pos (by simp [hn]), walkAll, walkAll, ih]
    | true =>
      have hnone : walk o bytes names n = .ok [] := by
        obtain ⟨info, children⟩ := n
        have hkind : info.kind = .comment := Node.kind_of_isRemark hn
        have hchildren : children = [] := Node.children_of_isRemark hn
        simp only [walk, visit, Node.kind, Node.info, hkind, hchildren, walkAll]
        rfl
      rw [List.filter_cons_of_neg (by simp [hn]), walkAll, hnone, ih]
      exact bind_pure (walkAll o bytes names (ns.filter fun c => !c.isRemark))

theorem walk_kept (n : Node) :
    walk o bytes names n = (do
      let own ← visit o bytes names n
      let below ← walkAll o bytes names n.kept
      return own.toList ++ below) := by
  obtain ⟨info, children⟩ := n
  rw [walk, walkAll_kept, Node.kept, Node.children]

theorem walkAll_eq {ns ns' : List Node} (h : List.Forall₂ (Relaid bytes bytes') ns ns')
    (hwalk : ∀ n ∈ ns, ∀ n', Relaid bytes bytes' n n' →
      walk o bytes names n = walk o bytes' names n') :
    walkAll o bytes names ns = walkAll o bytes' names ns' := by
  induction h with
  | nil => rfl
  | cons hn _ ih =>
    obtain ⟨hfirst, hrest⟩ := List.forall_mem_cons.mp hwalk
    rw [walkAll, walkAll, hfirst _ hn, ih hrest]

/-- A node and everything below it give the same records wherever they stand. -/
theorem walk_eq (n : Node) : ∀ n', Relaid bytes bytes' n n' →
    walk o bytes names n = walk o bytes' names n' := by
  induction n using branching.induct with
  | h n ih =>
    intro n' h
    have hbelow := walkAll_eq h.kept fun c hc => ih c (List.mem_filter.mp hc).1
    rw [walk_kept, walk_kept, h.visit_eq, hbelow]

/-- Trees that differ in their layout alone import the same, or fail in the same way. -/
theorem extract_eq (h : Relaid bytes bytes' root root') :
    extract o bytes root = extract o bytes' root' := by
  rw [extract_eq_walk, extract_eq_walk, h.macroBindings_eq]
  exact bind_congr fun names => walk_eq root root' h

/-! ## Rejection -/

/-- Every node but the comments has one that corresponds to it. -/
theorem exists_mem_preorder (root : Node) : ∀ root', Relaid bytes bytes' root root' →
    ∀ n ∈ root.preorder, n.isRemark = true ∨ ∃ n' ∈ root'.preorder, Relaid bytes bytes' n n' := by
  induction root using branching.induct with
  | h root ih =>
    intro root' h n hn
    rw [Node.preorder_eq] at hn
    rcases List.mem_cons.mp hn with rfl | hn
    · refine .inr ⟨root', ?_, h⟩
      rw [Node.preorder_eq]
      exact List.mem_cons_self
    · obtain ⟨c, hc, hn⟩ := List.mem_flatMap.mp hn
      cases hremark : c.isRemark with
      | true =>
        -- there is nothing below a comment
        rw [Node.preorder_eq, Node.children_of_isRemark hremark] at hn
        rw [List.mem_singleton.mp hn]
        exact .inl hremark
      | false =>
        have hkept : c ∈ root.kept := List.mem_filter.mpr ⟨hc, by simp [hremark]⟩
        obtain ⟨c', hc', hrelaid⟩ := exists_of_mem h.kept hkept
        refine (ih c hc c' hrelaid n hn).imp id fun ⟨n', hn', h'⟩ => ⟨n', ?_, h'⟩
        rw [Node.preorder_eq]
        exact List.mem_cons_of_mem _ (List.mem_flatMap_of_mem (List.mem_filter.mp hc').1 hn')

/-- What is switched off in a tree is switched off wherever it stands. -/
theorem switchedOff {options : Options} {what : String} (h : Relaid bytes bytes' n n')
    (hoff : SwitchedOff options n what) : SwitchedOff options n' what := by
  cases hoff with
  | decorator hoption hkind => exact .decorator hoption (h.kind ▸ hkind)
  | dynamicImport hoption hkind hcallee hword =>
    have hchild := h.child? .callee
    rw [hcallee] at hchild
    generalize hcallee' : n'.child? .callee = callee' at hchild
    cases hchild with
    | some hchild => exact .dynamicImport hoption (h.kind ▸ hkind) hcallee' (hchild.kind ▸ hword)

/-- A tree holds nothing that is switched off, if the other one does not. -/
theorem not_switchedOff {options : Options} (h : Relaid bytes bytes' root root')
    (hon : ∀ n ∈ root'.preorder, ∀ what, ¬ SwitchedOff options n what) :
    ∀ n ∈ root.preorder, ∀ what, ¬ SwitchedOff options n what := by
  intro n hn what hwhat
  obtain hremark | ⟨n', hn', hrelaid⟩ := exists_mem_preorder root root' h n hn
  · -- a comment is neither a decorator nor a call
    have hcomment := Node.kind_of_isRemark hremark
    cases hwhat with
    | decorator _ hkind => simp [hkind] at hcomment
    | dynamicImport _ hkind => simp [hkind] at hcomment
  · exact hon n' hn' what (hrelaid.switchedOff hwhat)

end Relaid

end Cst

namespace Backend

open Cst

variable {b : Backend} {o : Origin} {bytes bytes' : Bytes} {root root' : Node}

/-- Of trees that differ in their layout alone and report errors alike, both are accepted or
    none is. -/
theorem accept_relaid (h : Relaid bytes bytes' root root')
    (herror : root.info.hasError = root'.info.hasError) (haccept : b.accept root = .ok root) :
    b.accept root' = .ok root' := by
  obtain ⟨-, hsound, hon⟩ := accept_eq_ok_iff.mp haccept
  exact accept_eq_ok_iff.mpr ⟨rfl, herror ▸ hsound, h.symm.not_switchedOff hon⟩

/-- Such trees import the same, or both are rejected. -/
theorem treeImports_relaid (h : Relaid bytes bytes' root root')
    (herror : root.info.hasError = root'.info.hasError) :
    b.treeImports o bytes root = b.treeImports o bytes' root' ∨
      ∃ cause cause', b.treeImports o bytes root = .error (.source cause) ∧
        b.treeImports o bytes' root' = .error (.source cause') := by
  unfold treeImports
  rcases accept_cases b root with haccept | ⟨cause, hcause⟩
  · rw [haccept, accept_relaid h herror haccept]
    exact .inl h.extract_eq
  · rcases accept_cases b root' with haccept' | ⟨cause', hcause'⟩
    · have haccept := accept_relaid h.symm herror.symm haccept'
      rw [hcause] at haccept
      cases haccept
    · rw [hcause, hcause']
      exact .inr ⟨cause, cause', rfl, rfl⟩

end Backend

end ImportScan
