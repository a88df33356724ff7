import ImportScan.Proofs.Fault
import ImportScan.Proofs.Extract.Program
import ImportScan.Proofs.Extract.Walk

/-! # Concrete syntax trees of a program

    A concrete syntax tree encodes a program when its nodes have the shapes of the terms, up to
    comments, punctuation and nodes that only hold other nodes together.  The records of such a
    tree are those of the program.

    * `Cst.Spells`     : a node has the shape of a term.
    * `Cst.Encodes`    : nodes encode terms.
    * `Cst.Represents` : a tree encodes a program.
    * `Cst.extract_eq` : its records are those of the program.
-/

namespace ImportScan

namespace Cst

/-! ## Trees that encode programs -/

/-- A node that gives no record and binds no name itself: not a declaration that names a
    module, and not a call of a name or of the word `import`. -/
def Silent (n : Node) : Prop :=
  match n.kind with
  | .importStatement => n.child? .source = none
  | .exportStatement => n.child? .source = none
  | .call => ∀ callee, n.child? .callee = some callee →
      callee.kind ≠ .importWord ∧ callee.kind ≠ .identifier
  | _ => True

/-- A comment or a mark of punctuation. -/
def Trivia (n : Node) : Prop :=
  n.children = [] ∧ (n.kind = .comment ∨ n.info.isNamed = false)

/-- A binding between braces gives an imported name and a local name; without an alias they
    are the same. -/
def Binds (bytes : Bytes) (binding : Text × Text) (spec : Node) : Prop :=
  ∃ name, spec.child? .name = some name ∧ importedName bytes name = .ok binding.1 ∧
    match spec.child? .alias with
    | some local' => textOf bytes local' = .ok binding.2
    | none => binding.2 = binding.1

/-- The texts of the segments of a template, from an offset on: each is the value of what
    stands before the next hole, the last of what stands before the end. -/
inductive Segments (bytes : Bytes) (stop : Int) : Nat → List Node → List Text → Prop where
  | last {start : Nat} {t : Text} (h : cookedBetween bytes start stop = .ok t) :
      Segments bytes stop start [] [t]
  | before {start : Nat} {hole : Node} {rest : List Node} {t : Text} {ts : List Text}
      (h : cookedBetween bytes start hole.start = .ok t)
      (hrest : Segments bytes stop hole.stop rest ts) :
      Segments bytes stop start (hole :: rest) (t :: ts)

/-- A node has the shape of a term, and the nodes in the last argument stand where the
    expressions of the term do. -/
inductive Spells (bytes : Bytes) : Term → Node → List (List Node) → Prop where
  | importFrom {source : Text} {bindings : List (Text × Text)} {n s : Node}
      (hkind : n.kind = .importStatement) (hsource : n.child? .source = some s)
      (hvalue : stringValue bytes s = .ok source)
      (hbinds : List.Forall₂ (Binds bytes) bindings (specifiers n)) :
      Spells bytes (.importFrom source bindings) n []
  | exportFrom {source : Text} {n s : Node}
      (hkind : n.kind = .exportStatement) (hsource : n.child? .source = some s)
      (hvalue : stringValue bytes s = .ok source)
      (hnames : n.children.any (·.kind == .star) = false) :
      Spells bytes (.exportFrom source) n []
  | exportLocal {inside : List Term} {n : Node}
      (hkind : n.kind = .exportStatement) (hsource : n.child? .source = none) :
      Spells bytes (.exportLocal inside) n []
  | exportAll {source : Text} {n s : Node}
      (hkind : n.kind = .exportStatement) (hsource : n.child? .source = some s)
      (hvalue : stringValue bytes s = .ok source)
      (hstar : n.children.any (·.kind == .star) = true) :
      Spells bytes (.exportAll source) n []
  | importCall {arguments : List Term} {n callee list : Node}
      (hkind : n.kind = .call) (hcallee : n.child? .callee = some callee)
      (hword : callee.kind = .importWord) (hlist : n.child? .arguments = some list) :
      Spells bytes (.importCall arguments) n [list.children]
  | nameCall {name : Text} {arguments : List Term} {n callee list : Node}
      (hkind : n.kind = .call) (hcallee : n.child? .callee = some callee)
      (hidentifier : callee.kind = .identifier) (hname : textOf bytes callee = .ok name)
      (hlist : n.child? .arguments = some list) :
      Spells bytes (.nameCall name arguments) n [list.children]
  | identifier {name : Text} {n : Node}
      (hkind : n.kind = .identifier) (hname : textOf bytes n = .ok name) :
      Spells bytes (.identifier name) n []
  | string {value : Text} {n : Node}
      (hkind : n.kind = .string) (hvalue : stringValue bytes n = .ok value) :
      Spells bytes (.string value) n []
  | template {first : Text} {parts : List (Term × Text)} {n : Node}
      (hkind : n.kind = .template)
      (hsegments :
        Segments bytes ((n.stop : Int) - 1) (n.start + 1) (holes n) (first :: parts.map (·.2))) :
      Spells bytes (.template first parts) n ((holes n).map Node.children)
  | other {inside : List Term} {n : Node} (hsilent : Silent n)
      (hkind : n.kind ∉ [Kind.string, .template, .identifier]) :
      Spells bytes (.other inside) n []

/-- Nodes encode terms, in the same order.  What stands inside a node encodes what stands
    inside its term, and the expressions of a term are found in their places one by one. -/
inductive Encodes (bytes : Bytes) : Fit → List Term → List Node → Prop where
  | nil {fit : Fit} : Encodes bytes fit [] []
  | skip {fit : Fit} {n : Node} {ts : List Term} {ns : List Node} (htrivia : Trivia n)
      (hrest : Encodes bytes fit ts ns) : Encodes bytes fit ts (n :: ns)
  | hold {n : Node} {inner ts : List Term} {ns : List Node} (hsilent : Silent n)
      (hinside : Encodes bytes .loose inner n.children) (hrest : Encodes bytes .loose ts ns) :
      Encodes bytes .loose (inner ++ ts) (n :: ns)
  | term {fit : Fit} {t : Term} {n : Node} {places : List (List Node)} {ts : List Term}
      {ns : List Node} (hnamed : n.info.isNamed = true) (hcomment : n.kind ≠ .comment)
      (hspells : Spells bytes t n places) (hcount : t.groups.length = places.length)
      (hplaces : ∀ p ∈ t.groups.zip places, Encodes bytes .exact p.1 p.2)
      (hinside : Encodes bytes .loose t.inside n.children) (hrest : Encodes bytes fit ts ns) :
      Encodes bytes fit (t :: ts) (n :: ns)

/-- A tree encodes a program: its root is silent and has one child for each statement. -/
structure Represents (bytes : Bytes) (program : List Term) (root : Node) : Prop where
  /-- The root gives no record. -/
  silent : Silent root
  /-- Statement by statement. -/
  statements : Encodes bytes .exact program root.children

variable {o : Origin} {bytes : Bytes} {names : List Text}

/-- A silent node that holds nothing of the program may stand anywhere. -/
theorem Encodes.beside {n : Node} {ts : List Term} {ns : List Node} (hsilent : Silent n)
    (hinside : Encodes bytes .loose [] n.children) (hrest : Encodes bytes .loose ts ns) :
    Encodes bytes .loose ts (n :: ns) := .hold hsilent hinside hrest

/-- A silent node may hold all that is left of the program. -/
theorem Encodes.around {n : Node} {ts : List Term} {ns : List Node} (hsilent : Silent n)
    (hinside : Encodes bytes .loose ts n.children) (hrest : Encodes bytes .loose [] ns) :
    Encodes bytes .loose ts (n :: ns) := by
  rw [← List.append_nil ts]
  exact .hold hsilent hinside hrest

/-! ## Arguments -/

/-- The nodes that are neither comments nor punctuation. -/
def proper (ns : List Node) : List Node :=
  (ns.filter (·.info.isNamed)).filter (·.kind != .comment)

theorem expressions_eq (n : Node) : n.expressions = proper n.children := rfl

theorem proper_skip {n : Node} (h : Trivia n) (ns : List Node) : proper (n :: ns) = proper ns := by
  obtain ⟨-, hkind | hnamed⟩ := h
  · cases hn : n.info.isNamed <;> simp [proper, hkind, hn]
  · simp [proper, hnamed]

theorem proper_cons {n : Node} (hnamed : n.info.isNamed = true) (hcomment : n.kind ≠ .comment)
    (ns : List Node) : proper (n :: ns) = n :: proper ns := by
  simp [proper, hnamed, hcomment]

/-- The first expression among nodes that encode a term and more encodes that term. -/
theorem Encodes.head {t : Term} {ts : List Term} {ns : List Node}
    (h : Encodes bytes .exact (t :: ts) ns) :
    ∃ n places rest, proper ns = n :: rest ∧ Spells bytes t n places ∧
      t.groups.length = places.length ∧
      ∀ p ∈ t.groups.zip places, Encodes bytes .exact p.1 p.2 := by
  induction ns with
  | nil => cases h
  | cons n ns ih =>
    cases h with
    | skip htrivia hrest =>
      rw [proper_skip htrivia]
      exact ih hrest
    | term hnamed hcomment hspells hcount hplaces =>
      exact ⟨n, _, proper ns, proper_cons hnamed hcomment ns, hspells, hcount, hplaces⟩

/-- No expression stands among nodes that encode nothing. -/
theorem Encodes.proper_nil {ns : List Node} (h : Encodes bytes .exact [] ns) : proper ns = [] := by
  induction ns with
  | nil => rfl
  | cons n ns ih =>
    cases h with
    | skip htrivia hrest => rw [proper_skip htrivia, ih hrest]

/-- The hint of a hole is that of the expression it encodes. -/
theorem holeHint_eq {t : Term} {hole : Node} (h : Encodes bytes .exact [t] hole.children) :
    holeHint bytes hole = .ok t.hint := by
  obtain ⟨n, places, rest, hexpressions, hspells, -⟩ := h.head
  rw [holeHint, expressions_eq, hexpressions]
  cases hspells with
  | identifier hkind hname => simp [hkind, hname, Except.map, Term.hint]
  | other _ hkind => simp_all [Term.hint]
  | _ => simp_all [Term.hint]

theorem templateParts_eq {stop : Int} {start : Nat} {hs : List Node} {segments : List Text}
    {hints : List Datum} (hsegments : Segments bytes stop start hs segments)
    (hhints : List.Forall₂ (fun hole hint => holeHint bytes hole = .ok hint) hs hints) :
    templateParts bytes stop start hs = .ok (segments.map .text, hints) := by
  induction hsegments generalizing hints with
  | last h =>
    cases hhints
    simp only [templateParts, h]
    rfl
  | before h _ ih =>
    cases hhints with
    | cons hhint hhints =>
      simp only [templateParts, h, hhint, ih hhints]
      rfl

/-- The holes of a template give the hints of its expressions. -/
theorem hints_of_places {parts : List (Term × Text)} {hs : List Node}
    (hcount : parts.length = hs.length)
    (hplaces : ∀ p ∈ (parts.map fun part => [part.1]).zip (hs.map Node.children),
      Encodes bytes .exact p.1 p.2) :
    List.Forall₂ (fun hole hint => holeHint bytes hole = .ok hint) hs
      (parts.map fun part => part.1.hint) := by
  induction hs generalizing parts with
  | nil =>
    rw [List.length_eq_zero_iff.mp hcount]
    exact .nil
  | cons hole hs ih =>
    cases parts with
    | nil => cases hcount
    | cons part parts =>
      simp only [List.map_cons, List.zip_cons_cons, List.forall_mem_cons] at hplaces
      exact .cons (holeHint_eq hplaces.1) (ih (Nat.succ.inj hcount) hplaces.2)

/-- What the first argument of a call names is what the term it encodes names. -/
theorem argumentTarget_eq {path : Text} {arguments : List Term} {call list : Node}
    (hlist : call.child? .arguments = some list)
    (h : Encodes bytes .exact arguments list.children) :
    argumentTarget bytes path call = Term.target path arguments := by
  cases arguments with
  | nil => simp [argumentTarget, hlist, expressions_eq, h.proper_nil, Term.target]
  | cons t ts =>
    obtain ⟨n, places, rest, hproper, hspells, hcount, hplaces⟩ := h.head
    simp only [argumentTarget, hlist, Option.map_some, Option.getD_some, expressions_eq, hproper]
    cases hspells with
    | string hkind hvalue =>
      simp only [hkind, hvalue]
      rfl
    | @template first parts _ hkind hsegments =>
      have hhints := hints_of_places (by simpa [Term.groups] using hcount) hplaces
      simp only [hkind, templateParts_eq hsegments hhints]
      exact Term.ofParts_template path first parts ts
    | other _ hkind =>
      -- neither a string nor a template, so only the last case is left
      split
      · next heq => simp [heq] at hkind
      · next heq => simp [heq] at hkind
      · rfl
    | _ => simp [*, Term.target, Term.target?]

/-! ## The record of a node -/

theorem visit_silent {n : Node} (h : Silent n) : visit o bytes names n = .ok none := by
  unfold visit
  unfold Silent at h
  split
  · next hkind =>
    simp only [hkind] at h
    rw [h]
  · next hkind =>
    simp only [hkind] at h
    rw [h]
  · next hkind =>
    simp only [hkind] at h
    split
    · next callee hcallee =>
      obtain ⟨hword, hidentifier⟩ := h callee hcallee
      split
      · contradiction
      · contradiction
      · rfl
    · rfl
  · rfl

theorem Trivia.silent {n : Node} (h : Trivia n) : Silent n := by
  have hchild (f : Field) : n.child? f = none := by simp [Node.child?, h.1]
  unfold Silent
  split <;> simp [hchild]

/-- A node gives the record of the term it encodes. -/
theorem visit_eq {t : Term} {n : Node} {places : List (List Node)} (h : Spells bytes t n places)
    (hplaces : ∀ p ∈ t.groups.zip places, Encodes bytes .exact p.1 p.2) :
    visit o bytes names n = t.own o names := by
  cases h with
  | importFrom hkind hsource hvalue =>
    simp only [visit, hkind, hsource, declaration, hvalue]
    rfl
  | exportFrom hkind hsource hvalue hnames =>
    simp only [visit, hkind, hsource, hnames, declaration, hvalue]
    rfl
  | exportLocal hkind hsource =>
    simp only [visit, hkind, hsource]
    rfl
  | exportAll hkind hsource _ hstar =>
    simp only [visit, hkind, hsource, hstar]
    rfl
  | importCall hkind hcallee hword hlist =>
    -- the arguments are the only group of a call
    have harguments := hplaces _ List.mem_cons_self
    simp only [visit, hkind, hcallee, hword, argumentTarget_eq hlist harguments]
    rfl
  | nameCall hkind hcallee hidentifier hname hlist =>
    have harguments := hplaces _ List.mem_cons_self
    simp only [visit, hkind, hcallee, hidentifier, hname, argumentTarget_eq hlist harguments]
    rfl
  | other hsilent => exact visit_silent hsilent
  | _ => simp only [visit, *]; rfl

/-! ## Names bound to the build-time import -/

theorem specifierBinding_eq {source : Text} {binding : Text × Text} {spec : Node}
    (h : Binds bytes binding spec) :
    specifierBinding bytes source spec = .ok (Term.macroName? source binding) := by
  obtain ⟨name, hname, himported, hlocal⟩ := h
  by_cases hbound : source = macroModule ∧ binding.1 = macroName
  · cases halias : spec.child? .alias <;> rw [halias] at hlocal <;>
      simp [specifierBinding, hname, himported, Term.macroName?, hbound, halias, hlocal, bind,
        Except.bind, pure, Except.pure]
  · simp [specifierBinding, hname, himported, Term.macroName?, hbound, bind, Except.bind, pure,
      Except.pure]

theorem specifiers_bindings {source : Text} {bindings : List (Text × Text)} {specs : List Node}
    (h : List.Forall₂ (Binds bytes) bindings specs) :
    specs.mapM (specifierBinding bytes source) = .ok (bindings.map (Term.macroName? source)) := by
  induction h with
  | nil => rfl
  | cons hbinds _ ih => exact mapM_cons_ok (specifierBinding_eq hbinds) ih

theorem statementBindings_silent {n : Node} (h : Silent n) :
    statementBindings bytes n = .ok [] := by
  unfold statementBindings
  split
  · next hkind =>
    have hsource : n.child? .source = none := by simpa [Silent, beq_iff_eq.mp hkind] using h
    rw [hsource]
  · rfl

theorem statementBindings_eq {t : Term} {n : Node} {places : List (List Node)}
    (h : Spells bytes t n places) : statementBindings bytes n = .ok t.macroNames := by
  cases h with
  | @importFrom source _ _ _ hkind hsource hvalue hbinds =>
    simp only [statementBindings, hkind, hsource, hvalue, beq_self_eq_true, if_true]
    change (do
      let found ← (specifiers n).mapM (specifierBinding bytes source)
      return found.flatten) = _
    rw [specifiers_bindings hbinds]
    rfl
  | other hsilent => exact statementBindings_silent hsilent
  | _ => simp [statementBindings, *, Term.macroNames]

/-- The statements bind the names that the terms bind. -/
theorem Encodes.bindings {ts : List Term} {ns : List Node} (h : Encodes bytes .exact ts ns) :
    ∃ found, ns.mapM (statementBindings bytes) = .ok found
      ∧ found.flatten = ts.flatMap Term.macroNames := by
  induction ns generalizing ts with
  | nil =>
    cases h
    exact ⟨[], rfl, rfl⟩
  | cons n ns ih =>
    cases h with
    | skip htrivia hrest =>
      obtain ⟨found, hfound, hflat⟩ := ih hrest
      exact ⟨[] :: found, mapM_cons_ok (statementBindings_silent htrivia.silent) hfound, hflat⟩
    | term _ _ hspells _ _ _ hrest =>
      obtain ⟨found, hfound, hflat⟩ := ih hrest
      refine ⟨_, mapM_cons_ok (statementBindings_eq hspells) hfound, ?_⟩
      rw [List.flatten_cons, hflat, List.flatMap_cons]

theorem macroBindings_eq {program : List Term} {root : Node}
    (h : Encodes bytes .exact program root.children) :
    macroBindings bytes root = .ok (program.flatMap Term.macroNames) := by
  obtain ⟨found, hfound, hflat⟩ := h.bindings
  simp only [macroBindings, hfound, ← hflat]
  rfl

/-! ## The walk -/

theorem walkAll_cons (n : Node) (ns : List Node) :
    walkAll o bytes names (n :: ns)
      = Term.gather (visit o bytes names n) (walkAll o bytes names n.children)
          (walkAll o bytes names ns) := by
  obtain ⟨info, children⟩ := n
  rw [walkAll, walk]
  simp only [Term.gather, bind_assoc, pure_bind, Node.children]

theorem walk_silent {n : Node} (h : Silent n) :
    walk o bytes names n = walkAll o bytes names n.children := by
  obtain ⟨info, children⟩ := n
  rw [walk, visit_silent h]
  exact bind_pure (walkAll o bytes names children)

/-- The records of nodes are those of the terms they encode. -/
theorem Encodes.walkAll_eq {fit : Fit} {ts : List Term} {ns : List Node}
    (h : Encodes bytes fit ts ns) :
    walkAll o bytes names ns = Term.recordsAll o names ts := by
  induction h with
  | nil => simp only [walkAll, Term.recordsAll]
  | skip htrivia _ ih =>
    rw [walkAll_cons, visit_silent htrivia.silent, htrivia.1, ih]
    simp only [walkAll, Term.gather_ok_nil]
  | hold hsilent _ _ ihinside ihrest =>
    -- the node adds nothing to what it holds, and this stands before what follows
    rw [walkAll_cons, visit_silent hsilent, ihinside, ihrest, Term.recordsAll_append]
  | term _ _ hspells _ hplaces _ _ _ ihinside ihrest =>
    rw [walkAll_cons, visit_eq hspells hplaces, ihinside, ihrest, Term.recordsAll_cons]

/-- The records of a tree that encodes a program are those of the program. -/
theorem extract_eq {program : List Term} {root : Node} (h : Represents bytes program root) :
    extract o bytes root = Term.extract o program := by
  rw [extract_eq_walk, macroBindings_eq h.statements, Term.extract, ← h.statements.walkAll_eq]
  exact walk_silent h.silent

end Cst

end ImportScan
