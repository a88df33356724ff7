import ImportScan.Proofs.Extract.Estree

/-! # Extraction in preorder

    The records of a tree are those of its constructs that import something, in preorder: one
    for each construct and none for any other node.  If a construct has no record, there are
    none at all, and the first such construct tells why.

    * `Walk.Recorded`     : the nodes of a list that give a record, each with its record.
    * `Cst.Construct`     : the constructs of concrete syntax trees.
    * `Cst.Nested`        : trees whose nodes lie inside each other and one after the other.
    * `Estree.Construct`  : the constructs of ESTrees.
    * `Cst.extract_in_preorder`, `Estree.extract_field_by_field` : what the walks find.
-/

namespace ImportScan

/-- The record of a target, as a visit and as a construct give it. -/
theorem Origin.map_record (o : Origin) (isDynamic : Bool) (target : Except Fault Target) :
    (do return some (o.record isDynamic (← target)))
      = (target.map (o.record isDynamic)).map some := by
  cases target <;> rfl

/-! ## Nodes with their records -/

namespace Walk

variable {α β : Type}

/-- The nodes of a list that give a record, each with its record and in their order.  The
    others give neither a record nor a reason why they have none. -/
inductive Recorded (gives : α → Except Fault Import → Prop) :
    List α → List (α × Import) → Prop where
  | nil : Recorded gives [] []
  | record {n : α} {i : Import} {ns : List α} {found : List (α × Import)}
      (h : gives n (.ok i)) (hrest : Recorded gives ns found) :
      Recorded gives (n :: ns) ((n, i) :: found)
  | pass {n : α} {ns : List α} {found : List (α × Import)} (h : ∀ r, ¬ gives n r)
      (hrest : Recorded gives ns found) : Recorded gives (n :: ns) found

theorem Recorded.sublist {gives : α → Except Fault Import → Prop} {ns : List α}
    {found : List (α × Import)} (h : Recorded gives ns found) :
    (found.map Prod.fst).Sublist ns := by
  induction h with
  | nil => exact .slnil
  | record _ _ ih => exact ih.cons_cons _
  | pass _ _ ih => exact ih.cons _

/-- Constructs are what a visit finds, if every construct is found and every other node is
    passed over. -/
theorem gives_iff {visit : α → Except Fault (Option Import)}
    {gives : α → Except Fault Import → Prop} {n : α} {r : Except Fault Import}
    (hfound : ∀ r, gives n r → visit n = r.map some)
    (hpassed : visit n = .ok none ∨ ∃ r, gives n r) : gives n r ↔ visit n = r.map some := by
  constructor
  · exact hfound r
  · intro hvisit
    rcases hpassed with hnone | ⟨s, hs⟩
    · rw [hnone] at hvisit
      cases r <;> cases hvisit
    · -- the record or reason is the one that was found
      have hsame : s.map some = r.map some := (hfound s hs).symm.trans hvisit
      have heq : s = r := by
        cases s <;> cases r <;> simp_all [Except.map]
      rw [← heq]
      exact hs

section Collect

variable {visit : α → Except Fault (Option Import)} {gives : α → Except Fault Import → Prop}
  (hgives : ∀ n r, gives n r ↔ visit n = r.map some)

include hgives

/-- A node that is no construct is passed over. -/
theorem visit_eq_none_iff {n : α} : visit n = .ok none ↔ ∀ r, ¬ gives n r := by
  constructor
  · intro hvisit r hr
    have heq := (hgives n r).mp hr
    rw [hvisit] at heq
    cases r <;> cases heq
  · intro hnone
    cases hvisit : visit n with
    | error f => exact absurd ((hgives n (.error f)).mpr hvisit) (hnone _)
    | ok own =>
      cases own with
      | none => rfl
      | some i => exact absurd ((hgives n (.ok i)).mpr hvisit) (hnone _)

/-- The records of nodes in a list, if they have any, are those of the constructs. -/
theorem collect_eq_ok_iff {ns : List α} {records : List Import} :
    collect visit ns = .ok records ↔
      ∃ found, Recorded gives ns found ∧ found.map Prod.snd = records := by
  induction ns generalizing records with
  | nil =>
    constructor
    · intro h
      exact ⟨[], .nil, Except.ok.inj h⟩
    · rintro ⟨found, hfound, rfl⟩
      cases hfound
      rfl
  | cons n ns ih =>
    rw [collect]
    simp only [bind_eq_ok, pure_eq_ok]
    constructor
    · rintro ⟨own, hown, others, hothers, rfl⟩
      obtain ⟨found, hfound, rfl⟩ := ih.mp hothers
      cases own with
      | some i => exact ⟨(n, i) :: found, .record ((hgives n (.ok i)).mpr hown) hfound, rfl⟩
      | none => exact ⟨found, .pass ((visit_eq_none_iff hgives).mp hown) hfound, rfl⟩
    · rintro ⟨found, hfound, rfl⟩
      cases hfound with
      | @record _ i _ found hn hrest =>
        exact ⟨some i, (hgives n (.ok i)).mp hn, _, ih.mpr ⟨found, hrest, rfl⟩, rfl⟩
      | pass hn hrest =>
        exact ⟨none, (visit_eq_none_iff hgives).mpr hn, _, ih.mpr ⟨found, hrest, rfl⟩, rfl⟩

/-- There are no records exactly if a construct has none, and the first one tells why. -/
theorem collect_eq_error_iff {ns : List α} {f : Fault} :
    collect visit ns = .error f ↔
      ∃ before n after, ns = before ++ n :: after ∧ (∃ found, Recorded gives before found)
        ∧ gives n (.error f) := by
  constructor
  · intro h
    induction ns with
    | nil => cases h
    | cons n ns ih =>
      cases hvisit : visit n with
      | error g =>
        rw [collect, hvisit] at h
        cases h
        exact ⟨[], n, ns, rfl, ⟨[], .nil⟩, (hgives n (.error f)).mpr hvisit⟩
      | ok own =>
        -- the node is fine, so one after it fails
        have hrest : collect visit ns = .error f := by
          rw [collect, hvisit] at h
          cases hns : collect visit ns with
          | error g =>
            rw [hns] at h
            exact h
          | ok others =>
            rw [hns] at h
            cases h
        obtain ⟨before, m, after, rfl, ⟨found, hfound⟩, hm⟩ := ih hrest
        refine ⟨n :: before, m, after, rfl, ?_, hm⟩
        cases own with
        | some i => exact ⟨(n, i) :: found, .record ((hgives n (.ok i)).mpr hvisit) hfound⟩
        | none => exact ⟨found, .pass ((visit_eq_none_iff hgives).mp hvisit) hfound⟩
  · rintro ⟨before, n, after, rfl, ⟨found, hfound⟩, hn⟩
    have hbefore := (collect_eq_ok_iff hgives).mpr ⟨found, hfound, rfl⟩
    have hvisit : visit n = .error f := (hgives n (.error f)).mp hn
    rw [collect_append, hbefore, collect, hvisit]
    rfl

end Collect

section Scan

variable {scan : Except Fault β} {visit : β → α → Except Fault (Option Import)}
  {gives : β → α → Except Fault Import → Prop}
  (hgives : ∀ names n r, gives names n r ↔ visit names n = r.map some)

include hgives

/-- The same after names have been looked for. -/
theorem scan_eq_ok_iff {ns : List α} {records : List Import} :
    (do collect (visit (← scan)) ns) = .ok records ↔
      ∃ names found, scan = .ok names ∧ Recorded (gives names) ns found
        ∧ found.map Prod.snd = records := by
  rw [bind_eq_ok]
  constructor
  · rintro ⟨names, hnames, h⟩
    obtain ⟨found, hfound⟩ := (collect_eq_ok_iff (hgives names)).mp h
    exact ⟨names, found, hnames, hfound⟩
  · rintro ⟨names, found, hnames, hfound⟩
    exact ⟨names, hnames, (collect_eq_ok_iff (hgives names)).mpr ⟨found, hfound⟩⟩

theorem scan_eq_error_iff {ns : List α} {f : Fault} :
    (do collect (visit (← scan)) ns) = .error f ↔
      scan = .error f ∨ ∃ names before n after, scan = .ok names ∧ ns = before ++ n :: after
        ∧ (∃ found, Recorded (gives names) before found) ∧ gives names n (.error f) := by
  cases scan with
  | error g =>
    constructor
    · intro h
      cases h
      exact .inl rfl
    · rintro (h | ⟨names, before, n, after, hnames, -⟩)
      · cases h
        rfl
      · cases hnames
  | ok names =>
    change collect (visit names) ns = .error f ↔ _
    rw [collect_eq_error_iff (hgives names)]
    constructor
    · rintro ⟨before, n, after, h⟩
      exact .inr ⟨names, before, n, after, rfl, h⟩
    · rintro (h | ⟨names', before, n, after, hnames, h⟩)
      · cases h
      · cases hnames
        exact ⟨before, n, after, h⟩

end Scan

end Walk

/-! ## Concrete syntax trees -/

namespace Cst

/-- A node that imports something, with its record or the reason why it has none: a
    declaration that names a module, a re-export of names from a module, a dynamic import, or
    the call of a name that is bound to the build-time import.  The name of a call has to be
    looked at, so one that cannot be read is a reason, too. -/
inductive Construct (o : Origin) (bytes : Bytes) (names : List Text) (n : Node) :
    Except Fault Import → Prop where
  | declaration {source : Node} (hkind : n.kind = .importStatement)
      (hsource : n.child? .source = some source) :
      Construct o bytes names n
        ((stringValue bytes source).map fun t => o.record false (.literal (.text t)))
  | reexport {source : Node} (hkind : n.kind = .exportStatement)
      (hsource : n.child? .source = some source) (hnames : ∀ c ∈ n.children, c.kind ≠ .star) :
      Construct o bytes names n
        ((stringValue bytes source).map fun t => o.record false (.literal (.text t)))
  | dynamic {callee : Node} (hkind : n.kind = .call) (hcallee : n.child? .callee = some callee)
      (hword : callee.kind = .importWord) :
      Construct o bytes names n ((argumentTarget bytes o.path n).map (o.record true))
  | buildTime {callee : Node} {name : Text} (hkind : n.kind = .call)
      (hcallee : n.child? .callee = some callee) (hidentifier : callee.kind = .identifier)
      (hname : textOf bytes callee = .ok name) (hbound : name ∈ names) :
      Construct o bytes names n ((argumentTarget bytes o.path n).map (o.record false))
  | unreadable {callee : Node} {f : Fault} (hkind : n.kind = .call)
      (hcallee : n.child? .callee = some callee) (hidentifier : callee.kind = .identifier)
      (hname : textOf bytes callee = .error f) : Construct o bytes names n (.error f)

variable {o : Origin} {bytes : Bytes}

theorem declaration_eq (source : Node) :
    declaration o bytes source
      = ((stringValue bytes source).map fun t => o.record false (.literal (.text t))).map some := by
  rw [declaration]
  cases stringValue bytes source <;> rfl

theorem visit_construct {names : List Text} {n : Node} (r : Except Fault Import)
    (h : Construct o bytes names n r) : visit o bytes names n = r.map some := by
  cases h with
  | declaration hkind hsource => simp only [visit, hkind, hsource, declaration_eq]
  | reexport hkind hsource hnames =>
    have hstar : n.children.any (·.kind == .star) = false := by simpa using hnames
    simp only [visit, hkind, hsource, hstar, declaration_eq, Bool.false_eq_true, if_false]
  | dynamic hkind hcallee hword => simp only [visit, hkind, hcallee, hword, Origin.map_record]
  | @buildTime callee name hkind hcallee hidentifier hname hbound =>
    have hcontains : names.contains name = true := List.contains_iff_mem.mpr hbound
    simp only [visit, hkind, hcallee, hidentifier, hname, ← Origin.map_record]
    change (if names.contains name then _ else _) = _
    rw [if_pos hcontains]
  | unreadable hkind hcallee hidentifier hname =>
    simp only [visit, hkind, hcallee, hidentifier, hname]
    rfl

theorem visit_other (names : List Text) (n : Node) :
    visit o bytes names n = .ok none ∨ ∃ r, Construct o bytes names n r := by
  cases hkind : n.kind with
  | importStatement =>
    cases hsource : n.child? .source with
    | none => exact .inl (by simp only [visit, hkind, hsource])
    | some source => exact .inr ⟨_, .declaration hkind hsource⟩
  | exportStatement =>
    cases hsource : n.child? .source with
    | none => exact .inl (by simp only [visit, hkind, hsource])
    | some source =>
      cases hstar : n.children.any (·.kind == .star) with
      | true => exact .inl (by simp only [visit, hkind, hsource, hstar, if_true])
      | false => exact .inr ⟨_, .reexport hkind hsource (by simpa using hstar)⟩
  | call =>
    cases hcallee : n.child? .callee with
    | none => exact .inl (by simp only [visit, hkind, hcallee])
    | some callee =>
      cases hword : callee.kind with
      | importWord => exact .inr ⟨_, .dynamic hkind hcallee hword⟩
      | identifier =>
        cases hname : textOf bytes callee with
        | error f => exact .inr ⟨_, .unreadable hkind hcallee hword hname⟩
        | ok name =>
          by_cases hbound : name ∈ names
          · exact .inr ⟨_, .buildTime hkind hcallee hword hname hbound⟩
          · refine .inl ?_
            have hcontains : names.contains name = false := by simpa using hbound
            simp only [visit, hkind, hcallee, hword, hname]
            change (if names.contains name then _ else _) = _
            rw [hcontains]
            rfl
      | _ => exact .inl (by simp only [visit, hkind, hcallee, hword])
  | _ => exact .inl (by simp only [visit, hkind])

/-- A visit finds the constructs and passes over everything else. -/
theorem construct_iff (names : List Text) (n : Node) (r : Except Fault Import) :
    Construct o bytes names n r ↔ visit o bytes names n = r.map some :=
  Walk.gives_iff visit_construct (visit_other names n)

/-! ### Places -/

/-- The children of every node lie inside it, in their order and none in another. -/
inductive Nested : Node → Prop where
  | mk {info : Info} {children : List Node}
      (hinside : ∀ c ∈ children,
        info.start ≤ c.start ∧ c.start ≤ c.stop ∧ c.stop ≤ info.stop)
      (horder : children.Pairwise fun a b => a.start ≤ b.start ∧ a.stop ≤ b.start)
      (hchildren : ∀ c ∈ children, Nested c) : Nested (.mk info children)

/-- What is below a node starts inside it. -/
theorem Nested.within {n : Node} (h : Nested n) (hspan : n.start ≤ n.stop) :
    ∀ m ∈ n.preorder, n.start ≤ m.start ∧ m.start ≤ n.stop := by
  induction h with
  | @mk info children hinside horder hchildren ih =>
    intro m hm
    rw [Node.preorder_eq] at hm
    rcases List.mem_cons.mp hm with rfl | hm
    · exact ⟨Nat.le_refl _, hspan⟩
    · obtain ⟨c, hc, hm⟩ := List.mem_flatMap.mp hm
      obtain ⟨hstart, hchild, hstop⟩ := hinside c hc
      have hbelow := ih c hc hchild m hm
      change info.start ≤ m.start ∧ m.start ≤ info.stop
      omega

/-- In preorder, nodes start one after the other. -/
theorem Nested.ascending {n : Node} (h : Nested n) :
    n.preorder.Pairwise fun a b => a.start ≤ b.start := by
  induction h with
  | @mk info children hinside horder hchildren ih =>
    have hwithin : ∀ c ∈ children, ∀ m ∈ c.preorder, c.start ≤ m.start ∧ m.start ≤ c.stop :=
      fun c hc => (hchildren c hc).within (hinside c hc).2.1
    rw [Node.preorder_eq, List.pairwise_cons]
    constructor
    · intro m hm
      obtain ⟨c, hc, hm⟩ := List.mem_flatMap.mp hm
      have hstart := (hinside c hc).1
      have hbelow := hwithin c hc m hm
      change info.start ≤ m.start
      omega
    · rw [List.pairwise_flatMap]
      refine ⟨ih, horder.imp_of_mem ?_⟩
      -- what is below the first child starts before it ends, and the next child starts there
      intro a b ha hb hab x hx y hy
      have hfirst := hwithin a ha x hx
      have hsecond := hwithin b hb y hy
      omega

/-! ### What the walk finds -/

/-- Concrete syntax trees are walked in preorder.  The imports of a tree are those of the
    recursion.  They are the records of its constructs in preorder, one for each; there are
    none exactly if the names cannot be looked for or a construct has no record, and then the
    first failure is told.  In a nested tree the constructs start one after the other. -/
theorem extract_in_preorder (o : Origin) (bytes : Bytes) (root : Node) :
    extract o bytes root = (do walk o bytes (← macroBindings bytes root) root)
      ∧ (∀ records, extract o bytes root = .ok records ↔
          ∃ names found, macroBindings bytes root = .ok names
            ∧ Walk.Recorded (Construct o bytes names) root.preorder found
            ∧ found.map Prod.snd = records)
      ∧ (∀ f, extract o bytes root = .error f ↔
          macroBindings bytes root = .error f
            ∨ ∃ names before n after, macroBindings bytes root = .ok names
              ∧ root.preorder = before ++ n :: after
              ∧ (∃ found, Walk.Recorded (Construct o bytes names) before found)
              ∧ Construct o bytes names n (.error f))
      ∧ (Nested root → ∀ names found,
          Walk.Recorded (Construct o bytes names) root.preorder found →
          (found.map (·.1.start)).Pairwise (· ≤ ·)) := by
  refine ⟨extract_eq_walk root, ?_, ?_, ?_⟩
  · intro records
    rw [extract_eq_collect]
    exact Walk.scan_eq_ok_iff construct_iff
  · intro f
    rw [extract_eq_collect]
    exact Walk.scan_eq_error_iff construct_iff
  · intro hnested names found hfound
    have hstarts : (found.map Prod.fst).Pairwise fun a b => a.start ≤ b.start :=
      hnested.ascending.sublist hfound.sublist
    rw [List.pairwise_map] at hstarts ⊢
    exact hstarts

/-! ### An import inside an import -/

namespace Inner

/-- A dynamic import whose second argument is one, too. -/
def source : Bytes := (Text.ofString "import('a',import('b'))").utf8

def string (start stop : Nat) : Node := .mk { kind := .string, start, stop } []

/-- A dynamic import with its arguments. -/
def call (start stop : Nat) (arguments : List Node) : Node :=
  .mk { kind := .call, start, stop }
    [.mk { kind := .importWord, start, stop := start + 6, field := some .callee } [],
     .mk { kind := .other "arguments", start := start + 6, stop, field := some .arguments }
      arguments]

def root : Node :=
  .mk { kind := .other "program", stop := 23 }
    [call 0 23 [string 7 10, call 11 22 [string 18 21]]]

def origin : Origin :=
  { path := Text.ofString "a.js"
    package :=
      { name := .str "p", root := Text.ofString "/p", extensions := defaultExtensions,
        parser := .treeSitter, options := .null, version := .null, treeType := none } }

/-- The outer import comes first. -/
def records : List Import :=
  [origin.record true (.literal (.str "a")), origin.record true (.literal (.str "b"))]

theorem nested_leaf (info : Info) : Nested (.mk info []) := .mk nofun .nil nofun

theorem nested_call {start stop : Nat} {arguments : List Node} (hstart : start + 6 ≤ stop)
    (hinside : ∀ c ∈ arguments, start + 6 ≤ c.start ∧ c.start ≤ c.stop ∧ c.stop ≤ stop)
    (horder : arguments.Pairwise fun a b => a.start ≤ b.start ∧ a.stop ≤ b.start)
    (harguments : ∀ c ∈ arguments, Nested c) : Nested (call start stop arguments) := by
  refine .mk ?_ ?_ ?_
  · simp [Node.start, Node.stop, Node.info, hstart]
  · simp [Node.start, Node.stop, Node.info]
  · simp only [List.forall_mem_cons, List.not_mem_nil, false_implies, implies_true, and_true]
    exact ⟨nested_leaf _, .mk hinside horder harguments⟩

theorem root_nested : Nested root := by
  have hinner : Nested (call 11 22 [string 18 21]) := by
    refine nested_call (by decide) (by decide) (by decide) ?_
    exact List.forall_mem_singleton.mpr (nested_leaf _)
  have houter : Nested (call 0 23 [string 7 10, call 11 22 [string 18 21]]) := by
    refine nested_call (by decide) (by decide) (by decide) ?_
    exact List.forall_mem_cons.mpr ⟨nested_leaf _, List.forall_mem_singleton.mpr hinner⟩
  exact .mk (by decide) (by decide) (List.forall_mem_singleton.mpr houter)

end Inner

theorem extract_in_preorder_inner :
    Nested Inner.root
      ∧ ∃ names found, macroBindings Inner.source Inner.root = .ok names
        ∧ Walk.Recorded (Construct Inner.origin Inner.source names) Inner.root.preorder found
        ∧ found.map Prod.snd = Inner.records ∧ (found.map (·.1.start)).Pairwise (· ≤ ·) := by
  have hextract : extract Inner.origin Inner.source Inner.root = .ok Inner.records := by
    rw [extract_eq_walk]
    rfl
  obtain ⟨-, hok, -, horder⟩ := extract_in_preorder Inner.origin Inner.source Inner.root
  obtain ⟨names, found, hnames, hfound, hrecords⟩ := (hok Inner.records).mp hextract
  exact ⟨Inner.root_nested, names, found, hnames, hfound, hrecords,
    horder Inner.root_nested names found hfound⟩

end Cst

/-! ## ESTrees -/

namespace Estree

/-- A node that imports something, with its record or the reason why it has none: an import
    declaration, a re-export from a module, a dynamic import in either form, or the call of a
    name that is bound to the build-time import.  The name of a call is looked up in a set, so
    one that cannot be a member is a reason, too. -/
inductive Construct (o : Origin) (names : List Datum) (d : Datum) :
    Except Fault Import → Prop where
  | declaration (htype : d.field "type" = .str "ImportDeclaration") :
      Construct o names d (.ok (o.record false (.literal ((d.field "source").field "value"))))
  | reexport (htype : d.field "type" = .str "ExportNamedDeclaration")
      (hsource : d.field "source" ≠ .null) :
      Construct o names d (.ok (o.record false (.literal ((d.field "source").field "value"))))
  | expression (htype : d.field "type" = .str "ImportExpression") :
      Construct o names d ((argumentTarget o.path (d.field "source")).map (o.record true))
  | dynamic (htype : d.field "type" = .str "CallExpression")
      (hcallee : (d.field "callee").field "type" = .str "Import") :
      Construct o names d
        ((do argumentTarget o.path (← firstArgument o.path d)).map (o.record true))
  | buildTime (htype : d.field "type" = .str "CallExpression")
      (hcallee : (d.field "callee").field "type" = .str "Identifier")
      (hscalar : ((d.field "callee").field "name").isScalar = true)
      (hbound : ∃ name ∈ names, (name == (d.field "callee").field "name") = true) :
      Construct o names d
        ((do argumentTarget o.path (← firstArgument o.path d)).map (o.record false))
  | unhashable (htype : d.field "type" = .str "CallExpression")
      (hcallee : (d.field "callee").field "type" = .str "Identifier")
      (hscalar : ((d.field "callee").field "name").isScalar = false) :
      Construct o names d (.error (.unhashable ((d.field "callee").field "name")))

variable {o : Origin}

theorem visit_reexport {names : List Datum} {d : Datum}
    (htype : isOfType d "ExportNamedDeclaration" = true) (hsource : d.field "source" ≠ .null) :
    visit o names d
      = .ok (some (o.record false (.literal ((d.field "source").field "value")))) := by
  rw [visit, isOfType_ne htype (by decide), htype]
  cases hd : d.field "source" with
  | null => exact absurd hd hsource
  | _ => rfl

theorem visit_construct {names : List Datum} {d : Datum} (r : Except Fault Import)
    (h : Construct o names d r) : visit o names d = r.map some := by
  cases h with
  | declaration htype =>
    rw [visit, isOfType_iff.mpr htype]
    rfl
  | reexport htype hsource => exact visit_reexport (isOfType_iff.mpr htype) hsource
  | expression htype =>
    have hexpression := isOfType_iff.mpr htype
    simp [visit, hexpression, isOfType_ne hexpression, ← Origin.map_record]
  | dynamic htype hcallee =>
    rw [visit_call (isOfType_iff.mpr htype), visitCall, if_pos (isOfType_iff.mpr hcallee),
      ← Origin.map_record, bind_assoc]
  | buildTime htype hcallee hscalar hbound =>
    have hidentifier := isOfType_iff.mpr hcallee
    have hany : names.any (· == (d.field "callee").field "name") = true :=
      List.any_eq_true.mpr hbound
    rw [visit_call (isOfType_iff.mpr htype), visitCall, isOfType_ne hidentifier (by decide),
      hidentifier, member, if_pos hscalar, ← Origin.map_record, bind_assoc]
    change (if names.any _ then _ else _) = _
    rw [if_pos hany]
  | unhashable htype hcallee hscalar =>
    have hidentifier := isOfType_iff.mpr hcallee
    rw [visit_call (isOfType_iff.mpr htype), visitCall, isOfType_ne hidentifier (by decide),
      hidentifier, member, hscalar]
    rfl

theorem visit_other (names : List Datum) (d : Datum) :
    visit o names d = .ok none ∨ ∃ r, Construct o names d r := by
  by_cases hdeclaration : isOfType d "ImportDeclaration" = true
  · exact .inr ⟨_, .declaration (isOfType_iff.mp hdeclaration)⟩
  by_cases hreexport : isOfType d "ExportNamedDeclaration" = true
  · cases hsource : d.field "source" with
    | null => exact .inl (by simp [visit, hdeclaration, hreexport, hsource])
    | _ => exact .inr ⟨_, .reexport (isOfType_iff.mp hreexport) (by simp [hsource])⟩
  by_cases hexpression : isOfType d "ImportExpression" = true
  · exact .inr ⟨_, .expression (isOfType_iff.mp hexpression)⟩
  by_cases hcall : isOfType d "CallExpression" = true
  · have htype := isOfType_iff.mp hcall
    rw [visit_call hcall, visitCall]
    by_cases hword : isOfType (d.field "callee") "Import" = true
    · exact .inr ⟨_, .dynamic htype (isOfType_iff.mp hword)⟩
    by_cases hidentifier : isOfType (d.field "callee") "Identifier" = true
    · have hcallee := isOfType_iff.mp hidentifier
      cases hscalar : ((d.field "callee").field "name").isScalar with
      | false => exact .inr ⟨_, .unhashable htype hcallee hscalar⟩
      | true =>
        by_cases hbound : ∃ name ∈ names, (name == (d.field "callee").field "name") = true
        · exact .inr ⟨_, .buildTime htype hcallee hscalar hbound⟩
        · -- the call of any other name
          have hany : names.any (· == (d.field "callee").field "name") = false := by
            rw [Bool.eq_false_iff]
            exact fun h => hbound (List.any_eq_true.mp h)
          refine .inl ?_
          simp only [hword, hidentifier, member, hscalar, if_true]
          change (if names.any _ then _ else _) = _
          rw [hany]
          rfl
    · exact .inl (by simp [hword, hidentifier])
  · -- a node of any other type
    exact .inl (by simp [visit, hdeclaration, hreexport, hexpression, hcall])

/-- A visit finds the constructs and passes over everything else. -/
theorem construct_iff (names : List Datum) (d : Datum) (r : Except Fault Import) :
    Construct o names d r ↔ visit o names d = r.map some :=
  Walk.gives_iff visit_construct (visit_other names d)

/-- ESTrees are walked field by field.  The imports of a program are those of the
    recursion.  They are the records of its constructs, one for each, in the order in which the
    nodes stand in the fields and in the lists of the nodes before them; there are none exactly
    if the names cannot be looked for or a construct has no record, and then the first failure
    is told. -/
theorem extract_field_by_field (o : Origin) (entries : List (Datum × Datum)) :
    extract o (.map entries) = (do walkNode o (← macroBindings (.map entries)) entries)
      ∧ (∀ records, extract o (.map entries) = .ok records ↔
          ∃ names found, macroBindings (.map entries) = .ok names
            ∧ Walk.Recorded (Construct o names) (preorder (.map entries)) found
            ∧ found.map Prod.snd = records)
      ∧ (∀ f, extract o (.map entries) = .error f ↔
          macroBindings (.map entries) = .error f
            ∨ ∃ names before d after, macroBindings (.map entries) = .ok names
              ∧ preorder (.map entries) = before ++ d :: after
              ∧ (∃ found, Walk.Recorded (Construct o names) before found)
              ∧ Construct o names d (.error f)) := by
  refine ⟨extract_eq_walk entries, ?_, ?_⟩
  · intro records
    rw [extract_eq_collect]
    exact Walk.scan_eq_ok_iff construct_iff
  · intro f
    rw [extract_eq_collect]
    exact Walk.scan_eq_error_iff construct_iff

end Estree

end ImportScan
