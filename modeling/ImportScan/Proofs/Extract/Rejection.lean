import ImportScan.Backend
import ImportScan.Proofs.Extract.Walk

/-! # Rejected trees

    A tree is rejected when it shows an error, or when it holds a construct that the options
    switch off.  The first offender in preorder tells why, since the walk over a stack comes to
    it first, and an error outweighs every construct that is switched off.

    * `Cst.First`       : the first node of a tree that has a property, parents before children.
    * `Cst.Reports`     : the root of a tree reports an error exactly if the tree shows one.
    * `Cst.SwitchedOff` : the constructs that options switch off, as a message names them.
    * `Backend.read_eq` : what is read of a source is what its tree imports.
    * `Backend.accept_first_offender` : what becomes of every tree.
-/

namespace ImportScan

namespace Cst

variable {root n : Node} {options : Options} {decorators dynamicImport : Bool}

/-! ## The first node with a property -/

/-- A node has a property, and no node before it in preorder has. -/
def First (p : Node → Prop) (root n : Node) : Prop :=
  ∃ before after, root.preorder = before ++ n :: after ∧ p n ∧ ∀ m ∈ before, ¬ p m

theorem First.holds {p : Node → Prop} (h : First p root n) : p n := by
  obtain ⟨_, _, _, hn, _⟩ := h
  exact hn

theorem First.mem {p : Node → Prop} (h : First p root n) : n ∈ root.preorder := by
  obtain ⟨before, after, horder, _, _⟩ := h
  rw [horder]
  exact List.mem_append_right before List.mem_cons_self

/-- Where some node has a property, there is a first one. -/
theorem exists_first {p : Node → Prop} (h : ∃ n ∈ root.preorder, p n) : ∃ n, First p root n := by
  classical
  obtain ⟨m, hm, hp⟩ := h
  cases hfind : root.preorder.find? fun n => decide (p n) with
  | none => exact absurd hp (by simpa using List.find?_eq_none.mp hfind m hm)
  | some n =>
    obtain ⟨hn, before, after, horder, hbefore⟩ := List.find?_eq_some_iff_append.mp hfind
    refine ⟨n, before, after, horder, by simpa using hn, fun m hm => ?_⟩
    simpa using hbefore m hm

/-! ## Errors -/

/-- A tree reports an error at its root exactly if it shows one, at the root or below it. -/
def Reports (root : Node) : Prop :=
  root.info.hasError = true ↔ ∃ n ∈ root.preorder, n.isFaulty = true

theorem Reports.eq_false (h : Reports root) (hsound : ∀ n ∈ root.preorder, n.isFaulty = false) :
    root.info.hasError = false := by
  rw [Bool.eq_false_iff]
  intro herror
  obtain ⟨n, hn, hfaulty⟩ := h.mp herror
  rw [hsound n hn] at hfaulty
  cases hfaulty

/-- A walk over a tree takes the first answer that its nodes give in preorder. -/
theorem first?_root {β : Type} (look : Node → Option β) (root : Node) :
    Walk.first? branching look [root] = root.preorder.findSome? look := by
  rw [Walk.first?_eq, List.flatMap_singleton]
  rfl

/-- The first node with a property gives the answer of a walk to which no other node has one. -/
theorem First.first? {β : Type} {p : Node → Prop} {look : Node → Option β} {answer : β}
    (h : First p root n) (hanswer : look n = some answer)
    (hsilent : ∀ m, ¬ p m → look m = none) :
    Walk.first? branching look [root] = some answer := by
  obtain ⟨before, after, horder, -, hbefore⟩ := h
  rw [first?_root, List.findSome?_eq_some_iff]
  exact ⟨before, n, after, horder, hanswer, fun m hm => hsilent m (hbefore m hm)⟩

/-- The first error of a tree is the one that is described. -/
theorem describeError_eq (h : First (·.isFaulty = true) root n) :
    describeError root = .unexpected n.info.row n.info.column := by
  have hfirst : Walk.first? branching faulty? [root] =
      some (.unexpected n.info.row n.info.column) := by
    apply h.first?
    · rw [faulty?, if_pos h.holds]
    · intro m hsound
      rw [faulty?, if_neg hsound]
  rw [describeError, hfirst, Option.getD_some]

/-! ## Constructs that are switched off -/

/-- A node is a construct that the options switch off, in the words of the message about it. -/
inductive SwitchedOff (options : Options) (n : Node) : String → Prop where
  | decorator (hoption : options.decorators = false) (hkind : n.kind = .decorator) :
      SwitchedOff options n "Decorators are not enabled"
  | dynamicImport {callee : Node} (hoption : options.dynamicImport = false)
      (hkind : n.kind = .call) (hcallee : n.child? .callee = some callee)
      (hword : callee.kind = .importWord) :
      SwitchedOff options n "Dynamic import is not enabled"

theorem isDynamicImport_iff :
    n.isDynamicImport = true ↔
      n.kind = .call ∧ ∃ callee, n.child? .callee = some callee ∧ callee.kind = .importWord := by
  unfold Node.isDynamicImport
  cases n.child? .callee with
  | none => simp
  | some callee => simp

/-- A construct that is switched off is told with its line. -/
theorem SwitchedOff.disabled? {what : String} (h : SwitchedOff options n what) :
    ∃ cause, disabled? options.decorators options.dynamicImport n = some cause ∧
      cause.message = SyntaxFault.atLine n.info.row what := by
  cases h with
  | decorator hoption hkind => exact ⟨.decorator n.info.row, by simp [Cst.disabled?, *], rfl⟩
  | dynamicImport hoption hkind hcallee hword =>
    have hcall : n.isDynamicImport = true := isDynamicImport_iff.mpr ⟨hkind, _, hcallee, hword⟩
    exact ⟨.dynamicImport n.info.row, by simp [Cst.disabled?, hoption, hkind, hcall], rfl⟩

/-- Nothing else is told. -/
theorem switchedOff_of_disabled? {cause : SyntaxFault}
    (h : disabled? options.decorators options.dynamicImport n = some cause) :
    ∃ what, SwitchedOff options n what := by
  unfold disabled? at h
  split at h
  · next hdecorator =>
    simp only [Bool.and_eq_true, Bool.not_eq_true', beq_iff_eq] at hdecorator
    exact ⟨_, .decorator hdecorator.1 hdecorator.2⟩
  · split at h
    · next hcall =>
      simp only [Bool.and_eq_true, Bool.not_eq_true'] at hcall
      obtain ⟨hkind, callee, hcallee, hword⟩ := isDynamicImport_iff.mp hcall.2
      exact ⟨_, .dynamicImport hcall.1 hkind hcallee hword⟩
    · cases h

theorem disabled?_eq_none_iff :
    disabled? options.decorators options.dynamicImport n = none ↔
      ¬ ∃ what, SwitchedOff options n what := by
  constructor
  · rintro hnone ⟨what, hwhat⟩
    obtain ⟨cause, hcause, -⟩ := hwhat.disabled?
    rw [hnone] at hcause
    cases hcause
  · intro hno
    cases hcause : disabled? options.decorators options.dynamicImport n with
    | none => rfl
    | some cause => exact absurd (switchedOff_of_disabled? hcause) hno

/-- A tree without errors is rejected for what is switched off, also if both checks are skipped
    because nothing is. -/
theorem reject?_of_sound (hsound : root.info.hasError = false) :
    reject? options.decorators options.dynamicImport root =
      root.preorder.findSome? (disabled? options.decorators options.dynamicImport) := by
  unfold reject?
  rw [hsound, if_neg Bool.false_ne_true]
  split
  · next hon =>
    rw [Bool.and_eq_true] at hon
    refine (List.findSome?_eq_none_iff.mpr fun n _ => ?_).symm
    simp [disabled?, hon.1, hon.2]
  · exact first?_root _ root

theorem reject?_eq_none_iff :
    reject? options.decorators options.dynamicImport root = none ↔
      root.info.hasError = false ∧ ∀ n ∈ root.preorder, ∀ what, ¬ SwitchedOff options n what := by
  cases herror : root.info.hasError with
  | true => simp [reject?, herror]
  | false =>
    rw [reject?_of_sound herror, List.findSome?_eq_none_iff]
    simp only [disabled?_eq_none_iff, not_exists, true_and]

/-- The first construct that is switched off is the reason. -/
theorem findSome?_disabled? (h : First (fun m => ∃ what, SwitchedOff options m what) root n)
    {what : String} (hwhat : SwitchedOff options n what) :
    ∃ cause, root.preorder.findSome? (disabled? options.decorators options.dynamicImport) =
        some cause ∧
      cause.message = SyntaxFault.atLine n.info.row what := by
  obtain ⟨cause, hcause, hmessage⟩ := hwhat.disabled?
  refine ⟨cause, ?_, hmessage⟩
  rw [← first?_root]
  exact h.first? hcause fun m hm => disabled?_eq_none_iff.mpr hm

end Cst

namespace Backend

open Cst

section Trees

variable {b : Backend} {root n : Node}

/-- A tree is accepted as it is, or rejected for its source. -/
theorem accept_cases (b : Backend) (root : Node) :
    b.accept root = .ok root ∨ ∃ cause, b.accept root = .error (.source cause) := by
  unfold accept
  split
  · next cause _ => exact .inr ⟨cause, rfl⟩
  · exact .inl rfl

/-- A tree that reports no error and holds nothing that is switched off is accepted as it is,
    and no other tree is. -/
theorem accept_eq_ok_iff {root' : Node} : b.accept root = .ok root' ↔
    root' = root ∧ root.info.hasError = false ∧
      ∀ n ∈ root.preorder, ∀ what, ¬ SwitchedOff b.options n what := by
  rw [← reject?_eq_none_iff, accept]
  cases reject? b.options.decorators b.options.dynamicImport root with
  | none => simp [eq_comm]
  | some cause => simp

theorem accept_of_reject? {cause : SyntaxFault}
    (h : reject? b.options.decorators b.options.dynamicImport root = some cause) :
    b.accept root = .error (.source cause) := by
  rw [accept, h]

/-- The first error of a tree rejects it, whatever the options are. -/
theorem accept_of_faulty (hreports : Reports root) (hn : First (·.isFaulty = true) root n) :
    b.accept root = .error (.source (.unexpected n.info.row n.info.column)) := by
  have herror : root.info.hasError = true := hreports.mpr ⟨n, hn.mem, hn.holds⟩
  apply accept_of_reject?
  rw [reject?, if_pos herror, describeError_eq hn]

/-- In a tree without errors, the first construct that is switched off rejects it. -/
theorem accept_of_switchedOff (hreports : Reports root)
    (hsound : ∀ m ∈ root.preorder, m.isFaulty = false) {what : String}
    (hn : First (fun m => ∃ what, SwitchedOff b.options m what) root n)
    (hwhat : SwitchedOff b.options n what) :
    ∃ cause, b.accept root = .error (.source cause) ∧
      cause.message = SyntaxFault.atLine n.info.row what := by
  obtain ⟨cause, hcause, hmessage⟩ := findSome?_disabled? hn hwhat
  rw [← reject?_of_sound (hreports.eq_false hsound)] at hcause
  exact ⟨cause, accept_of_reject? hcause, hmessage⟩

/-- A tree without offenders is accepted. -/
theorem accept_of_sound (hreports : Reports root)
    (hsound : ∀ m ∈ root.preorder, m.isFaulty = false)
    (hon : ∀ m ∈ root.preorder, ∀ what, ¬ SwitchedOff b.options m what) :
    b.accept root = .ok root :=
  accept_eq_ok_iff.mpr ⟨rfl, hreports.eq_false hsound, hon⟩

end Trees

/-! ## Sources -/

/-- The tree of a source. -/
def tree [Parsers] (b : Backend) (path source : Text) : Cst.Node :=
  Parsers.tree (b.grammarFor (some path)) source

/-- What is read of a source is what its tree imports. -/
theorem read_eq [Parsers] {b : Backend} {source : Text} {bytes : Bytes}
    (hkind : b.kind = .treeSitter) (hbytes : source.utf8? = some bytes) (o : Origin) :
    (b.read o source).1 = b.treeImports o bytes (b.tree o.path source) := by
  unfold read
  simp only [hkind, hbytes]
  -- the grammar that is loaded does not change the options
  have hload : ∀ g root, (b.load g).1.treeImports o bytes root = b.treeImports o bytes root := by
    intro g root
    unfold load
    split <;> rfl
  exact hload _ _

/-! ## Offenders -/

/-- A tree that reports its errors is rejected exactly if it shows an error, or holds a decorator
    or a dynamic import that the options switch off.  An error is told with the line and the
    column of the first one; without an error, the first construct that is switched off is
    named with its line; and every other tree is accepted as it is. -/
theorem accept_first_offender (b : Backend) {root : Node} (hreports : Reports root) :
    ((∃ cause, b.accept root = .error (.source cause)) ↔
      (∃ n ∈ root.preorder, n.isFaulty = true) ∨
        ∃ n ∈ root.preorder, ∃ what, SwitchedOff b.options n what) ∧
    (∀ n, First (·.isFaulty = true) root n →
      ∃ cause, b.accept root = .error (.source cause) ∧
        (Fault.source cause).message = Text.concat
          ["Line ", Text.ofNat (n.info.row + 1), ": Unexpected token at column ",
            Text.ofNat (n.info.column + 1)]) ∧
    ((∀ n ∈ root.preorder, n.isFaulty = false) →
      ∀ n what, First (fun m => ∃ what, SwitchedOff b.options m what) root n →
        SwitchedOff b.options n what →
        ∃ cause, b.accept root = .error (.source cause) ∧
          (Fault.source cause).message = Text.concat
            ["Line ", Text.ofNat (n.info.row + 1), ": ", what]) ∧
    ((∀ n ∈ root.preorder, n.isFaulty = false ∧ ∀ what, ¬ SwitchedOff b.options n what) →
      b.accept root = .ok root) := by
  have hfaulty : ∀ n, First (·.isFaulty = true) root n →
      ∃ cause, b.accept root = .error (.source cause) ∧
        (Fault.source cause).message = Text.concat
          ["Line ", Text.ofNat (n.info.row + 1), ": Unexpected token at column ",
            Text.ofNat (n.info.column + 1)] := by
    intro n hn
    refine ⟨_, accept_of_faulty hreports hn, ?_⟩
    simp [Fault.message, SyntaxFault.message, SyntaxFault.atLine, Text.concat, Text.ofString]
  have hsound_of : (¬ ∃ n ∈ root.preorder, n.isFaulty = true) →
      ∀ n ∈ root.preorder, n.isFaulty = false := by
    intro hno n hn
    rw [Bool.eq_false_iff]
    exact fun h => hno ⟨n, hn, h⟩
  refine ⟨⟨?_, ?_⟩, hfaulty, ?_, ?_⟩
  · rintro ⟨cause, hcause⟩
    by_cases hfault : ∃ n ∈ root.preorder, n.isFaulty = true
    · exact .inl hfault
    · by_cases hoff : ∃ n ∈ root.preorder, ∃ what, SwitchedOff b.options n what
      · exact .inr hoff
      · -- without an offender the tree is accepted
        have haccept := accept_of_sound hreports (hsound_of hfault)
          fun n hn what hwhat => hoff ⟨n, hn, what, hwhat⟩
        rw [hcause] at haccept
        cases haccept
  · intro hoffender
    by_cases hfault : ∃ n ∈ root.preorder, n.isFaulty = true
    · obtain ⟨n, hn⟩ := exists_first hfault
      exact ⟨_, accept_of_faulty hreports hn⟩
    · obtain ⟨n, hn⟩ := exists_first (hoffender.resolve_left hfault)
      obtain ⟨what, hwhat⟩ := hn.holds
      obtain ⟨cause, hcause, -⟩ := accept_of_switchedOff hreports (hsound_of hfault) hn hwhat
      exact ⟨cause, hcause⟩
  · intro hsound n what hn hwhat
    exact accept_of_switchedOff hreports hsound hn hwhat
  · intro hclean
    exact accept_of_sound hreports (fun n hn => (hclean n hn).1) fun n hn => (hclean n hn).2

/-! ### A dynamic import inside a dynamic import -/

namespace Offenders

/-- A dynamic import that starts in a row. -/
def call (row : Nat) (arguments : List Node) : Node :=
  .mk { kind := .call, row }
    (.mk { kind := .importWord, row, field := some .callee } [] :: arguments)

/-- A decorator, and after it a dynamic import over some lines with another one inside. -/
def root : Node :=
  .mk { kind := .other "program" } [.mk { kind := .decorator, row := 1 } [], call 2 [call 4 []]]

/-- Dynamic imports are switched off, decorators are not. -/
def backend : Backend :=
  { kind := .treeSitter, options := [(.str "dynamic_import", .int 0), (.str "decorators", .int 1)] }

end Offenders

theorem accept_first_offender_nested :
    Reports Offenders.root ∧
      ∃ cause, Offenders.backend.accept Offenders.root = .error (.source cause) ∧
        (Fault.source cause).message = Text.ofString "Line 3: Dynamic import is not enabled" := by
  have hsound : ∀ n ∈ Offenders.root.preorder, n.isFaulty = false := by decide
  have hreports : Reports Offenders.root := by
    constructor
    · intro herror
      cases herror
    · rintro ⟨n, hn, hfaulty⟩
      rw [hsound n hn] at hfaulty
      cases hfaulty
  have hoff : SwitchedOff Offenders.backend.options (Offenders.call 2 [Offenders.call 4 []])
      "Dynamic import is not enabled" := .dynamicImport rfl rfl rfl rfl
  -- the decorator before it is no offender
  have hfirst : First (fun m => ∃ what, SwitchedOff Offenders.backend.options m what)
      Offenders.root (Offenders.call 2 [Offenders.call 4 []]) := by
    refine ⟨Offenders.root.preorder.take 2, Offenders.root.preorder.drop 3, rfl, ⟨_, hoff⟩, ?_⟩
    intro m hm
    rw [← disabled?_eq_none_iff]
    revert m hm
    decide
  obtain ⟨-, -, hnamed, -⟩ := accept_first_offender Offenders.backend hreports
  obtain ⟨cause, hcause, hmessage⟩ := hnamed hsound _ _ hfirst hoff
  exact ⟨hreports, cause, hcause, hmessage⟩

end Backend

end ImportScan
