import ImportScan.Proofs.Analyzer.Apply

/-! # How a patch is run

    A patch that is spelled out is checked for unknown operations, the parser is set up, and
    then the operations are applied to a session that does not depend on the patch.  What comes
    after the last operation only refreshes the view and reports.

    * `Patch.spelled`    : the names that spell a patch; `readPatch_spelled` undoes it.
    * `started`          : the session in which the first operation is applied.
    * `exec_runBuild`    : a patch is run by applying its operations there.
    * `Keeps`            : the parts of a session that a step leaves as they were.
-/

namespace ImportScan

/-! ## Spelling -/

namespace Operation

theorem ofName?_name (op : Operation) : ofName? op.name = some op := by
  cases op <;> decide +kernel

theorem name_of_ofName? {op : Operation} {t : Text} (h : ofName? t = some op) : op.name = t := by
  simpa using List.find?_some h

end Operation

/-- The names of the operations of a patch, with their paths. -/
def Patch.spelled (patch : Patch) : List (Text × Text) := patch.map fun o => (o.1.name, o.2)

namespace Act

open Session

variable {s s' : Session} {sources : Sources} {tree : Option OutputTree} {patch : Patch}
variable {ops : List (Text × Text)} {stats : Stats} {e : Fault}

theorem readPatch_spelled (patch : Patch) : readPatch patch.spelled = .ok patch := by
  have hknown : patch.spelled.filter (fun o => (Operation.ofName? o.1).isNone) = [] := by
    rw [List.filter_eq_nil_iff]
    intro o ho
    obtain ⟨o', -, rfl⟩ := List.mem_map.mp ho
    simp [Operation.ofName?_name]
  have hread : patch.spelled.filterMap
      (fun o => (Operation.ofName? o.1).map fun op => (op, o.2)) = patch := by
    simp [Patch.spelled, List.filterMap_map, Operation.ofName?_name]
  unfold readPatch
  rw [hknown]
  exact congrArg Except.ok hread

/-- Known names spell a patch. -/
theorem spelled_of_known (h : ∀ o ∈ ops, Operation.ofName? o.1 ≠ none) :
    ∃ patch, ops = Patch.spelled patch := by
  induction ops with
  | nil => exact ⟨[], rfl⟩
  | cons o rest ih =>
    obtain ⟨hfirst, hrest⟩ := List.forall_mem_cons.mp h
    obtain ⟨patch, rfl⟩ := ih hrest
    obtain ⟨op, hop⟩ := Option.ne_none_iff_exists'.mp hfirst
    refine ⟨(op, o.2) :: patch, ?_⟩
    simp [Patch.spelled, Operation.name_of_ofName? hop]

/-- Names are read as a patch unless one of them is unknown. -/
theorem readPatch_cases (ops : List (Text × Text)) :
    (∃ patch, ops = Patch.spelled patch) ∨
      ((∃ o ∈ ops, Operation.ofName? o.1 = none) ∧ ∃ e, readPatch ops = .error e) := by
  by_cases hknown : ∃ o ∈ ops, Operation.ofName? o.1 = none
  · obtain ⟨o, ho, hnone⟩ := hknown
    refine .inr ⟨⟨o, ho, hnone⟩, ?_⟩
    unfold readPatch
    split
    · next hnil =>
      exact absurd hnone (by simpa using List.filter_eq_nil_iff.mp hnil o ho)
    · exact ⟨_, rfl⟩
  · exact .inl (spelled_of_known fun o ho hnone => hknown ⟨o, ho, hnone⟩)

theorem exec_runNamed_spelled [Parsers] (sources : Sources) (tree : Option OutputTree)
    (patch : Patch) (s : Session) :
    exec (runNamed sources tree patch.spelled) s = exec (runBuild sources tree patch) s := by
  unfold runNamed
  rw [readPatch_spelled]

theorem exec_runNamed_error [Parsers] (sources : Sources) (tree : Option OutputTree) (s : Session)
    (h : readPatch ops = .error e) : exec (runNamed sources tree ops) s = (.error e, s) := by
  unfold runNamed
  rw [h]
  rfl

/-- A patch that is run was spelled by known names. -/
theorem of_runNamed_ok [Parsers] (h : exec (runNamed sources tree ops) s = (.ok stats, s')) :
    ∃ patch, ops = Patch.spelled patch ∧
      exec (runBuild sources tree patch) s = (.ok stats, s') := by
  obtain ⟨patch, rfl⟩ | ⟨-, e, he⟩ := readPatch_cases ops
  · rw [exec_runNamed_spelled] at h
    exact ⟨patch, rfl, h⟩
  · rw [exec_runNamed_error sources tree s he] at h
    cases h

/-! ## Before the first operation -/

/-- The session in which the first operation of a patch is applied: the parser is set up, and
    nothing is counted yet. -/
def started (s : Session) : Session :=
  let s₁ := (exec setup s).2
  { s₁ with analyzer := { s₁.analyzer with syntaxErrors := 0, filesParsed := 0 } }

/-- Starting sets up the parser and resets the counts, and that is all. -/
theorem started_eq {b₀ : Backend} (h : s.analyzer.parser = .ok b₀) :
    ∃ b log, b.unloaded = b₀ ∧
      started s = { s with
        analyzer := { s.analyzer with backend := some b, syntaxErrors := 0, filesParsed := 0 }
        log } := by
  obtain ⟨b, log, hb, hexec⟩ := exec_setup_ok h
  exact ⟨b, log, hb, by rw [started, hexec]⟩

theorem started_store {b₀ : Backend} (h : s.analyzer.parser = .ok b₀) :
    (started s).analyzer.store = s.analyzer.store := by
  obtain ⟨b, log, -, heq⟩ := started_eq h
  rw [heq]

theorem started_disk {b₀ : Backend} (h : s.analyzer.parser = .ok b₀) :
    (started s).disk = s.disk := by
  obtain ⟨b, log, -, heq⟩ := started_eq h
  rw [heq]

theorem frame_started {b₀ : Backend} (h : s.analyzer.parser = .ok b₀) : Frame s (started s) := by
  obtain ⟨b, log, rfl, heq⟩ := started_eq h
  rw [heq]
  exact ⟨⟨rfl, rfl, h.symm⟩, rfl, rfl, id⟩

/-! ## After the last operation -/

/-- What is told about a patch of a number of operations that was applied. -/
def told (count : Nat) (s : Session) : Stats :=
  ⟨count, s.analyzer.filesParsed, s.analyzer.syntaxErrors,
    (s.analyzer.view.get s.analyzer.store).length⟩

/-- Refreshing the view and reporting stay within the frame. -/
theorem frame_refreshed (s : Session) (log : List LogLine) :
    Frame s { s with
      analyzer := { s.analyzer with view := s.analyzer.view.refresh s.analyzer.store }, log } :=
  ⟨⟨rfl, rfl, rfl⟩, rfl, rfl, View.Coherent.refresh⟩

theorem exec_imports (s : Session) :
    ∃ log, exec imports s = (.ok (s.analyzer.view.get s.analyzer.store), { s with
      analyzer := { s.analyzer with view := s.analyzer.view.refresh s.analyzer.store }, log }) := by
  unfold imports
  rw [exec_bind_ok (exec_get s)]
  simp only
  split
  · rw [exec_bind_ok (exec_report _ s)]
    exact ⟨_, rfl⟩
  · exact ⟨_, rfl⟩

/-- A patch whose parser can be set up is applied from the session `started`, and when that
    succeeds, the view is refreshed. -/
theorem exec_runBuild [Parsers] {b₀ : Backend} (h : s.analyzer.parser = .ok b₀) (sources : Sources)
    (tree : Option OutputTree) (patch : Patch) :
    match exec (applyAll sources tree patch) (started s) with
    | (.error e, s₂) => exec (runBuild sources tree patch) s = (.error e, s₂)
    | (.ok _, s₂) => ∃ log, exec (runBuild sources tree patch) s =
        (.ok (told patch.length s₂), { s₂ with
          analyzer := { s₂.analyzer with view := s₂.analyzer.view.refresh s₂.analyzer.store }
          log }) := by
  -- what comes before the first operation does not look at the patch
  obtain ⟨b, log, -, hsetup⟩ := exec_setup_ok h
  have hdiscard : exec (discard setup) s = (.ok (), (exec setup s).2) := by
    rw [exec_discard, hsetup]
    rfl
  have hrun : exec (runBuild sources tree patch) s =
      exec (do
        applyAll sources tree patch
        let all ← imports
        let a := (← get).analyzer
        let stats : Stats := ⟨patch.length, a.filesParsed, a.syntaxErrors, all.length⟩
        report [completeLine stats]
        return stats) (started s) := by
    unfold runBuild
    rw [exec_bind_ok hdiscard, exec_bind_ok (exec_update _ _)]
    rfl
  rw [hrun]
  rcases hpatch : exec (applyAll sources tree patch) (started s) with ⟨e | u, s₂⟩
  · exact exec_bind_error hpatch _
  · obtain ⟨log, himports⟩ := exec_imports s₂
    rw [exec_bind_ok hpatch, exec_bind_ok himports, exec_bind_ok (exec_get _),
      exec_bind_ok (exec_report _ _)]
    exact ⟨_, rfl⟩

/-- A patch fails to be run when the parser cannot be set up. -/
theorem exec_runBuild_error [Parsers] (h : s.analyzer.parser = .error e) (sources : Sources)
    (tree : Option OutputTree) (patch : Patch) :
    ∃ log, exec (runBuild sources tree patch) s = (.error e, { s with log }) := by
  obtain ⟨-, -, log, hsetup⟩ := exec_setup_error h
  have hdiscard : exec (discard setup) s = (.error e, { s with log }) := by
    rw [exec_discard, hsetup]
    rfl
  exact ⟨log, exec_bind_error hdiscard _⟩

/-- A patch that is run has a parser, and its operations are applied. -/
theorem of_runBuild_ok [Parsers] (h : exec (runBuild sources tree patch) s = (.ok stats, s')) :
    (∃ b₀, s.analyzer.parser = .ok b₀) ∧ ∃ s₂ log,
      exec (applyAll sources tree patch) (started s) = (.ok (), s₂) ∧
      stats = told patch.length s₂ ∧ s' = { s₂ with
        analyzer := { s₂.analyzer with view := s₂.analyzer.view.refresh s₂.analyzer.store }
        log } := by
  cases hparser : s.analyzer.parser with
  | error e =>
    obtain ⟨log, hexec⟩ := exec_runBuild_error hparser sources tree patch
    rw [hexec] at h
    cases h
  | ok b₀ =>
    have hrun := exec_runBuild hparser sources tree patch
    rcases hpatch : exec (applyAll sources tree patch) (started s) with ⟨e | u, s₂⟩
    · simp only [hpatch] at hrun
      rw [hrun] at h
      cases h
    · simp only [hpatch] at hrun
      obtain ⟨log, hexec⟩ := hrun
      rw [hexec] at h
      cases h
      exact ⟨⟨b₀, rfl⟩, s₂, log, rfl, rfl, rfl⟩

/-! ## What steps leave alone -/

section Keeping

variable {α β γ : Type}

/-- A step leaves a part of the session as it was, whether it succeeds or not. -/
def Keeps (part : Session → γ) (x : Act α) : Prop := ∀ s, part (exec x s).2 = part s

theorem Keeps.bind {part : Session → γ} {x : Act α} {f : α → Act β} (hx : Keeps part x)
    (hf : ∀ a, Keeps part (f a)) : Keeps part (x >>= f) := by
  intro s
  have hfirst := hx s
  rw [exec_bind]
  rcases hexec : exec x s with ⟨e | a, s₁⟩
  · rwa [hexec] at hfirst
  · rw [hexec] at hfirst
    exact (hf a s₁).trans hfirst

theorem keeps_pure (part : Session → γ) (a : α) : Keeps part (pure a) := fun _ => rfl

theorem keeps_throw (part : Session → γ) (e : Fault) : Keeps part (throw e : Act α) := fun _ => rfl

theorem keeps_get (part : Session → γ) : Keeps part (get : Act Session) := fun _ => rfl

theorem Keeps.discard {part : Session → γ} {x : Act α} (hx : Keeps part x) :
    Keeps part (discard x) := by
  intro s
  rw [exec_discard]
  exact hx s

/-- A part of the session that has nothing to do with parsing. -/
structure Aside (part : Session → γ) : Prop where
  log : ∀ s log, part { s with log } = part s
  parser : ∀ s backend filesParsed syntaxErrors, part { s with
    analyzer := { s.analyzer with backend, filesParsed, syntaxErrors } } = part s

theorem aside_reads : Aside Session.reads := ⟨fun _ _ => rfl, fun _ _ _ _ => rfl⟩

theorem aside_view : Aside (·.analyzer.view) := ⟨fun _ _ => rfl, fun _ _ _ _ => rfl⟩

variable {part : Session → γ} (h : Aside part)
include h

theorem Aside.report (lines : List LogLine) : Keeps part (report lines) := fun s => h.log s _

theorem Aside.setup : Keeps part setup := by
  refine .bind (keeps_get part) fun s => ?_
  simp only
  split
  · exact keeps_pure part _
  · refine .bind (h.report _) fun _ => ?_
    split
    · exact .bind (fun s => h.parser s _ _ _) fun _ => keeps_pure part _
    · exact keeps_throw part _

theorem Aside.parse [Parsers] (path source : Text) : Keeps part (parse path source) := by
  refine .bind h.setup fun b => .bind (fun s => h.parser s _ _ _) fun _ => ?_
  refine .bind (keeps_get part) fun s => .bind (h.report _) fun _ => ?_
  refine .bind (fun s => h.parser s _ _ _) fun _ => ?_
  split
  · exact keeps_pure part _
  · refine .bind (h.report _) fun _ => ?_
    exact .bind (fun s => h.parser s _ _ _) fun _ => keeps_pure part _
  · exact keeps_throw part _

/-- Storing the records of a source concerns the store only, apart from parsing. -/
theorem Aside.updateImports [Parsers] (hstore : ∀ s store, part { s with
      analyzer := { s.analyzer with store } } = part s) (path source : Text) :
    Keeps part (updateImports path source) := by
  refine .bind (h.report _) fun _ => .bind (h.parse path source) fun records => ?_
  refine .bind (keeps_get part) fun s => ?_
  exact .bind (fun s => hstore s _) fun _ => keeps_pure part _

end Keeping

theorem keeps_view_track [Parsers] (sources : Sources) (path : Text) :
    Keeps (·.analyzer.view) (track sources path) := by
  refine .bind (keeps_get _) fun s => ?_
  split
  · refine .bind (fun s => by rw [exec_readSource]) fun source => .discard ?_
    exact aside_view.updateImports (fun _ _ => rfl) path source
  · exact keeps_pure _ _

/-- Forgetting a file concerns the store only, apart from a line. -/
theorem keeps_untrack {γ : Type} {part : Session → γ} (hlog : ∀ s log, part { s with log } = part s)
    (hstore : ∀ s store, part { s with analyzer := { s.analyzer with store } } = part s)
    (path : Text) : Keeps part (untrack path) := by
  refine .bind (keeps_get _) fun s => ?_
  split
  · refine .discard (.bind (fun s => hlog s _) fun _ => .bind (keeps_get _) fun s => ?_)
    exact .bind (fun s => hstore s _) fun _ => keeps_pure _ _
  · exact keeps_pure _ _

theorem keeps_view_onTree (tree : Option OutputTree)
    (call : OutputTree → Disk → Except Fault Disk) :
    Keeps (·.analyzer.view) (onTree tree call) := by
  cases tree with
  | none => exact keeps_pure _ _
  | some t =>
    intro s
    rw [show exec (onTree (some t) call) s = exec (onDisk (call t)) s from rfl, exec_onDisk]
    split <;> rfl

theorem keeps_view_linkInto (tree : Option OutputTree) (path : Text) :
    Keeps (·.analyzer.view) (linkInto tree path) := by
  cases tree with
  | none => exact keeps_pure _ _
  | some t =>
    refine .bind (keeps_get _) fun s => .bind (aside_view.report _) fun _ => ?_
    exact keeps_view_onTree (some t) fun t d => (t.link path d).1

/-- An operation leaves the view to be refreshed later. -/
theorem keeps_view_applyAll [Parsers] (sources : Sources) (tree : Option OutputTree)
    (patch : Patch) : Keeps (·.analyzer.view) (applyAll sources tree patch) := by
  -- an operation reads and parses, or forgets; nothing of that asks for all records
  induction patch with
  | nil => exact keeps_pure _ _
  | cons o rest ih =>
    obtain ⟨op, path⟩ := o
    refine .bind ?_ fun _ => ih
    cases op with
    | unlink =>
      refine .bind (keeps_untrack (fun _ _ => rfl) (fun _ _ => rfl) path) fun _ => ?_
      exact keeps_view_onTree tree _
    | rmdir => exact keeps_view_onTree tree _
    | mkdir => exact keeps_view_onTree tree _
    | change =>
      refine .bind (keeps_view_onTree tree _) fun _ => ?_
      exact .bind (keeps_view_track sources path) fun _ => keeps_view_linkInto tree path
    | create =>
      exact .bind (keeps_view_track sources path) fun _ => keeps_view_linkInto tree path

end Act

end ImportScan
