import ImportScan.Proofs.Analyzer.Patch

/-! # What a build does

    A build takes a snapshot of the input tree, opens the output tree, if there is to be one,
    and applies the patch to the tree as it is.  If the patch cannot be applied, the analyzer
    forgets what it knows and the output tree is removed.

    * `attempt`      : the result of setting up the parser and applying a patch.
    * `Unlisted`     : the input directory has no name that the system takes.
    * `build_done`   : what a build leaves when its patch can be applied.
    * `build_failed` : what a build leaves when it cannot.
    * `Run`          : builds of an analyzer with changes to the disk in between.
-/

namespace ImportScan.Act

open Session

variable {s : Session}

/-! ## Applying a patch -/

/-- The result of setting up the parser and applying a patch. -/
def attempt [Parsers] (a : Analyzer) (sources : Sources) (tree : Option OutputTree) (patch : Patch)
    (store : Store) (d : Disk) : Except Fault Unit × Store × Disk :=
  match a.parser with
  | .error e => (.error e, store, d)
  | .ok _ => outcomes a sources tree patch store d

theorem attempt_congr [Parsers] {a a' : Analyzer} (h : a.Alike a') (sources : Sources)
    (tree : Option OutputTree) (patch : Patch) (store : Store) (d : Disk) :
    attempt a' sources tree patch store d = attempt a sources tree patch store d := by
  simp only [attempt, h.parser, outcomes_congr h]

theorem does_imports (s : Session) :
    Does imports s (.ok (s.analyzer.view.get s.analyzer.store), s.analyzer.store, s.disk) := by
  obtain ⟨log, hexec⟩ := exec_imports s
  exact .of_exec hexec (frame_refreshed s log) rfl rfl

theorem does_runBuild [Parsers] {sources : Sources} (hfixed : sources.Fixed)
    (tree : Option OutputTree) (patch : Patch) (s : Session) :
    let o := attempt s.analyzer sources tree patch s.analyzer.store s.disk
    ∃ r, Does (runBuild sources tree patch) s r ∧ r.1.map (fun _ => ()) = o.1 ∧ r.2 = o.2 := by
  unfold attempt
  cases hparser : s.analyzer.parser with
  | error e =>
    obtain ⟨log, hrun⟩ := exec_runBuild_error hparser sources tree patch
    exact ⟨_, .of_exec hrun (.of_analyzer rfl) rfl rfl, rfl, rfl⟩
  | ok b₀ =>
    have hrun := exec_runBuild hparser sources tree patch
    have hstarted := frame_started hparser
    -- the patch is applied to the store and the disk that the build found
    have hpatch := does_applyAll hfixed tree patch (started s)
    rw [outcomes_congr hstarted.toAlike, started_store hparser, started_disk hparser] at hpatch
    rcases ho : outcomes s.analyzer sources tree patch s.analyzer.store s.disk with
      ⟨e | ⟨⟩, store, d⟩
    · rw [ho] at hpatch
      obtain ⟨s₂, hexec, hframe, hstore, hdisk⟩ := hpatch.exists_exec
      simp only [hexec] at hrun
      exact ⟨_, .of_exec hrun (hstarted.trans hframe) hstore hdisk, rfl, rfl⟩
    · rw [ho] at hpatch
      obtain ⟨s₂, hexec, hframe, hstore, hdisk⟩ := hpatch.exists_exec
      simp only [hexec] at hrun
      obtain ⟨log, hrun⟩ := hrun
      have hall := (hstarted.trans hframe).trans (frame_refreshed s₂ log)
      exact ⟨_, .of_exec hrun hall hstore hdisk, rfl, rfl⟩

/-- Where sources are fixed, a patch that is run leaves what its operations leave. -/
theorem outcomes_of_runBuild_ok [Parsers] (hfixed : sources.Fixed)
    (h : exec (runBuild sources tree patch) s = (.ok stats, s')) :
    outcomes s.analyzer sources tree patch s.analyzer.store s.disk =
      (.ok (), s'.analyzer.store, s'.disk) := by
  obtain ⟨⟨b₀, hparser⟩, -⟩ := of_runBuild_ok h
  obtain ⟨⟨r, w⟩, hdoes, hresult, hleft⟩ := does_runBuild hfixed tree patch s
  have houtcome := hdoes.outcome
  simp only [attempt, hparser] at hresult hleft
  rw [h] at houtcome
  cases houtcome
  exact Prod.ext hresult.symm hleft.symm

/-- Whatever the sources are, a patch stays within the frame, and leaves a store with what every
    operation preserves. -/
theorem applyAll_preserves [Parsers] {a : Analyzer} {tree : Option OutputTree} {P : Store → Prop}
    (hop : ∀ sources op path store d, P store → P (outcome a sources tree op path store d).2.1)
    (sources : Sources) (patch : Patch) {s : Session} (halike : a.Alike s.analyzer)
    (h : P s.analyzer.store) :
    let s' := (exec (applyAll sources tree patch) s).2
    Frame s s' ∧ P s'.analyzer.store := by
  induction patch generalizing s with
  | nil => exact ⟨.refl s, h⟩
  | cons o rest ih =>
    obtain ⟨op, path⟩ := o
    have hdoes := does_apply sources tree op path s
    rw [outcome_congr halike] at hdoes
    have hfirst := hop (sources.after s.reads) op path s.analyzer.store s.disk h
    rcases houtcome : outcome a (sources.after s.reads) tree op path s.analyzer.store s.disk with
      ⟨r, store, d⟩
    rw [houtcome] at hdoes hfirst
    obtain ⟨s₁, hexec, hframe, rfl, -⟩ := hdoes.exists_exec
    unfold applyAll
    cases r with
    | error e =>
      rw [exec_bind_error hexec]
      exact ⟨hframe, hfirst⟩
    | ok u =>
      rw [exec_bind_ok hexec]
      obtain ⟨hframe', hrest⟩ := ih (halike.trans hframe.toAlike) hfirst
      exact ⟨hframe.trans hframe', hrest⟩

/-- Whatever the sources are, and whether it succeeds or not, a patch stays within the frame. -/
theorem frame_applyAll [Parsers] (sources : Sources) (tree : Option OutputTree) (patch : Patch)
    (s : Session) : Frame s (exec (applyAll sources tree patch) s).2 :=
  (applyAll_preserves (P := fun _ => True) (fun _ _ _ _ _ => id) sources patch ⟨rfl, rfl, rfl⟩
    trivial).1

theorem runBuild_preserves [Parsers] {a : Analyzer} {tree : Option OutputTree} {P : Store → Prop}
    (hop : ∀ sources op path store d, P store → P (outcome a sources tree op path store d).2.1)
    (sources : Sources) (patch : Patch) {s : Session} (halike : a.Alike s.analyzer)
    (h : P s.analyzer.store) :
    let s' := (exec (runBuild sources tree patch) s).2
    Frame s s' ∧ P s'.analyzer.store := by
  cases hparser : s.analyzer.parser with
  | error e =>
    obtain ⟨log, hrun⟩ := exec_runBuild_error hparser sources tree patch
    rw [hrun]
    exact ⟨.of_analyzer rfl, h⟩
  | ok b₀ =>
    have hrun := exec_runBuild hparser sources tree patch
    have hstarted := frame_started hparser
    obtain ⟨hframe, hleft⟩ := applyAll_preserves hop sources patch
      (halike.trans hstarted.toAlike) ((started_store hparser).symm ▸ h)
    rcases hpatch : exec (applyAll sources tree patch) (started s) with ⟨e | u, s₂⟩
    · simp only [hpatch] at hrun
      rw [hpatch] at hframe hleft
      rw [hrun]
      exact ⟨hstarted.trans hframe, hleft⟩
    · simp only [hpatch] at hrun
      obtain ⟨log, hrun⟩ := hrun
      rw [hpatch] at hframe hleft
      rw [hrun]
      exact ⟨(hstarted.trans hframe).trans (frame_refreshed s₂ log), hleft⟩

theorem frame_runBuild [Parsers] (sources : Sources) (tree : Option OutputTree) (patch : Patch)
    (s : Session) : Frame s (exec (runBuild sources tree patch) s).2 :=
  (runBuild_preserves (P := fun _ => True) (fun _ _ _ _ _ => id) sources patch ⟨rfl, rfl, rfl⟩
    trivial).1

/-! ## Opening and removing the output tree -/

/-- The output tree that a build fills, if there is to be one, and the disk with its root. -/
def opened (a : Analyzer) (d : Disk) : Except Fault (Option OutputTree × Disk) :=
  match a.output with
  | none => .ok (none, d)
  | some output =>
    match OutputTree.make a.input output true d with
    | .ok (t, d) => .ok (some t, d)
    | .error e => .error e

theorem does_openTree {tree : Option OutputTree} {d : Disk}
    (h : opened s.analyzer s.disk = .ok (tree, d)) :
    Does openTree s (.ok tree, s.analyzer.store, d) := by
  refine .get_bind ?_
  unfold opened at h
  cases hout : s.analyzer.output with
  | none =>
    simp only [hout] at h ⊢
    cases h
    exact does_pure _ s
  | some output =>
    simp only [hout] at h ⊢
    cases hmake : OutputTree.make s.analyzer.input output true s.disk with
    | error e =>
      rw [hmake] at h
      cases h
    | ok place =>
      rw [hmake] at h
      cases h
      exact .of_exec rfl (.of_analyzer rfl) rfl rfl

/-- The disk after a failed build: without what is at the root of the output tree, if that is
    a directory. -/
def cleared (output : Option Text) (d : Disk) : Except Fault Disk :=
  match output with
  | none => .ok d
  | some output => if d.isDirectory output then d.removeTree output else .ok d

theorem exec_reset (s : Session) :
    exec reset s =
      match cleared s.analyzer.output s.disk with
      | .ok d => (.ok (), { s with analyzer := s.analyzer.forget, disk := d })
      | .error e => (.error e, { s with analyzer := s.analyzer.forget }) := by
  have houtput : s.analyzer.forget.output = s.analyzer.output := rfl
  unfold reset cleared
  rw [exec_bind_ok (exec_update _ s), exec_bind_ok (exec_get _)]
  simp only [houtput]
  cases s.analyzer.output with
  | none => rfl
  | some output =>
    simp only
    rw [exec_bind_ok (exec_get _)]
    simp only
    cases hdir : s.disk.isDirectory output with
    | false => rfl
    | true =>
      simp only [if_true]
      exact exec_onDisk _ _

/-! ## Builds -/

/-- The tree that a build of an analyzer sees. -/
def seen (a : Analyzer) (d : Disk) : Snapshot := Snapshot.ofDirectory d a.input

theorem seen_congr {a a' : Analyzer} (h : a.Alike a') (d : Disk) : seen a' d = seen a d := by
  rw [seen, h.input, seen]

/-- The analyzer when it applies the patch of a build. -/
def noting (a : Analyzer) (d : Disk) : Analyzer := { a with previous := seen a d }

/-- The result of a build up to the point where a failure is dealt with. -/
def attempted [Parsers] (a : Analyzer) (tree : Option OutputTree) (d d' : Disk) :
    Except Fault Unit × Store × Disk :=
  attempt a .input tree (a.previous.patch (seen a d)) a.store d'

theorem noting_alike (a : Analyzer) (d : Disk) : a.Alike (noting a d) := ⟨rfl, rfl, rfl⟩

/-- The input directory cannot be listed, since the system takes no such name. -/
def Unlisted (a : Analyzer) (e : Fault) : Prop :=
  ∃ cause, Disk.badName? a.input = some cause ∧ e = .disk cause a.input none

/-- Every other directory can be listed. -/
theorem unlisted_or_named (a : Analyzer) :
    (∃ e, Unlisted a e) ∨ Disk.badName? a.input = none := by
  cases hname : Disk.badName? a.input with
  | none => exact .inr rfl
  | some cause => exact .inl ⟨_, cause, hname, rfl⟩

theorem Unlisted.not_named {a : Analyzer} {e : Fault} (h : Unlisted a e) :
    Disk.badName? a.input ≠ none := by
  obtain ⟨cause, hname, -⟩ := h
  simp [hname]

theorem unlisted_congr {a a' : Analyzer} {e : Fault} (h : a.Alike a') :
    Unlisted a' e ↔ Unlisted a e := by
  rw [Unlisted, Unlisted, h.input]

/-- A build that cannot list its input directory changes nothing. -/
theorem build_refused [Parsers] {e : Fault} (h : Unlisted s.analyzer e) :
    exec build s = (.error e, s) := by
  obtain ⟨cause, hname, rfl⟩ := h
  unfold build
  rw [exec_bind_ok (exec_get s), Snapshot.take, hname]
  rfl

/-- Every other build catches up with the snapshot that it takes. -/
theorem build_taken [Parsers] (hname : Disk.badName? s.analyzer.input = none) :
    exec build s = exec (catchUp (seen s.analyzer s.disk)) s := by
  unfold build
  rw [exec_bind_ok (exec_get s), Snapshot.take, hname]
  rfl

/-- A build applies its patch in a session where the output tree is open, and deals with a
    failure there. -/
theorem exec_build [Parsers] {tree : Option OutputTree} {d : Disk}
    (hname : Disk.badName? s.analyzer.input = none)
    (hopen : opened s.analyzer s.disk = .ok (tree, d)) :
    let o := attempted s.analyzer tree s.disk d
    ∃ s₁ lines patch r, Frame { s with analyzer := noting s.analyzer s.disk } s₁ ∧
      Does (runBuild .input tree patch) s₁ r ∧ r.1.map (fun _ => ()) = o.1 ∧ r.2 = o.2 ∧
      exec build s = exec (tryCatch (runBuild .input tree patch)
        fun e => do report lines; reset; throw e) s₁ := by
  rw [build_taken hname, catchUp, exec_bind_ok (exec_get s), exec_bind_ok (exec_report _ s),
    exec_bind_ok (exec_update _ _)]
  -- nothing below depends on what was reported
  generalize s.log ++ _ = log
  have hopen' : Does openTree ⟨noting s.analyzer s.disk, s.disk, log, s.reads⟩
      (.ok tree, s.analyzer.store, d) := does_openTree hopen
  obtain ⟨s₁, hexec, hframe, hstore, hdisk⟩ := hopen'.exists_exec
  have hlog : Frame { s with analyzer := noting s.analyzer s.disk }
      ⟨noting s.analyzer s.disk, s.disk, log, s.reads⟩ := .of_analyzer rfl
  have hframe₁ := hlog.trans hframe
  obtain ⟨r, hrun, hresult, hleft⟩ :=
    does_runBuild Sources.fixed_input tree (s.analyzer.previous.patch (seen s.analyzer s.disk)) s₁
  rw [attempt_congr ((noting_alike s.analyzer s.disk).trans hframe₁.toAlike), hstore, hdisk]
    at hresult hleft
  exact ⟨s₁, _, _, r, hframe₁, hrun, hresult, hleft, exec_bind_ok hexec _⟩

/-- A build whose patch can be applied leaves the store and the disk as the patch does, and
    remembers the tree. -/
theorem build_done [Parsers] {tree : Option OutputTree} {d d' : Disk} {store : Store}
    (hname : Disk.badName? s.analyzer.input = none)
    (hopen : opened s.analyzer s.disk = .ok (tree, d))
    (hdone : attempted s.analyzer tree s.disk d = (.ok (), store, d')) :
    ∃ stats s', exec build s = (.ok stats, s') ∧
      Frame { s with analyzer := noting s.analyzer s.disk } s' ∧
      s'.analyzer.store = store ∧ s'.disk = d' := by
  obtain ⟨s₁, lines, patch, ⟨r, w⟩, hframe, hrun, hresult, hleft, hbuild⟩ := exec_build hname hopen
  rw [hdone] at hresult hleft
  cases hleft
  cases r with
  | error e => cases hresult
  | ok stats =>
    obtain ⟨s₂, hexec, hframe₂, hstore, hdisk⟩ := hrun.exists_exec
    rw [exec_tryCatch, hexec] at hbuild
    exact ⟨stats, s₂, hbuild, hframe.trans hframe₂, hstore, hdisk⟩

/-- Forgetting comes to the same before and after a build. -/
theorem forget_frame {s s' : Session} {d : Disk}
    (h : Frame { s with analyzer := noting s.analyzer d } s') (d' : Disk) (log : List LogLine)
    (reads : List Text) :
    Frame { s with analyzer := s.analyzer.forget } ⟨s'.analyzer.forget, d', log, reads⟩ :=
  ⟨⟨h.package, h.input, h.parser⟩, h.output, rfl, fun _ => View.coherent_new _⟩

/-- A build whose patch cannot be applied leaves an analyzer that knows nothing, and no
    output tree. -/
theorem build_failed [Parsers] {tree : Option OutputTree} {d d' : Disk} {store : Store} {e : Fault}
    (hname : Disk.badName? s.analyzer.input = none)
    (hopen : opened s.analyzer s.disk = .ok (tree, d))
    (hfail : attempted s.analyzer tree s.disk d = (.error e, store, d')) :
    ∃ e' s', exec build s = (.error e', s') ∧
      Frame { s with analyzer := s.analyzer.forget } s' ∧ s'.analyzer.store = {} ∧
      (e', s'.disk) =
        match cleared s.analyzer.output d' with
        | .ok d'' => (e, d'')
        | .error e'' => (e'', d') := by
  obtain ⟨s₁, lines, patch, ⟨r, w⟩, hframe, hrun, hresult, hleft, hbuild⟩ := exec_build hname hopen
  rw [hfail] at hresult hleft
  cases hleft
  cases r with
  | ok stats => cases hresult
  | error e₁ =>
    cases hresult
    obtain ⟨s₂, hexec, hframe₂, -, hdisk⟩ := hrun.exists_exec
    rw [exec_tryCatch, hexec] at hbuild
    simp only at hbuild
    rw [exec_bind_ok (exec_report _ s₂)] at hbuild
    -- the patch has left the output directory as it was named, so the reset finds it
    have hforget := forget_frame (hframe.trans hframe₂)
    have hout : s₂.analyzer.output = s.analyzer.output := (hframe.trans hframe₂).output
    have hreset := exec_reset { s₂ with log := s₂.log ++ lines }
    simp only [hout] at hreset
    rw [hdisk] at hbuild hreset
    cases hclear : cleared s.analyzer.output d' with
    | ok d'' =>
      rw [hclear] at hreset
      rw [exec_bind_ok hreset, exec_throw] at hbuild
      exact ⟨e, _, hbuild, hforget _ _ _, rfl, rfl⟩
    | error e'' =>
      rw [hclear] at hreset
      rw [exec_bind_error hreset] at hbuild
      exact ⟨e'', _, hbuild, hforget _ _ _, rfl, rfl⟩

/-! ## Runs -/

/-- An analyzer that is made has its package, both directories resolved, and nothing else. -/
theorem eq_of_make {cwd : Text} {package : Package} {input output : Option Text} {a : Analyzer}
    (h : Analyzer.make cwd package input output = .ok a) :
    a = { package
          input := Path.absolute cwd ((Analyzer.given? input).getD package.root)
          output := (Analyzer.given? output).map (Path.absolute cwd) } := by
  unfold Analyzer.make at h
  simp only at h
  split at h
  · next hnone =>
    cases h
    rw [hnone]
  · next path hsome =>
    split at h
    · cases h
    · cases h
      rw [hsome]

/-- An analyzer that is made knows nothing. -/
theorem make_new {cwd : Text} {package : Package} {input output : Option Text} {a : Analyzer}
    (h : Analyzer.make cwd package input output = .ok a) : a.forget = a := by
  rw [eq_of_make h]
  rfl

/-- Sessions of an analyzer from a disk on, with the disk that the last build found, if there
    was one.  Between builds others may change the disk, as far as `change` allows; a build
    may presuppose something about the disk and the one that the last build found. -/
inductive Run [Parsers] (a : Analyzer) (d₀ : Disk) (change presupposed : Disk → Disk → Prop) :
    Session → Option Disk → Prop where
  /-- Nothing has happened. -/
  | start : Run a d₀ change presupposed ⟨a, d₀, [], []⟩ none
  /-- Others have changed the disk. -/
  | change {s : Session} {last : Option Disk} (d : Disk) : Run a d₀ change presupposed s last →
      change s.disk d → Run a d₀ change presupposed { s with disk := d } last
  /-- A build was made, which may have failed. -/
  | build {s : Session} {last : Option Disk} : Run a d₀ change presupposed s last →
      (∀ d ∈ last, presupposed d s.disk) →
      Run a d₀ change presupposed (exec build s).2 (some s.disk)

end ImportScan.Act
