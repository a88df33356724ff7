import ImportScan.Proofs.Analyzer.Partition
import ImportScan.Proofs.Analyzer.Patch

/-! # Where a patch stops

    A patch that fails without an output tree stops at one operation, which has read its source
    and left the store alone.  So what it leaves is what the operations before it leave, and a
    patch may be cut in two anywhere.

    * `stop_apply`             : the operations that can fail, and what they leave then.
    * `applyAll_stopped`       : the operations before the one that fails succeed.
    * `StopsAt`                : a patch has stopped at an index.
    * `attempt_append`         : a patch is applied part by part.
    * `runNamed_stopped`       : a patch that fails stops at one index, or before it starts.
-/

namespace ImportScan.Act

open Session

variable {s s' : Session} {sources : Sources} {tree : Option OutputTree} {patch : Patch}
variable {op : Operation} {path : Text} {e : Fault} {stats : Stats}

/-! ## The operation that fails -/

/-- A tracked file is read, whatever becomes of its source. -/
theorem reads_track [Parsers] (sources : Sources) (path : Text) (s : Session) :
    (exec (track sources path) s).2.reads =
      s.reads ++ if s.analyzer.package.tracks path then [path] else [] := by
  unfold track
  rw [exec_bind_ok (exec_get s)]
  cases s.analyzer.package.tracks path with
  | false => simp
  | true =>
    rw [if_pos rfl, if_pos rfl, exec_bind, exec_readSource]
    cases sourceAt s.analyzer.input (sources.after s.reads) s.disk path with
    | error e => rfl
    | ok source =>
      have hkeeps := (aside_reads.updateImports (fun _ _ => rfl) path source).discard
      exact hkeeps { s with reads := s.reads ++ [path] }

/-- An operation without an output tree fails only where a tracked file is new or changed.  It
    has read the file then, and the store is as it was. -/
theorem stop_apply [Parsers] (h : exec (apply sources none op path) s = (.error e, s')) :
    (op = .change ∨ op = .create) ∧ s.analyzer.package.tracks path = true ∧
      s'.analyzer.store = s.analyzer.store ∧ s'.reads = s.reads ++ [path] := by
  -- of the three phases only the second is left, and there only reading can fail
  have houtcome := (does_apply sources none op path s).outcome
  rw [h, outcome_none] at houtcome
  have hlearn : op = .change ∨ op = .create → s.analyzer.package.tracks path = true ∧
      s'.analyzer.store = s.analyzer.store := by
    intro hop
    have habsorb : absorb (s.analyzer.package.tracks path)
        (recordsAt s.analyzer (sources.after s.reads) s.disk path) op path s.analyzer.store =
        learn (s.analyzer.package.tracks path)
          (recordsAt s.analyzer (sources.after s.reads) s.disk path) path s.analyzer.store := by
      rcases hop with rfl | rfl <;> rfl
    rw [habsorb] at houtcome
    cases htracks : s.analyzer.package.tracks path with
    | false =>
      rw [htracks] at houtcome
      cases houtcome
    | true =>
      rw [htracks] at houtcome
      cases hrecords : recordsAt s.analyzer (sources.after s.reads) s.disk path with
      | ok records =>
        rw [hrecords] at houtcome
        cases houtcome
      | error e' =>
        rw [hrecords] at houtcome
        exact ⟨rfl, congrArg (·.2.1) houtcome⟩
  -- without an output tree nothing follows the reading
  have hreads : exec (do track sources path; linkInto none path) s = (.error e, s') →
      s'.reads = s.reads ++ if s.analyzer.package.tracks path then [path] else [] := by
    intro h
    rw [← reads_track sources path s]
    rcases htrack : exec (track sources path) s with ⟨e' | u, s₁⟩
    · rw [exec_bind_error htrack] at h
      cases h
      rfl
    · rw [exec_bind_ok htrack] at h
      cases h
  cases op with
  | unlink => cases houtcome
  | rmdir => cases houtcome
  | mkdir => cases houtcome
  | change =>
    obtain ⟨htracks, hstore⟩ := hlearn (.inl rfl)
    have hread := hreads h
    rw [htracks, if_pos rfl] at hread
    exact ⟨.inl rfl, htracks, hstore, hread⟩
  | create =>
    obtain ⟨htracks, hstore⟩ := hlearn (.inr rfl)
    have hread := hreads h
    rw [htracks, if_pos rfl] at hread
    exact ⟨.inr rfl, htracks, hstore, hread⟩

/-- Where applying a patch fails, it does so at one operation after the others before it. -/
theorem applyAll_stopped [Parsers] (h : exec (applyAll sources tree patch) s = (.error e, s')) :
    ∃ i op path s₁, patch[i]? = some (op, path) ∧
      exec (applyAll sources tree (patch.take i)) s = (.ok (), s₁) ∧
      exec (apply sources tree op path) s₁ = (.error e, s') := by
  -- the first operation fails, or the index is one after that for the others
  induction patch generalizing s with
  | nil => cases h
  | cons o rest ih =>
    obtain ⟨op, path⟩ := o
    rcases hfirst : exec (apply sources tree op path) s with ⟨e' | ⟨⟩, s₁⟩
    · rw [applyAll, exec_bind_error hfirst] at h
      cases h
      exact ⟨0, op, path, s, rfl, rfl, hfirst⟩
    · rw [applyAll, exec_bind_ok hfirst] at h
      obtain ⟨i, op', path', s₂, hget, htake, hstop⟩ := ih h
      refine ⟨i + 1, op', path', s₂, hget, ?_, hstop⟩
      rw [List.take_succ_cons, applyAll, exec_bind_ok hfirst]
      exact htake

/-! ## The index of the operation -/

/-- The sources that an operation calls for come after those of the operations before it. -/
theorem sourcesOf_take_succ (package : Package) {i : Nat} (h : patch[i]? = some (op, path)) :
    sourcesOf package (patch.take (i + 1)) =
      sourcesOf package (patch.take i) ++ sourcesOf package [(op, path)] := by
  rw [List.take_add_one, h]
  simp only [sourcesOf, Option.toList, List.filter_append, List.map_append]

theorem sourcesOf_tracked {package : Package} (hop : op = .change ∨ op = .create)
    (htracks : package.tracks path = true) : sourcesOf package [(op, path)] = [path] := by
  simp [sourcesOf, hop, htracks]

/-- A patch has stopped at an index: the operation there calls for a source, the store is as the
    operations before it leave it when they are run on their own, and the sources up to that
    of the operation were read. -/
structure StopsAt [Parsers] (sources : Sources) (patch : Patch) (s s' : Session)
    (i : Nat) : Prop where
  called : ∃ op path, patch[i]? = some (op, path) ∧ (op = .change ∨ op = .create) ∧
    s.analyzer.package.tracks path = true
  store : ∃ stats s₁, exec (runNamed sources none (Patch.spelled (patch.take i))) s =
    (.ok stats, s₁) ∧ s'.analyzer.store = s₁.analyzer.store
  reads : s'.reads = s.reads ++ sourcesOf s.analyzer.package (patch.take (i + 1))

/-- The sources that were read tell where a patch has stopped. -/
theorem StopsAt.unique [Parsers] {i j : Nat} (hi : StopsAt sources patch s s' i)
    (hj : StopsAt sources patch s s' j) : i = j := by
  have hcount : ∀ {i j}, StopsAt sources patch s s' i → StopsAt sources patch s s' j →
      ¬ i < j := by
    intro i j hi hj hlt
    obtain ⟨op, path, hget, hop, htracks⟩ := hj.called
    have hsame : sourcesOf s.analyzer.package (patch.take (i + 1)) =
        sourcesOf s.analyzer.package (patch.take (j + 1)) :=
      List.append_cancel_left (hi.reads.symm.trans hj.reads)
    rw [sourcesOf_take_succ _ hget, sourcesOf_tracked hop htracks] at hsame
    -- the operations up to the first index come before the one at the second
    have hsub : (sourcesOf s.analyzer.package (patch.take (i + 1))).Sublist
        (sourcesOf s.analyzer.package (patch.take j)) :=
      ((List.take_sublist_take_left hlt).filter _).map _
    have hle := hsub.length_le
    rw [hsame, List.length_append] at hle
    simp at hle
  have hij := hcount hi hj
  have hji := hcount hj hi
  omega

/-- A patch that fails when it is run has failed to set up the parser, which left nothing but
    lines, or it has stopped at an index. -/
theorem runBuild_stopped [Parsers] (h : exec (runBuild sources none patch) s = (.error e, s')) :
    (s.analyzer.backend = none ∧ (Backend.setup s.analyzer.package).1 = .error e ∧
      ∃ log, s' = { s with log }) ∨ ∃ i, StopsAt sources patch s s' i := by
  cases hparser : s.analyzer.parser with
  | error e' =>
    obtain ⟨hnone, hsetup, -⟩ := exec_setup_error hparser
    obtain ⟨log, hrun⟩ := exec_runBuild_error hparser sources none patch
    rw [hrun] at h
    cases h
    exact .inl ⟨hnone, hsetup, log, rfl⟩
  | ok b₀ =>
    right
    have hrun := exec_runBuild hparser sources none patch
    rcases hpatch : exec (applyAll sources none patch) (started s) with ⟨e' | u, s₂⟩
    · simp only [hpatch] at hrun
      rw [hrun] at h
      cases h
      -- run on their own, the operations before it start in the same session
      obtain ⟨i, op, path, s₁, hget, htake, hfail⟩ := applyAll_stopped hpatch
      obtain ⟨hop, htracks, hstore, hread⟩ := stop_apply hfail
      have hstarted := frame_started hparser
      have hframe : Frame (started s) s₁ := by
        have hkept := frame_applyAll sources none (patch.take i) (started s)
        rwa [htake] at hkept
      rw [(hstarted.trans hframe).package] at htracks
      refine ⟨i, ⟨op, path, hget, hop, htracks⟩, ?_, ?_⟩
      · have hprefix := exec_runBuild hparser sources none (patch.take i)
        simp only [htake] at hprefix
        obtain ⟨log, hprefix⟩ := hprefix
        rw [exec_runNamed_spelled]
        exact ⟨_, _, hprefix, hstore⟩
      · have hbefore := (tally_applyAll htake).reads
        obtain ⟨b, log, -, heq⟩ := started_eq hparser
        rw [hstarted.package] at hbefore
        rw [hread, hbefore, heq, sourcesOf_take_succ _ hget, sourcesOf_tracked hop htracks,
          List.append_assoc]
    · simp only [hpatch] at hrun
      obtain ⟨log, hrun⟩ := hrun
      rw [hrun] at h
      cases h

/-! ## A patch in two parts -/

/-- The operations of a patch are applied part by part. -/
theorem outcomes_append [Parsers] (a : Analyzer) (sources : Sources) (tree : Option OutputTree)
    (first last : Patch) (store : Store) (d : Disk) :
    outcomes a sources tree (first ++ last) store d =
      match outcomes a sources tree first store d with
      | (.ok (), store, d) => outcomes a sources tree last store d
      | (.error e, store, d) => (.error e, store, d) := by
  induction first generalizing store d with
  | nil => rfl
  | cons o rest ih =>
    obtain ⟨op, path⟩ := o
    simp only [List.cons_append, outcomes]
    rcases outcome a sources tree op path store d with ⟨e | ⟨⟩, store₁, d₁⟩
    · rfl
    · exact ih store₁ d₁

theorem attempt_append [Parsers] (a : Analyzer) (sources : Sources) (tree : Option OutputTree)
    (first last : Patch) (store : Store) (d : Disk) :
    attempt a sources tree (first ++ last) store d =
      match attempt a sources tree first store d with
      | (.ok (), store, d) => attempt a sources tree last store d
      | (.error e, store, d) => (.error e, store, d) := by
  unfold attempt
  cases a.parser with
  | error e => rfl
  | ok b => exact outcomes_append a sources tree first last store d

/-- Where sources are fixed, running a patch comes to an attempt at it. -/
theorem does_runNamed_spelled [Parsers] (hfixed : sources.Fixed) (tree : Option OutputTree)
    (patch : Patch) (s : Session) :
    Does (discard (runNamed sources tree patch.spelled)) s
      (attempt s.analyzer sources tree patch s.analyzer.store s.disk) := by
  obtain ⟨⟨r, store, d⟩, hdoes, hresult, hleft⟩ := does_runBuild hfixed tree patch s
  have heq : attempt s.analyzer sources tree patch s.analyzer.store s.disk =
      (r.map fun _ => (), store, d) := Prod.ext hresult.symm hleft.symm
  unfold runNamed
  rw [readPatch_spelled, heq]
  exact hdoes.discard

/-- Where sources are fixed, two patches one after the other come to both in one. -/
theorem does_twice [Parsers] (hfixed : sources.Fixed) (tree : Option OutputTree)
    (first last : Patch) (s : Session) :
    Does (do
        discard (runNamed sources tree first.spelled)
        discard (runNamed sources tree last.spelled)) s
      (attempt s.analyzer sources tree (first ++ last) s.analyzer.store s.disk) := by
  -- the second patch finds an analyzer alike, with what the first left
  have hfirst := does_runNamed_spelled hfixed tree first s
  rw [attempt_append]
  rcases hattempt : attempt s.analyzer sources tree first s.analyzer.store s.disk with
    ⟨e | ⟨⟩, store, d⟩
  · rw [hattempt] at hfirst
    exact hfirst.bind_error _
  · rw [hattempt] at hfirst
    refine hfirst.bind fun s₁ hframe hstore hdisk => ?_
    have hlast := does_runNamed_spelled hfixed tree last s₁
    rwa [attempt_congr hframe.toAlike, hstore, hdisk] at hlast

/-- In any session and for any source of sources, a patch without an output tree that fails

    * holds an unknown operation, or the parser could not be set up; then nothing but lines came
      of it, and no source was read;
    * or else has stopped at exactly one index.

    So if all operations are known and what is read depends on the path alone, running a patch
    and, if that succeeds, another one ends with the same store, and with success or the same
    fault, as running both in one. -/
theorem runNamed_stopped [Parsers] (sources : Sources) (ops : List (Text × Text)) (s : Session) :
    (∀ e s', exec (runNamed sources none ops) s = (.error e, s') →
      (((∃ o ∈ ops, Operation.ofName? o.1 = none) ∨
          s.analyzer.backend = none ∧ (Backend.setup s.analyzer.package).1 = .error e) ∧
        ∃ log, s' = { s with log }) ∨
      ∃ patch, ops = Patch.spelled patch ∧ ∃! i, StopsAt sources patch s s' i) ∧
    ∀ last, sources.Fixed → (∀ o ∈ ops ++ last, Operation.ofName? o.1 ≠ none) →
      let parts := exec (do
        discard (runNamed sources none ops)
        discard (runNamed sources none last)) s
      let whole := exec (discard (runNamed sources none (ops ++ last))) s
      parts.1 = whole.1 ∧ parts.2.analyzer.store = whole.2.analyzer.store := by
  constructor
  · intro e s' h
    obtain ⟨patch, rfl⟩ | ⟨hunknown, e', he⟩ := readPatch_cases ops
    · rw [exec_runNamed_spelled] at h
      obtain ⟨hnone, hsetup, hleft⟩ | ⟨i, hi⟩ := runBuild_stopped h
      · exact .inl ⟨.inr ⟨hnone, hsetup⟩, hleft⟩
      · exact .inr ⟨patch, rfl, i, hi, fun j hj => hj.unique hi⟩
    · rw [exec_runNamed_error sources none s he] at h
      cases h
      exact .inl ⟨.inl hunknown, s.log, rfl⟩
  · intro last hfixed hknown parts whole
    obtain ⟨first, rfl⟩ := spelled_of_known fun o ho => hknown o (List.mem_append_left _ ho)
    obtain ⟨last, rfl⟩ := spelled_of_known fun o ho => hknown o (List.mem_append_right _ ho)
    have hparts := does_twice hfixed none first last s
    have hwhole := does_runNamed_spelled hfixed none (first ++ last) s
    have hspelled : Patch.spelled (first ++ last) = first.spelled ++ last.spelled :=
      List.map_append
    rw [hspelled] at hwhole
    have hsame := hparts.outcome.trans hwhole.outcome.symm
    exact ⟨congrArg (·.1) hsame, congrArg (·.2.1) hsame⟩

/-- Sources that can be read once each. -/
def fickle : Sources := .asked fun before p =>
  if p ∈ before then .error (.missingKey (.text p)) else .ok "import 'x';"

/-- A patch in which the second reading of a file fails where a file can be read only once. -/
def stumbling : List (Text × Text) :=
  [("create", "a.js"), ("unlink", "c.js"), ("create", "n.txt"), ("change", "a.js"),
    ("create", "e.js")]

theorem runNamed_stopped_stumbling :
    let s' := (exec (runNamed fickle none stumbling) refiled).2
    let sources : Sources := .given [("a.js", "import 'x';")]
    let first := stumbling.take 4
    let last := stumbling.drop 4
    let parts := exec (do
      discard (runNamed sources none first)
      discard (runNamed sources none last)) refiled
    let whole := exec (discard (runNamed sources none (first ++ last))) refiled
    (s'.analyzer.store.paths = (["b.js", "a.js"] : List Text) ∧
      s'.reads = refiled.reads ++ (["a.js", "a.js"] : List Text)) ∧
    (∃ patch, stumbling = Patch.spelled patch ∧ ∃! i, StopsAt fickle patch refiled s' i) ∧
    ((exec (runNamed sources none first) refiled).1.isOk = true ∧ whole.1.isOk = false) ∧
    parts.1 = whole.1 ∧ parts.2.analyzer.store = whole.2.analyzer.store := by
  intro s' sources first last parts whole
  have hknown : ∀ o ∈ first ++ last, Operation.ofName? o.1 ≠ none := by decide +kernel
  -- all that is shown by running is shown at once
  have hshown : refiled.analyzer.backend.isSome = true ∧
      (exec (runNamed fickle none stumbling) refiled).1.isOk = false ∧
      (s'.analyzer.store.paths = (["b.js", "a.js"] : List Text) ∧
        s'.reads = refiled.reads ++ (["a.js", "a.js"] : List Text)) ∧
      (exec (runNamed sources none first) refiled).1.isOk = true ∧ whole.1.isOk = false := by
    decide +kernel
  obtain ⟨hbackend, hfails, hleft, hresults⟩ := hshown
  refine ⟨hleft, ?_, hresults,
    (runNamed_stopped sources first refiled).2 last (Sources.fixed_given _) hknown⟩
  rcases hrun : exec (runNamed fickle none stumbling) refiled with ⟨e | stats, s₁⟩
  · rw [show s' = s₁ from congrArg Prod.snd hrun]
    obtain ⟨⟨o, ho, hnone⟩ | ⟨hnone, -⟩, -⟩ | hstops :=
      (runNamed_stopped fickle stumbling refiled).1 e s₁ hrun
    · rw [List.take_append_drop] at hknown
      exact absurd hnone (hknown o ho)
    · simp [hnone] at hbackend
    · exact hstops
  · simp [hrun, Except.isOk, Except.toBool] at hfails

end ImportScan.Act
