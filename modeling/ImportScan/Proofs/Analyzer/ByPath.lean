import ImportScan.Proofs.Analyzer.Partition
import ImportScan.Proofs.Analyzer.Patch
import ImportScan.Proofs.Import.Equality

/-! # A patch, path by path

    The operations of a patch act on one path each.  Without an output tree, a patch that
    succeeds is determined by the operations on each path: what becomes of the records of a
    tracked file is decided by the last operation that is about the file.

    * `Patch.on`, `Patch.lastOn` : the operations on a path, and the last about a file there.
    * `revise`                   : what an operation makes of the records of its path.
    * `getLast?_of_revised`      : only the last operation counts.
    * `rejected_applyAll`        : the rejected sources are those that the parser rejects.
    * `patch_by_path`            : what a patch that succeeds leaves, reads and tells.
-/

namespace ImportScan

/-! ## The operations on a path -/

/-- Whether an operation is about a file, and not about a directory. -/
def Operation.isFile : Operation → Bool
  | .unlink => true
  | .rmdir => false
  | .mkdir => false
  | .change => true
  | .create => true

namespace Patch

/-- The operations of a patch on a path, in order. -/
def on (patch : Patch) (p : Text) : List Operation := (patch.filter (·.2 = p)).map (·.1)

/-- The last operation of a patch that is about the file at a path. -/
def lastOn (patch : Patch) (p : Text) : Option Operation :=
  ((on patch p).filter Operation.isFile).getLast?

theorem on_cons (o : Operation × Text) (rest : Patch) (p : Text) :
    on (o :: rest) p = if o.2 = p then o.1 :: on rest p else on rest p := by
  unfold on
  by_cases ho : o.2 = p
  · simp [ho]
  · simp [ho]

/-- Names that agree on a path spell the same operations on it. -/
theorem on_eq_of_spelled {patch patch' : Patch} {p : Text}
    (h : (spelled patch').filter (·.2 = p) = (spelled patch).filter (·.2 = p)) :
    on patch' p = on patch p := by
  have hread : ∀ patch : Patch, ((spelled patch).filter (·.2 = p)).filterMap
      (fun o => Operation.ofName? o.1) = on patch p := by
    intro patch
    have hfilter : (spelled patch).filter (·.2 = p) =
        (patch.filter (·.2 = p)).map fun o => (o.1.name, o.2) := List.filter_map
    rw [hfilter, List.filterMap_map, on, ← List.filterMap_eq_map]
    refine List.filterMap_congr fun o _ => ?_
    simp [Operation.ofName?_name]
  rw [← hread, ← hread, h]

end Patch

/-! ## The records of a file -/

namespace Store

/-- The records of a file once others are stored for it: equal ones stay as they are. -/
def renewed (old : Option (List Import)) (records : List Import) : List Import :=
  match old with
  | some old => if old == records then old else records
  | none => records

/-- Whichever records stay, they are equal to the given ones. -/
theorem renewed_beq (old : Option (List Import)) (records : List Import) :
    (renewed old records == records) = true := by
  unfold renewed
  split
  · split
    · assumption
    · exact BEq.rfl
  · exact BEq.rfl

theorem get?_upsert (s : Store) (path k : Text) (records : List Import) :
    (s.upsert path records).2.get? k =
      if k = path then some (renewed (s.get? path) records) else s.get? k := by
  by_cases hk : k = path
  · subst hk
    rw [if_pos rfl]
    have hput : get? ⟨s.table.put k records, s.generation + 1⟩ k = some records :=
      Table.get?_put_self _ _ _
    cases hold : s.get? k with
    | none => simpa only [upsert, hold, renewed] using hput
    | some old =>
      cases heq : old == records with
      | true => simp only [upsert, hold, renewed, heq, if_true]
      | false => simpa only [upsert, hold, renewed, heq, Bool.false_eq_true, if_false] using hput
  · rw [if_neg hk, get?_upsert_of_ne records hk]

end Store

namespace Act

open Session

/-- What an operation makes of the records of its path, if the file there is tracked. -/
def revise (records : Except Fault (List Import)) (entry : Option (List Import)) :
    Operation → Except Fault (Option (List Import))
  | .unlink => .ok none
  | .rmdir => .ok entry
  | .mkdir => .ok entry
  | .change => records.map fun rs => some (Store.renewed entry rs)
  | .create => records.map fun rs => some (Store.renewed entry rs)

section Patches

variable {a : Analyzer} {sources : Sources} {patch : Patch} {store store' : Store}
variable {d d' : Disk} {op : Operation} {p q : Text}

/-- An operation that succeeds revises the records of its path and leaves the others alone. -/
theorem get?_absorb {tracked : Bool} {records : Except Fault (List Import)}
    (h : absorb tracked records op p store = .ok store') :
    (∀ q, q ≠ p → store'.get? q = store.get? q) ∧
      if tracked then revise records (store.get? p) op = .ok (store'.get? p)
      else store'.get? p = store.get? p := by
  have hlearn : ∀ {store'}, learn tracked records p store = .ok store' →
      (∀ q, q ≠ p → store'.get? q = store.get? q) ∧
        if tracked then revise records (store.get? p) .create = .ok (store'.get? p)
        else store'.get? p = store.get? p := by
    intro store' h
    cases tracked with
    | false =>
      cases h
      exact ⟨fun _ _ => rfl, rfl⟩
    | true =>
      cases records with
      | error e => cases h
      | ok rs =>
        cases h
        refine ⟨fun q hq => Store.get?_upsert_of_ne rs hq, ?_⟩
        rw [if_pos rfl, Store.get?_upsert, if_pos rfl]
        rfl
  cases op with
  | unlink =>
    cases tracked with
    | false =>
      cases h
      exact ⟨fun _ _ => rfl, rfl⟩
    | true =>
      cases h
      refine ⟨fun q hq => ?_, ?_⟩
      · rw [if_pos rfl, Store.get?_evict, if_neg hq]
      · rw [if_pos rfl, if_pos rfl, Store.get?_evict, if_pos rfl]
        rfl
  | rmdir =>
    cases h
    exact ⟨fun _ _ => rfl, by split <;> rfl⟩
  | mkdir =>
    cases h
    exact ⟨fun _ _ => rfl, by split <;> rfl⟩
  | change => exact hlearn h
  | create => exact hlearn h

/-- A patch that succeeds revises the records of a tracked file by the operations on its path,
    one after the other, and leaves the records of other files alone. -/
theorem get?_outcomes [Parsers]
    (h : outcomes a sources none patch store d = (.ok (), store', d')) (p : Text) :
    if a.package.tracks p then
      (patch.on p).foldlM (revise (recordsAt a sources d p)) (store.get? p) = .ok (store'.get? p)
    else store'.get? p = store.get? p := by
  -- an operation on another path changes neither side
  induction patch generalizing store with
  | nil =>
    cases h
    split <;> rfl
  | cons o rest ih =>
    obtain ⟨op, q⟩ := o
    unfold outcomes at h
    rw [outcome_none] at h
    cases habsorb : absorb (a.package.tracks q) (recordsAt a sources d q) op q store with
    | error e => simp [habsorb] at h
    | ok store₁ =>
      simp only [habsorb] at h
      have hrest := ih h
      obtain ⟨hothers, hown⟩ := get?_absorb habsorb
      rw [Patch.on_cons]
      by_cases hq : q = p
      · subst hq
        cases htracks : a.package.tracks q with
        | false =>
          simp only [htracks, Bool.false_eq_true, if_false] at hrest hown ⊢
          exact hrest.trans hown
        | true =>
          simp only [htracks, if_true] at hrest hown ⊢
          rw [List.foldlM_cons, hown]
          exact hrest
      · rw [hothers p fun heq => hq heq.symm] at hrest
        simp only [hq, if_false]
        exact hrest

/-- Of the operations on a path only the last one about its file counts. -/
theorem getLast?_of_revised {records : Except Fault (List Import)} {ops : List Operation}
    {entry entry' : Option (List Import)} (h : ops.foldlM (revise records) entry = .ok entry') :
    match (ops.filter Operation.isFile).getLast? with
    | none => entry' = entry
    | some .unlink => entry' = none
    | some _ => ∃ rs stored, records = .ok rs ∧ entry' = some stored ∧ (stored == rs) = true := by
  -- the induction takes operations off the end: one about the file decides, any other leaves
  -- what those before it have decided
  induction ops using List.reverseRecOn generalizing entry' with
  | nil =>
    cases h
    rfl
  | append_singleton ops op ih =>
    rw [List.foldlM_append, bind_eq_ok] at h
    obtain ⟨between, hbefore, hlast⟩ := h
    rw [List.foldlM_cons, bind_eq_ok] at hlast
    obtain ⟨after, hlast, hnil⟩ := hlast
    cases hnil
    have hstored : records.map (fun rs => some (Store.renewed between rs)) = .ok entry' →
        ∃ rs stored, records = .ok rs ∧ entry' = some stored ∧ (stored == rs) = true := by
      intro h
      cases records with
      | error e => cases h
      | ok rs =>
        cases h
        exact ⟨rs, _, rfl, rfl, Store.renewed_beq between rs⟩
    cases op with
    | unlink =>
      cases hlast
      simp [List.filter_append, Operation.isFile]
    | rmdir =>
      cases hlast
      simpa [List.filter_append, Operation.isFile] using ih hbefore
    | mkdir =>
      cases hlast
      simpa [List.filter_append, Operation.isFile] using ih hbefore
    | change => simpa [List.filter_append, Operation.isFile] using hstored hlast
    | create => simpa [List.filter_append, Operation.isFile] using hstored hlast

/-- The last operation on the file at a path decides about its records. -/
structure Decided [Parsers] (a : Analyzer) (sources : Sources) (d : Disk) (patch : Patch)
    (store store' : Store) : Prop where
  untouched : ∀ p, a.package.tracks p = false ∨ patch.lastOn p = none →
    store'.get? p = store.get? p
  forgotten : ∀ p, a.package.tracks p = true → patch.lastOn p = some .unlink →
    store'.get? p = none
  renewed : ∀ p op, a.package.tracks p = true → patch.lastOn p = some op → op ≠ .unlink →
    ∃ records stored, recordsAt a sources d p = .ok records ∧ store'.get? p = some stored ∧
      (stored == records) = true

theorem decided_of_outcomes [Parsers]
    (h : outcomes a sources none patch store d = (.ok (), store', d')) :
    Decided a sources d patch store store' := by
  have hlast : ∀ p, a.package.tracks p = true →
      match patch.lastOn p with
      | none => store'.get? p = store.get? p
      | some .unlink => store'.get? p = none
      | some _ => ∃ records stored, recordsAt a sources d p = .ok records ∧
          store'.get? p = some stored ∧ (stored == records) = true := by
    intro p htracks
    have hrevised := get?_outcomes h p
    rw [if_pos htracks] at hrevised
    exact getLast?_of_revised hrevised
  refine ⟨?_, ?_, ?_⟩
  · rintro p hp
    cases htracks : a.package.tracks p with
    | false =>
      have hrevised := get?_outcomes h p
      rwa [htracks] at hrevised
    | true =>
      have hnone : patch.lastOn p = none := hp.resolve_left (by simp [htracks])
      simpa [hnone] using hlast p htracks
  · intro p htracks hunlink
    simpa [hunlink] using hlast p htracks
  · intro p op htracks hop hne
    have hstored := hlast p htracks
    rw [hop] at hstored
    cases op with
    | unlink => exact absurd rfl hne
    | rmdir => exact hstored
    | mkdir => exact hstored
    | change => exact hstored
    | create => exact hstored

end Patches

/-! ## Rejected sources -/

/-- Whether the parser of an analyzer rejects a source. -/
def rejects [Parsers] (a : Analyzer) (path source : Text) : Bool :=
  match a.parser with
  | .ok b =>
    match (b.read ⟨path, a.package⟩ source).1 with
    | .error (.source _) => true
    | _ => false
  | .error _ => false

/-- Whether the source at a path is rejected. -/
def rejectsAt [Parsers] (a : Analyzer) (sources : Sources) (d : Disk) (path : Text) : Bool :=
  match sourceAt a.input sources d path with
  | .ok source => rejects a path source
  | .error _ => false

section Rejections

variable {a a' : Analyzer} {s s' : Session} {sources : Sources} {path source : Text}

theorem rejects_congr [Parsers] (h : a.Alike a') (path source : Text) :
    rejects a' path source = rejects a path source := by
  simp only [rejects, h.parser, h.package]

theorem rejectsAt_congr [Parsers] (h : a.Alike a') (sources : Sources) (d : Disk) :
    rejectsAt a' sources d = rejectsAt a sources d := by
  funext path
  simp only [rejectsAt, h.input, rejects_congr h]

/-- A source that is parsed counts as rejected if the parser rejects it. -/
theorem rejected_parse [Parsers] {records : List Import}
    (h : exec (parse path source) s = (.ok records, s')) :
    s'.analyzer.syntaxErrors =
      s.analyzer.syntaxErrors + (rejects s.analyzer path source).toNat := by
  unfold parse at h
  unfold rejects
  cases hparser : s.analyzer.parser with
  | error e =>
    obtain ⟨-, -, log, hsetup⟩ := exec_setup_error hparser
    rw [exec_bind_error hsetup] at h
    cases h
  | ok b₀ =>
    obtain ⟨b, log, rfl, hsetup⟩ := exec_setup_ok hparser
    rw [exec_bind_ok hsetup, exec_bind_ok (exec_update _ _), exec_bind_ok (exec_get _),
      exec_bind_ok (exec_report _ _), exec_bind_ok (exec_update _ _)] at h
    simp only [Backend.read_unloaded]
    split at h
    · next hread =>
      cases h
      simp [hread]
    · next hread =>
      rw [exec_bind_ok (exec_report _ _), exec_bind_ok (exec_update _ _)] at h
      cases h
      simp [hread]
    · cases h

/-- A tracked file counts as rejected if its source is. -/
theorem rejected_track [Parsers] (h : exec (track sources path) s = (.ok (), s')) :
    s'.analyzer.syntaxErrors = s.analyzer.syntaxErrors +
      if s.analyzer.package.tracks path then
        (rejectsAt s.analyzer (sources.after s.reads) s.disk path).toNat
      else 0 := by
  unfold track at h
  rw [exec_bind_ok (exec_get s)] at h
  cases htracks : s.analyzer.package.tracks path with
  | false =>
    simp only [htracks, Bool.false_eq_true, if_false] at h ⊢
    cases h
    rfl
  | true =>
    simp only [htracks, if_true] at h ⊢
    obtain ⟨source, s₁, hread, h⟩ := exec_bind_eq_ok h
    obtain ⟨changed, h⟩ := exec_discard_eq_ok h
    rw [exec_readSource, Prod.mk.injEq] at hread
    obtain ⟨hsource, rfl⟩ := hread
    unfold updateImports at h
    rw [exec_bind_ok (exec_report _ _)] at h
    obtain ⟨records, s₂, hparse, h⟩ := exec_bind_eq_ok h
    have hrejected := rejected_parse hparse
    rw [exec_bind_ok (exec_get _), exec_bind_ok (exec_update _ _)] at h
    cases h
    rw [rejectsAt, hsource]
    exact hrejected

/-- An operation without an output tree counts the rejected source, if it calls for one. -/
theorem rejected_apply [Parsers] {op : Operation}
    (h : exec (apply sources none op path) s = (.ok (), s')) :
    s'.analyzer.syntaxErrors = s.analyzer.syntaxErrors +
      (sourcesOf s.analyzer.package [(op, path)]).countP
        (rejectsAt s.analyzer (sources.after s.reads) s.disk) := by
  have htracked : exec (do track sources path; linkInto none path) s = (.ok (), s') →
      s'.analyzer.syntaxErrors = s.analyzer.syntaxErrors +
        if s.analyzer.package.tracks path then
          (rejectsAt s.analyzer (sources.after s.reads) s.disk path).toNat
        else 0 := by
    intro h
    obtain ⟨_, s₁, htrack, hlink⟩ := exec_bind_eq_ok h
    cases hlink
    exact rejected_track htrack
  have hcount : ∀ op, op = .change ∨ op = .create →
      (sourcesOf s.analyzer.package [(op, path)]).countP
        (rejectsAt s.analyzer (sources.after s.reads) s.disk) =
      if s.analyzer.package.tracks path then
        (rejectsAt s.analyzer (sources.after s.reads) s.disk path).toNat
      else 0 := by
    intro op hop
    cases htracks : s.analyzer.package.tracks path with
    | false => simp [sourcesOf, htracks]
    | true =>
      cases hrejects : rejectsAt s.analyzer (sources.after s.reads) s.disk path <;>
        simp [sourcesOf, hop, htracks, hrejects]
  cases op with
  | unlink =>
    obtain ⟨_, s₁, huntrack, hcall⟩ := exec_bind_eq_ok h
    cases hcall
    have hkeeps : Keeps (·.analyzer.syntaxErrors) (untrack path) :=
      keeps_untrack (fun _ _ => rfl) (fun _ _ => rfl) path
    have hcount := hkeeps s
    rw [huntrack] at hcount
    simpa [sourcesOf] using hcount
  | rmdir =>
    cases h
    simp [sourcesOf]
  | mkdir =>
    cases h
    simp [sourcesOf]
  | change => rw [hcount .change (.inl rfl), htracked h]
  | create => rw [hcount .create (.inr rfl), htracked h]

/-- A patch without an output tree counts the sources that the parser rejects. -/
theorem rejected_applyAll [Parsers] {patch : Patch} (hfixed : sources.Fixed)
    (h : exec (applyAll sources none patch) s = (.ok (), s')) :
    s'.analyzer.syntaxErrors = s.analyzer.syntaxErrors +
      (sourcesOf s.analyzer.package patch).countP (rejectsAt s.analyzer sources s.disk) := by
  -- one operation keeps the parser and the disk, so the others reject the same sources
  induction patch generalizing s with
  | nil =>
    cases h
    rfl
  | cons o rest ih =>
    obtain ⟨op, path⟩ := o
    obtain ⟨_, s₁, hfirst, hrest⟩ := exec_bind_eq_ok h
    have hhead := rejected_apply hfirst
    have hdoes := does_apply sources none op path s
    rw [hfixed] at hhead hdoes
    have hframe := hdoes.frame
    have hdisk := congrArg (·.2.2) hdoes.outcome
    rw [outcome_none] at hdisk
    rw [hfirst] at hframe hdisk
    have hdisk : s₁.disk = s.disk := hdisk.trans (by split <;> rfl)
    rw [sourcesOf_cons, List.countP_append, ih hrest, hhead, hframe.package, hdisk,
      rejectsAt_congr hframe.toAlike, Nat.add_assoc]

end Rejections

/-! ## Patches that succeed -/

section Success

variable {s s' s'' : Session} {sources : Sources} {patch : Patch} {stats stats' : Stats}

/-- What is told about a patch that succeeds. -/
theorem stats_runBuild [Parsers] (hfixed : sources.Fixed)
    (h : exec (runBuild sources none patch) s = (.ok stats, s')) :
    stats = ⟨patch.length, (sourcesOf s.analyzer.package patch).length,
      (sourcesOf s.analyzer.package patch).countP (rejectsAt s.analyzer sources s.disk),
      s'.analyzer.view.value.length⟩ := by
  have hparsed := (tally_runBuild h).1
  obtain ⟨⟨b₀, hparser⟩, s₂, log, hpatch, rfl, rfl⟩ := of_runBuild_ok h
  have hframe := frame_started hparser
  obtain ⟨b, log', -, hstarted⟩ := started_eq hparser
  have hrejected := rejected_applyAll hfixed hpatch
  rw [hframe.package, rejectsAt_congr hframe.toAlike] at hrejected
  have hdisk : (started s).disk = s.disk := by rw [hstarted]
  have hzero : (started s).analyzer.syntaxErrors = 0 := rfl
  rw [hdisk, hzero, Nat.zero_add] at hrejected
  rw [← hparsed, ← hrejected]
  rfl

/-- A patch that succeeds ends with a view that is current. -/
theorem view_runBuild [Parsers] {tree : Option OutputTree}
    (h : exec (runBuild sources tree patch) s = (.ok stats, s')) :
    s'.analyzer.view = s.analyzer.view.refresh s'.analyzer.store := by
  obtain ⟨⟨b₀, hparser⟩, s₂, log, hpatch, rfl, rfl⟩ := of_runBuild_ok h
  have hkept := keeps_view_applyAll sources tree patch (started s)
  obtain ⟨b, log', -, hstarted⟩ := started_eq hparser
  rw [hpatch, hstarted] at hkept
  exact congrArg (View.refresh · s₂.analyzer.store) hkept

/-- Where the view is coherent, it has the records of the store after the patch. -/
theorem value_runBuild [Parsers] (hview : s.analyzer.view.Coherent s.analyzer.store)
    (h : exec (runBuild sources none patch) s = (.ok stats, s')) :
    s'.analyzer.view.value = s'.analyzer.store.imports ∧
      (exec imports s').1 = .ok s'.analyzer.store.imports := by
  have hframe := frame_runBuild sources none patch s
  rw [h] at hframe
  have hcoherent := hframe.view hview
  obtain ⟨log, himports⟩ := exec_imports s'
  refine ⟨?_, by rw [himports, hcoherent.get_eq]⟩
  have hcurrent := View.computedAt_refresh s.analyzer.view s'.analyzer.store
  rw [← view_runBuild h] at hcurrent
  exact (hcoherent _ hcurrent).2 rfl

/-- Patches that succeed from one session on, with the same operations on each path, leave the
    same records for each path. -/
theorem get?_eq_of_on_eq [Parsers] (hfixed : sources.Fixed) {patch' : Patch}
    (h : exec (runBuild sources none patch) s = (.ok stats, s'))
    (h' : exec (runBuild sources none patch') s = (.ok stats', s''))
    (hon : ∀ p, patch'.on p = patch.on p) (p : Text) :
    s''.analyzer.store.get? p = s'.analyzer.store.get? p := by
  have hfirst := get?_outcomes (outcomes_of_runBuild_ok hfixed h) p
  have hsecond := get?_outcomes (outcomes_of_runBuild_ok hfixed h') p
  cases htracks : s.analyzer.package.tracks p with
  | false =>
    simp only [htracks, Bool.false_eq_true, if_false] at hfirst hsecond
    rw [hfirst, hsecond]
  | true =>
    simp only [htracks, if_true, hon] at hfirst hsecond
    rw [hfirst] at hsecond
    exact (Except.ok.inj hsecond).symm

/-- A patch without an output tree that succeeds, with sources that depend on the path alone,
    from a session whose view is coherent (as it is in every session that comes about):

    * a file that is not tracked, or that no operation is about, keeps its records; one that was
      unlinked last has none; any other has records equal to those of its source, which are
      none where the source is rejected;
    * every other patch that succeeds with the same operations on each path, in whatever order
      otherwise, leaves the same records for each path, and the same records in all;
    * the sources of the tracked files that are new or changed were read, in this order, and
      the statistics count the operations, these sources, the rejected among them, and the
      records of the store. -/
theorem patch_by_path [Parsers] {ops : List (Text × Text)}
    (hview : s.analyzer.view.Coherent s.analyzer.store) (hfixed : sources.Fixed)
    (hrun : exec (runNamed sources none ops) s = (.ok stats, s')) :
    let a := s.analyzer
    ∃ patch, ops = Patch.spelled patch ∧
      Decided a sources s.disk patch a.store s'.analyzer.store ∧
      (∀ ops' stats' s'', exec (runNamed sources none ops') s = (.ok stats', s'') →
        (∀ p, ops'.filter (·.2 = p) = ops.filter (·.2 = p)) →
        (∀ p, s''.analyzer.store.get? p = s'.analyzer.store.get? p) ∧
        ∃ found found', (exec imports s').1 = .ok found ∧ (exec imports s'').1 = .ok found' ∧
          found'.Perm found) ∧
      s'.reads = s.reads ++ sourcesOf a.package patch ∧
      stats = ⟨ops.length, (sourcesOf a.package patch).length,
        (sourcesOf a.package patch).countP (rejectsAt a sources s.disk),
        s'.analyzer.store.imports.length⟩ := by
  intro a
  obtain ⟨patch, rfl, hpatch⟩ := of_runNamed_ok hrun
  obtain ⟨hvalue, hfound⟩ := value_runBuild hview hpatch
  refine ⟨patch, rfl, decided_of_outcomes (outcomes_of_runBuild_ok hfixed hpatch), ?_,
    (tally_runBuild hpatch).2, ?_⟩
  · intro ops' stats' s'' hrun' hsame
    obtain ⟨patch', rfl, hpatch'⟩ := of_runNamed_ok hrun'
    have hget := get?_eq_of_on_eq hfixed hpatch hpatch' fun p => Patch.on_eq_of_spelled (hsame p)
    exact ⟨hget, _, _, hfound, (value_runBuild hview hpatch').2, Store.imports_perm hget⟩
  · rw [stats_runBuild hfixed hpatch, hvalue]
    simp [Patch.spelled, a]

/-- Two orders of the same operations on each path, with sources for two of the files, of which
    one is rejected. -/
def shuffled : Sources × List (Text × Text) × List (Text × Text) :=
  (.asked fun _ p =>
      if p = "a.js" then .ok "import 'x'; import 'y';"
      else if p = "b.js" then .ok "import \x7b"
      else .error (.missingKey (.text p)),
   [("change", "b.js"), ("create", "a.js"), ("unlink", "c.js"), ("create", "n.txt"),
     ("change", "b.js"), ("mkdir", "lib")],
   [("unlink", "c.js"), ("mkdir", "lib"), ("change", "b.js"), ("create", "n.txt"),
     ("change", "b.js"), ("create", "a.js")])

theorem patch_by_path_shuffled :
    let s := (exec (runNamed shuffled.1 none shuffled.2.1) refiled).2
    let s' := (exec (runNamed shuffled.1 none shuffled.2.2) refiled).2
    refiled.analyzer.store.paths = (["b.js", "c.js"] : List Text) ∧
    s.analyzer.store.paths = (["b.js", "a.js"] : List Text) ∧
    (s.analyzer.store.get? "b.js").map List.length = some 0 ∧
    s.reads = refiled.reads ++ (["b.js", "a.js", "b.js"] : List Text) ∧
    ∀ p, s'.analyzer.store.get? p = s.analyzer.store.get? p := by
  intro s s'
  have hmake : Analyzer.make "/" noted.1.package none none = .ok noted.1 := rfl
  have hreached : Reached noted.1 refiled :=
    .request _ (.request _ (.request _ (.start unblocked)))
  have hview := (hreached.filed (make_new hmake)).view
  have hfixed : shuffled.1.Fixed := Sources.fixed_asked _
  -- all that is shown by running is shown at once, which runs each patch once
  have hshown : (exec (runNamed shuffled.1 none shuffled.2.1) refiled).1.toOption =
        some ⟨6, 3, 2, 2⟩ ∧
      (exec (runNamed shuffled.1 none shuffled.2.2) refiled).1.toOption = some ⟨6, 3, 2, 2⟩ ∧
      refiled.analyzer.store.paths = (["b.js", "c.js"] : List Text) ∧
      s.analyzer.store.paths = (["b.js", "a.js"] : List Text) ∧
      (s.analyzer.store.get? "b.js").map List.length = some 0 ∧
      s.reads = refiled.reads ++ (["b.js", "a.js", "b.js"] : List Text) := by decide +kernel
  obtain ⟨hfirst, hsecond, hbefore, hpaths, hnone, hreads⟩ := hshown
  have hrun : exec (runNamed shuffled.1 none shuffled.2.1) refiled = (.ok ⟨6, 3, 2, 2⟩, s) :=
    Prod.ext (eq_ok_of_toOption hfirst) rfl
  have hrun' : exec (runNamed shuffled.1 none shuffled.2.2) refiled = (.ok ⟨6, 3, 2, 2⟩, s') :=
    Prod.ext (eq_ok_of_toOption hsecond) rfl
  have hsame : ∀ p, shuffled.2.2.filter (·.2 = p) = shuffled.2.1.filter (·.2 = p) := by
    have hknown : ∀ p ∈ shuffled.2.1.map (·.2),
        shuffled.2.2.filter (·.2 = p) = shuffled.2.1.filter (·.2 = p) := by decide +kernel
    have hnew : ∀ o ∈ shuffled.2.2, o.2 ∈ shuffled.2.1.map (·.2) := by decide +kernel
    intro p
    by_cases hp : p ∈ shuffled.2.1.map (·.2)
    · exact hknown p hp
    · have hne : ∀ o : Text × Text, o.2 ∈ shuffled.2.1.map (·.2) → ¬ o.2 = p :=
        fun o ho h => hp (h ▸ ho)
      rw [List.filter_eq_nil_iff.mpr fun o ho => by simpa using hne o (hnew o ho),
        List.filter_eq_nil_iff.mpr fun o ho => by simpa using hne o (List.mem_map_of_mem ho)]
  obtain ⟨patch, -, -, hagree, -⟩ := patch_by_path hview hfixed hrun
  exact ⟨hbefore, hpaths, hnone, hreads, (hagree _ _ _ hrun' hsame).1⟩

end Success

end Act

end ImportScan
