import Mathlib
import ImportScan.Proofs.Analyzer.Build
import ImportScan.Proofs.Tree.Patch
import ImportScan.Script.Parsers

/-! # Builds after a failure

    A build that fails while it applies its patch leaves an analyzer that knows nothing, so the
    next build reads every tracked file and finds what a first build finds.  A build that
    cannot make the root of its output tree fails earlier: it has noted the tree by then, and
    keeps its records.  A build that cannot even list its input directory, since the system
    takes no such name, changes nothing.

    * `Reached`       : the sessions that come about by requests and changes to the disk.
    * `Tally`         : the sources that were read and counted on the way between sessions.
    * `trackedFiles`  : the sources that a build of a tree has to read.
    * `Renewed`       : nothing is known, and the next build starts from scratch.
    * `failed_build_forgets` : what every failed build leaves.
-/

namespace ImportScan.Act

open Session

/-! ## How builds end -/

section Ends

variable {s s' : Session} {stats : Stats} {e : Fault}

/-- A step that succeeds has its first part succeed. -/
theorem exec_bind_eq_ok {α β : Type} {x : Act α} {f : α → Act β} {b : β}
    (h : exec (x >>= f) s = (.ok b, s')) :
    ∃ a s₁, exec x s = (.ok a, s₁) ∧ exec (f a) s₁ = (.ok b, s') := by
  rw [exec_bind] at h
  rcases hx : exec x s with ⟨e | a, s₁⟩
  · simp [hx] at h
  · simp only [hx] at h
    exact ⟨a, s₁, rfl, h⟩

theorem exec_discard_eq_ok {α : Type} {x : Act α} (h : exec (discard x) s = (.ok (), s')) :
    ∃ a, exec x s = (.ok a, s') := by
  rw [exec_discard] at h
  rcases hx : exec x s with ⟨e | a, s₁⟩
  · simp [hx, Except.map] at h
  · simp only [hx, Prod.mk.injEq] at h
    exact ⟨a, by rw [h.2]⟩

/-- The output tree of an analyzer cannot be opened where its root cannot be made. -/
theorem opened_eq_error {a : Analyzer} {d : Disk} :
    opened a d = .error e ↔ ∃ out, a.output = some out ∧ d.makeDirs out = .error e := by
  unfold opened OutputTree.make
  cases a.output with
  | none => simp
  | some out =>
    cases hmake : d.makeDirs out with
    | ok d' => simp [hmake, bind, Except.bind, pure, Except.pure]
    | error e' => simp [hmake, bind, Except.bind]

/-- A build that cannot open its output tree has noted the tree and made some directories on
    the way to the root of the output tree, and changed nothing else. -/
theorem build_unopened [Parsers] (hname : Disk.badName? s.analyzer.input = none) {out : Text}
    (hout : s.analyzer.output = some out) (hdirs : s.disk.makeDirs out = .error e) :
    ∃ log, exec build s =
      (.error e, ⟨noting s.analyzer s.disk, s.disk.paved out, log, s.reads⟩) := by
  have hmake : OutputTree.make s.analyzer.input out true s.disk = .error e := by
    rw [OutputTree.make, hdirs]
    rfl
  have htree : ∀ log, exec openTree ⟨noting s.analyzer s.disk, s.disk, log, s.reads⟩ =
      (.error e, ⟨noting s.analyzer s.disk, s.disk.paved out, log, s.reads⟩) := by
    intro log
    have houtput : (noting s.analyzer s.disk).output = some out := hout
    have hinput : (noting s.analyzer s.disk).input = s.analyzer.input := rfl
    unfold openTree
    rw [exec_bind_ok (exec_get _)]
    simp only [houtput, hinput, hmake]
    rfl
  rw [build_taken hname, catchUp, exec_bind_ok (exec_get s), exec_bind_ok (exec_report _ s),
    exec_bind_ok (exec_update _ _)]
  exact ⟨_, exec_bind_error (htree _) _⟩

/-- A build that succeeds has listed its input directory, opened its output tree and applied
    its patch. -/
theorem of_build_ok [Parsers] (h : exec build s = (.ok stats, s')) :
    Disk.badName? s.analyzer.input = none ∧
      ∃ tree d d', opened s.analyzer s.disk = .ok (tree, d) ∧
        attempted s.analyzer tree s.disk d = (.ok (), s'.analyzer.store, d') := by
  obtain ⟨e, hunlisted⟩ | hname := unlisted_or_named s.analyzer
  · rw [build_refused hunlisted] at h
    cases h
  refine ⟨hname, ?_⟩
  cases hopen : opened s.analyzer s.disk with
  | error e =>
    obtain ⟨out, hout, hdirs⟩ := opened_eq_error.mp hopen
    obtain ⟨log, hexec⟩ := build_unopened hname hout hdirs
    rw [hexec] at h
    cases h
  | ok place =>
    obtain ⟨tree, d⟩ := place
    rcases hattempt : attempted s.analyzer tree s.disk d with ⟨e | _, store, d'⟩
    · obtain ⟨e', s₁, hexec, -⟩ := build_failed hname hopen hattempt
      rw [hexec] at h
      cases h
    · obtain ⟨stats', s₁, hexec, -, hstore, -⟩ := build_done hname hopen hattempt
      rw [hexec] at h
      cases h
      exact ⟨tree, d, d', rfl, by rw [hattempt, hstore]⟩

/-- How a build from one session to another fails, and what it leaves. -/
inductive BuildFailure (s s' : Session) (e : Fault) : Prop where
  /-- The input directory could not be listed; nothing was changed. -/
  | unlisted (hunlisted : Unlisted s.analyzer e) (hkept : s' = s)
  /-- The root of the output tree could not be made; the tree is noted by then. -/
  | unopened {out : Text} (hname : Disk.badName? s.analyzer.input = none)
      (hout : s.analyzer.output = some out) (hdirs : s.disk.makeDirs out = .error e)
      (hkept : s'.analyzer = noting s.analyzer s.disk) (hdisk : s'.disk = s.disk.paved out)
  /-- The patch could not be applied; everything is forgotten. -/
  | undone (hname : Disk.badName? s.analyzer.input = none)
      (hframe : Frame { s with analyzer := s.analyzer.forget } s')
      (hstore : s'.analyzer.store = {})

/-- A build that fails has failed in one of these ways. -/
theorem of_build_error [Parsers] (h : exec build s = (.error e, s')) : BuildFailure s s' e := by
  obtain ⟨e', hunlisted⟩ | hname := unlisted_or_named s.analyzer
  · rw [build_refused hunlisted] at h
    cases h
    exact .unlisted hunlisted rfl
  cases hopen : opened s.analyzer s.disk with
  | error e' =>
    obtain ⟨out, hout, hdirs⟩ := opened_eq_error.mp hopen
    obtain ⟨log, hexec⟩ := build_unopened hname hout hdirs
    rw [hexec] at h
    cases h
    exact .unopened hname hout hdirs rfl rfl
  | ok place =>
    obtain ⟨tree, d⟩ := place
    rcases hattempt : attempted s.analyzer tree s.disk d with ⟨e' | _, store, d'⟩
    · obtain ⟨e'', s₁, hexec, hframe, hstore, -⟩ := build_failed hname hopen hattempt
      rw [hexec] at h
      cases h
      exact .undone hname hframe hstore
    · obtain ⟨stats', s₁, hexec, -⟩ := build_done hname hopen hattempt
      rw [hexec] at h
      cases h

end Ends

/-! ## Sessions that come about -/

/-- What can be asked of an analyzer. -/
inductive Request where
  /-- Bring the records up to date with the input tree. -/
  | build
  /-- Forget everything. -/
  | reset
  /-- Apply a patch that is spelled out, into any output tree. -/
  | apply (sources : Sources) (tree : Option OutputTree) (ops : List (Text × Text))
  /-- Store the records of a source. -/
  | update (path source : Text)
  /-- Forget a file. -/
  | remove (path : Text)
  /-- Find the records of a source. -/
  | parse (path source : Text)
  /-- Give all records. -/
  | imports
  /-- Set up the parser. -/
  | setup

/-- The step that answers a request. -/
def Request.act [Parsers] : Request → Act Unit
  | .build => discard Act.build
  | .reset => Act.reset
  | .apply sources tree ops => discard (runNamed sources tree ops)
  | .update path source => discard (updateImports path source)
  | .remove path => discard (removeImports path)
  | .parse path source => discard (Act.parse path source)
  | .imports => discard Act.imports
  | .setup => discard Act.setup

/-- The sessions that an analyzer gets into. -/
inductive Reached [Parsers] (a : Analyzer) : Session → Prop where
  /-- Nothing has happened. -/
  | start (d : Disk) : Reached a ⟨a, d, [], []⟩
  /-- Others have changed the disk. -/
  | change {s : Session} (d : Disk) : Reached a s → Reached a { s with disk := d }
  /-- A request was answered, or a fault stopped it. -/
  | request {s : Session} (q : Request) : Reached a s → Reached a (exec q.act s).2

section Sameness

variable {a : Analyzer} {s s' : Session}

/-- What stays of an analyzer whatever is asked of it. -/
structure Same (a : Analyzer) (s : Session) : Prop extends a.Alike s.analyzer where
  output : s.analyzer.output = a.output

theorem Same.frame (h : Same a s) (hframe : Frame s s') : Same a s' :=
  ⟨h.toAlike.trans hframe.toAlike, hframe.output.trans h.output⟩

theorem Same.forget (h : Same a s) : Same a { s with analyzer := s.analyzer.forget } :=
  ⟨h.toAlike.trans ⟨rfl, rfl, rfl⟩, h.output⟩

theorem Same.noting (h : Same a s) (d : Disk) :
    Same a { s with analyzer := noting s.analyzer d } :=
  ⟨h.toAlike.trans (noting_alike _ d), h.output⟩

/-- The disk, the log and the sources read do not matter. -/
theorem Same.of_analyzer (h : Same a s) (heq : s'.analyzer = s.analyzer) : Same a s' :=
  h.frame (.of_analyzer heq)

theorem Same.build [Parsers] (h : Same a s) : Same a (exec Act.build s).2 := by
  rcases hexec : exec Act.build s with ⟨e | stats, s'⟩
  · cases of_build_error hexec with
    | unlisted _ hkept => exact hkept ▸ h
    | unopened _ _ _ hkept _ => exact (h.noting s.disk).of_analyzer hkept
    | undone _ hframe _ => exact h.forget.frame hframe
  · obtain ⟨hname, tree, d, d', hopen, hattempt⟩ := of_build_ok hexec
    obtain ⟨stats', s₁, hdone, hframe, -⟩ := build_done hname hopen hattempt
    rw [hexec] at hdone
    cases hdone
    exact (h.noting s.disk).frame hframe

theorem Same.reset (h : Same a s) : Same a (exec Act.reset s).2 := by
  rw [exec_reset]
  cases cleared s.analyzer.output s.disk with
  | ok d => exact h.forget.of_analyzer rfl
  | error e => exact h.forget

/-- Every request but a build and a reset stays within the frame of patches. -/
theorem Request.frame [Parsers] (q : Request) (hbuild : q ≠ .build) (hreset : q ≠ .reset)
    (s : Session) : Frame s (exec q.act s).2 := by
  cases q with
  | build => exact absurd rfl hbuild
  | reset => exact absurd rfl hreset
  | apply sources tree ops =>
    show Frame s (exec (discard (runNamed sources tree ops)) s).2
    rw [exec_discard]
    unfold runNamed
    cases readPatch ops with
    | error e => exact .refl s
    | ok patch => exact frame_runBuild sources tree patch s
  | update path source => exact (does_updateImports path source s).frame
  | remove path => exact (does_removeImports path s).discard.frame
  | parse path source => exact (does_parse path source s).discard.frame
  | imports => exact (does_imports s).discard.frame
  | setup =>
    obtain ⟨r, hdoes⟩ := does_setup s
    exact hdoes.discard.frame

theorem Same.request [Parsers] (h : Same a s) (q : Request) : Same a (exec q.act s).2 := by
  by_cases hbuild : q = .build
  · subst hbuild
    show Same a (exec (discard Act.build) s).2
    rw [exec_discard]
    exact h.build
  · by_cases hreset : q = .reset
    · subst hreset
      exact h.reset
    · exact h.frame (q.frame hbuild hreset s)

theorem Reached.same [Parsers] (h : Reached a s) : Same a s := by
  induction h with
  | start d => exact ⟨⟨rfl, rfl, rfl⟩, rfl⟩
  | change d _ ih => exact ih.of_analyzer rfl
  | request q _ ih => exact ih.request q

end Sameness

/-! ## The sources that a build reads -/

/-- The sources that were read, and how many were parsed, on the way between sessions. -/
structure Tally (s s' : Session) (read : List Text) (parsed : Nat) : Prop where
  reads : s'.reads = s.reads ++ read
  count : s'.analyzer.filesParsed = s.analyzer.filesParsed + parsed

section Tallies

variable {s s' s'' : Session} {sources : Sources} {path source : Text}

theorem Tally.refl (s : Session) : Tally s s [] 0 := ⟨by simp, by simp⟩

theorem Tally.trans {read read' : List Text} {parsed parsed' : Nat}
    (h : Tally s s' read parsed) (h' : Tally s' s'' read' parsed') :
    Tally s s'' (read ++ read') (parsed + parsed') where
  reads := by rw [h'.reads, h.reads, List.append_assoc]
  count := by rw [h'.count, h.count, Nat.add_assoc]

/-- A step that keeps the sources read and their number. -/
theorem Tally.keep (hreads : s'.reads = s.reads)
    (hcount : s'.analyzer.filesParsed = s.analyzer.filesParsed) : Tally s s' [] 0 :=
  ⟨by simp [hreads], by simp [hcount]⟩

theorem tally_setup (s : Session) : Tally s (exec setup s).2 [] 0 := by
  unfold setup
  rw [exec_bind_ok (exec_get s)]
  cases hb : s.analyzer.backend with
  | some b =>
    simp only [hb]
    exact .refl s
  | none =>
    simp only [hb]
    rw [exec_bind_ok (exec_report _ s)]
    cases (Backend.setup s.analyzer.package).1 with
    | ok b => exact .keep rfl rfl
    | error e => exact .keep rfl rfl

/-- A source that is parsed is counted, also when it is rejected. -/
theorem tally_parse [Parsers] {records : List Import}
    (h : exec (parse path source) s = (.ok records, s')) : Tally s s' [] 1 := by
  obtain ⟨b, s₁, hsetup, h⟩ := exec_bind_eq_ok h
  have htally : Tally s s₁ [] 0 := by
    have := tally_setup s
    rwa [hsetup] at this
  rw [exec_bind_ok (exec_update _ _), exec_bind_ok (exec_get _), exec_bind_ok (exec_report _ _),
    exec_bind_ok (exec_update _ _)] at h
  have hparsed : Tally s₁ s' [] 1 := by
    split at h
    · cases h
      exact ⟨by simp, rfl⟩
    · rw [exec_bind_ok (exec_report _ _), exec_bind_ok (exec_update _ _)] at h
      cases h
      exact ⟨by simp, rfl⟩
    · cases h
  exact htally.trans hparsed

theorem tally_readSource (sources : Sources) (path : Text) (s : Session) :
    Tally s (exec (readSource sources path) s).2 [path] 0 := by
  rw [exec_readSource]
  exact ⟨rfl, rfl⟩

/-- The sources that a patch calls for: of the tracked files that are new or were edited. -/
def sourcesOf (package : Package) (patch : Patch) : List Text :=
  (patch.filter fun o => (o.1 = .change ∨ o.1 = .create) ∧ package.tracks o.2).map (·.2)

/-- A tracked file is read and parsed once. -/
theorem tally_track [Parsers] (h : exec (track sources path) s = (.ok (), s')) :
    Tally s s' (if s.analyzer.package.tracks path then [path] else [])
      (if s.analyzer.package.tracks path then 1 else 0) := by
  unfold track at h
  rw [exec_bind_ok (exec_get s)] at h
  cases htracks : s.analyzer.package.tracks path with
  | false =>
    simp only [htracks, Bool.false_eq_true, if_false] at h ⊢
    cases h
    exact .refl s
  | true =>
    simp only [htracks, if_true] at h ⊢
    obtain ⟨source, s₁, hread, h⟩ := exec_bind_eq_ok h
    obtain ⟨changed, h⟩ := exec_discard_eq_ok h
    have hreads : Tally s s₁ [path] 0 := by
      have := tally_readSource sources path s
      rwa [hread] at this
    -- the source is parsed after a line is reported, and its records are stored
    unfold updateImports at h
    rw [exec_bind_ok (exec_report _ _)] at h
    obtain ⟨records, s₂, hparse, h⟩ := exec_bind_eq_ok h
    have hparsed : Tally s₁ s₂ [] 1 := ⟨(tally_parse hparse).reads, (tally_parse hparse).count⟩
    rw [exec_bind_ok (exec_get _), exec_bind_ok (exec_update _ _)] at h
    cases h
    have hboth := hreads.trans hparsed
    exact ⟨hboth.reads, hboth.count⟩

theorem tally_onTree (tree : Option OutputTree) (call : OutputTree → Disk → Except Fault Disk)
    (s : Session) : Tally s (exec (onTree tree call) s).2 [] 0 := by
  cases tree with
  | none => exact .refl s
  | some t =>
    show Tally s (exec (onDisk (call t)) s).2 [] 0
    rw [exec_onDisk]
    split
    · exact .keep rfl rfl
    · exact .refl s

theorem tally_linkInto (tree : Option OutputTree) (path : Text) (s : Session) :
    Tally s (exec (linkInto tree path) s).2 [] 0 := by
  cases tree with
  | none => exact .refl s
  | some t =>
    unfold linkInto
    simp only
    rw [exec_bind_ok (exec_get s), exec_bind_ok (exec_report _ s), exec_onDisk]
    split <;> exact .keep rfl rfl

theorem tally_untrack (path : Text) (s : Session) : Tally s (exec (untrack path) s).2 [] 0 := by
  unfold untrack
  rw [exec_bind_ok (exec_get s)]
  split
  · rw [exec_discard]
    exact .keep rfl rfl
  · exact .refl s

/-- What an operation reads and parses when it succeeds. -/
theorem tally_apply [Parsers] {tree : Option OutputTree} {op : Operation}
    (h : exec (apply sources tree op path) s = (.ok (), s')) :
    Tally s s' (sourcesOf s.analyzer.package [(op, path)])
      (sourcesOf s.analyzer.package [(op, path)]).length := by
  -- new and changed files are read and linked in the same way
  have hlinked : ∀ {s₀}, Tally s s₀ [] 0 → s₀.analyzer.package = s.analyzer.package →
      exec (do track sources path; linkInto tree path) s₀ = (.ok (), s') →
      Tally s s' (if s.analyzer.package.tracks path then [path] else [])
        (if s.analyzer.package.tracks path then 1 else 0) := by
    intro s₀ hstart hpackage h
    obtain ⟨_, s₁, htrack, hlink⟩ := exec_bind_eq_ok h
    have htracked := hstart.trans (tally_track htrack)
    have hend := tally_linkInto tree path s₁
    rw [hlink] at hend
    rw [hpackage] at htracked
    simpa using htracked.trans hend
  cases op with
  | unlink =>
    obtain ⟨_, s₁, huntrack, hcall⟩ := exec_bind_eq_ok h
    have hfirst := tally_untrack path s
    have hsecond := tally_onTree tree (fun t => t.unlink path) s₁
    rw [huntrack] at hfirst
    rw [hcall] at hsecond
    exact hfirst.trans hsecond
  | rmdir =>
    have hcall := tally_onTree tree (fun t => t.rmdir path) s
    rwa [show exec (onTree tree fun t => t.rmdir path) s = _ from h] at hcall
  | mkdir =>
    have hcall := tally_onTree tree (fun t => t.mkdir path) s
    rwa [show exec (onTree tree fun t => t.mkdir path) s = _ from h] at hcall
  | change =>
    obtain ⟨_, s₁, hremove, h⟩ := exec_bind_eq_ok h
    have hfirst := tally_onTree tree (fun t => t.remove path) s
    have hframe := (does_onTree tree (fun t => t.remove path) s).frame
    rw [hremove] at hfirst hframe
    have hall := hlinked hfirst hframe.package h
    cases htracks : s.analyzer.package.tracks path <;> simpa [sourcesOf, htracks] using hall
  | create =>
    have hall := hlinked (.refl s) rfl h
    cases htracks : s.analyzer.package.tracks path <;> simpa [sourcesOf, htracks] using hall

theorem sourcesOf_cons (package : Package) (o : Operation × Text) (rest : Patch) :
    sourcesOf package (o :: rest) = sourcesOf package [o] ++ sourcesOf package rest := by
  rw [← List.singleton_append]
  simp only [sourcesOf, List.filter_append, List.map_append]

/-- A patch that is applied reads and parses what it calls for, in order. -/
theorem tally_applyAll [Parsers] {tree : Option OutputTree} {patch : Patch}
    (h : exec (applyAll sources tree patch) s = (.ok (), s')) :
    Tally s s' (sourcesOf s.analyzer.package patch) (sourcesOf s.analyzer.package patch).length := by
  induction patch generalizing s with
  | nil =>
    cases h
    exact .refl _
  | cons o rest ih =>
    obtain ⟨op, path⟩ := o
    obtain ⟨_, s₁, hfirst, hrest⟩ := exec_bind_eq_ok h
    have hpackage : s₁.analyzer.package = s.analyzer.package := by
      have hframe := (does_apply sources tree op path s).frame
      rw [hfirst] at hframe
      exact hframe.package
    have hall := (tally_apply hfirst).trans (ih hrest)
    rw [hpackage] at hall
    rwa [sourcesOf_cons, List.length_append]

/-- The statistics of a build tell how many sources its patch called for. -/
theorem tally_runBuild [Parsers] {tree : Option OutputTree} {patch : Patch} {stats : Stats}
    (h : exec (runBuild sources tree patch) s = (.ok stats, s')) :
    stats.filesParsed = (sourcesOf s.analyzer.package patch).length ∧
      s'.reads = s.reads ++ sourcesOf s.analyzer.package patch := by
  obtain ⟨⟨b₀, hparser⟩, s₂, log, hpatch, rfl, rfl⟩ := of_runBuild_ok h
  have htally := tally_applyAll hpatch
  obtain ⟨b, log', -, hstarted⟩ := started_eq hparser
  have hcount := htally.count
  have hreads := htally.reads
  rw [hstarted] at hcount hreads
  exact ⟨hcount.trans (Nat.zero_add _), hreads⟩

/-- The sources that a build of a tree has to read when nothing is known. -/
def trackedFiles (package : Package) (tree : Snapshot) : List Text :=
  tree.sortedPaths.filter fun p => tree.tree p = some .file ∧ package.tracks p

/-- Against nothing, everything in a tree is new. -/
theorem patch_empty (tree : Snapshot) :
    Snapshot.patch {} tree =
      tree.sortedPaths.filterMap fun p => (tree.tree p).map fun k => (k.addition, p) := by
  have hremovals : Snapshot.removals {} tree = [] :=
    List.filterMap_eq_nil_iff.mpr fun _ _ => rfl
  rw [Snapshot.patch, hremovals, List.nil_append, Snapshot.additions]
  refine List.filterMap_congr fun p _ => ?_
  unfold Snapshot.tree
  cases tree.get? p with
  | none => rfl
  | some status => exact Snapshot.addition?_eq {} p status

theorem sourcesOf_patch_empty (package : Package) (tree : Snapshot) :
    sourcesOf package (Snapshot.patch {} tree) = trackedFiles package tree := by
  rw [patch_empty, trackedFiles]
  induction tree.sortedPaths with
  | nil => rfl
  | cons p rest ih =>
    rw [List.filterMap_cons, List.filter_cons]
    cases hp : tree.tree p with
    | none => simpa using ih
    | some k =>
      simp only [Option.map_some]
      rw [sourcesOf_cons, ih]
      cases k with
      | directory => simp [sourcesOf, Kind.addition]
      | file =>
        cases htracks : package.tracks p with
        | true => simp [sourcesOf, Kind.addition, htracks]
        | false => simp [sourcesOf, Kind.addition, htracks]

/-- Opening the output tree changes the disk alone. -/
theorem openTree_keeps (s : Session) :
    (exec openTree s).2.analyzer = s.analyzer ∧ (exec openTree s).2.reads = s.reads := by
  unfold openTree
  rw [exec_bind_ok (exec_get s)]
  split
  · exact ⟨rfl, rfl⟩
  · split <;> exact ⟨rfl, rfl⟩

/-- A build that succeeds has run its patch, from a session that has noted the tree. -/
theorem runBuild_of_build_ok [Parsers] {stats : Stats} (h : exec build s = (.ok stats, s')) :
    ∃ tree s₁, s₁.analyzer = noting s.analyzer s.disk ∧ s₁.reads = s.reads ∧
      exec (runBuild .input tree (s.analyzer.previous.patch (seen s.analyzer s.disk))) s₁ =
        (.ok stats, s') := by
  rw [build_taken (of_build_ok h).1, catchUp, exec_bind_ok (exec_get s),
    exec_bind_ok (exec_report _ s), exec_bind_ok (exec_update _ _)] at h
  generalize s.log ++ _ = log at h
  obtain ⟨tree, s₁, hopen, h⟩ := exec_bind_eq_ok h
  have hopen' : exec openTree ⟨noting s.analyzer s.disk, s.disk, log, s.reads⟩ = (.ok tree, s₁) :=
    hopen
  obtain ⟨hanalyzer, hreads⟩ := openTree_keeps ⟨noting s.analyzer s.disk, s.disk, log, s.reads⟩
  rw [hopen'] at hanalyzer hreads
  rw [exec_tryCatch] at h
  rcases hrun : exec (runBuild .input tree
    (s.analyzer.previous.patch (seen s.analyzer s.disk))) s₁ with ⟨e | stats', s₂⟩
  · -- after a fault the build is given up
    simp only [hrun] at h
    obtain ⟨_, _, _, h⟩ := exec_bind_eq_ok h
    obtain ⟨_, _, _, h⟩ := exec_bind_eq_ok h
    cases h
  · simp only [hrun] at h
    cases h
    exact ⟨tree, s₁, hanalyzer, hreads, hrun⟩

/-- A build that starts from nothing reads and parses every tracked file of the tree. -/
theorem tally_build [Parsers] {stats : Stats} (hempty : s.analyzer.previous = {})
    (h : exec build s = (.ok stats, s')) :
    let files := trackedFiles s.analyzer.package (seen s.analyzer s.disk)
    stats.filesParsed = files.length ∧ s'.reads = s.reads ++ files := by
  obtain ⟨tree, s₁, hanalyzer, hreads, hrun⟩ := runBuild_of_build_ok h
  have htally := tally_runBuild hrun
  rw [hempty, sourcesOf_patch_empty, hanalyzer, hreads] at htally
  exact htally

end Tallies

/-! ## After a failed build -/

section Failures

variable {a : Analyzer} {s s' : Session}

theorem opened_congr {a' : Analyzer} (hinput : a'.input = a.input) (houtput : a'.output = a.output)
    (d : Disk) : opened a' d = opened a d := by
  rw [opened, opened, hinput, houtput]

/-- Where nothing is known, a build that succeeds stores what a first build stores. -/
theorem Same.first_build [Parsers] {stats : Stats} (h : Same a s) (hnew : a.forget = a)
    (hstore : s.analyzer.store = {}) (hprevious : s.analyzer.previous = {})
    (hbuild : exec Act.build s = (.ok stats, s')) :
    ∃ stats₀ s₀, exec Act.build ⟨a, s.disk, [], []⟩ = (.ok stats₀, s₀) ∧
      s₀.analyzer.store = s'.analyzer.store := by
  obtain ⟨hname, tree, d, d', hopen, hattempt⟩ := of_build_ok hbuild
  have hstore₀ : a.store = {} := by rw [← hnew]; rfl
  have hprevious₀ : a.previous = {} := by rw [← hnew]; rfl
  rw [h.input] at hname
  rw [opened_congr h.input h.output] at hopen
  rw [attempted, attempt_congr h.toAlike, seen_congr h.toAlike, hprevious, hstore, ← hprevious₀,
    ← hstore₀] at hattempt
  obtain ⟨stats₀, s₀, hexec, -, hdone, -⟩ :=
    build_done (s := ⟨a, s.disk, [], []⟩) hname hopen hattempt
  exact ⟨stats₀, s₀, hexec, hdone⟩

/-- Nothing is known, and the next build that succeeds reads and parses every tracked file of
    the tree and finds the records that a first build finds. -/
structure Renewed [Parsers] (a : Analyzer) (s : Session) : Prop where
  store : s.analyzer.store = {}
  previous : s.analyzer.previous = {}
  next : ∀ d stats s', exec build { s with disk := d } = (.ok stats, s') →
    stats.filesParsed = (trackedFiles a.package (seen a d)).length ∧
      s'.reads = s.reads ++ trackedFiles a.package (seen a d) ∧
      ∃ stats₀ s₀, exec build ⟨a, d, [], []⟩ = (.ok stats₀, s₀) ∧
        ∀ p, s'.analyzer.store.get? p = s₀.analyzer.store.get? p

/-- An analyzer that has forgotten everything starts from scratch. -/
theorem Same.renewed [Parsers] (h : Same a s) (hnew : a.forget = a) (hstore : s.analyzer.store = {})
    (hprevious : s.analyzer.previous = {}) : Renewed a s := by
  refine ⟨hstore, hprevious, fun d stats s' hnext => ?_⟩
  have hsame : Same a { s with disk := d } := h.of_analyzer rfl
  obtain ⟨hparsed, hreads⟩ := tally_build (s := { s with disk := d }) hprevious hnext
  rw [hsame.package, seen_congr hsame.toAlike] at hparsed hreads
  obtain ⟨stats₀, s₀, hexec, hequal⟩ := hsame.first_build hnew hstore hprevious hnext
  exact ⟨hparsed, hreads, stats₀, s₀, hexec, fun p => by rw [hequal]⟩

/-- After every session that comes about, and on every disk, a build that fails leaves an
    analyzer that knows nothing and starts from scratch the next time; unless it failed because
    the root of its output tree could not be made, or its input directory could not be listed.
    In the first case its records stay, the tree counts as built, and so do the directories
    that were made on the way to the root.  In the second case nothing at all has changed, and
    all builds fail in the same way. -/
theorem failed_build_forgets [Parsers] {cwd : Text} {package : Package} {input output : Option Text}
    {e : Fault} (hmake : Analyzer.make cwd package input output = .ok a) (hs : Reached a s)
    (h : exec build s = (.error e, s')) :
    Renewed a s' ∨
      (∃ out, a.output = some out ∧ s.disk.makeDirs out = .error e ∧
        s'.analyzer.store = s.analyzer.store ∧ s'.analyzer.previous = seen a s.disk ∧
        s'.disk = s.disk.paved out) ∨
      (Unlisted a e ∧ s' = s ∧
        ∀ d, exec build { s with disk := d } = (.error e, { s with disk := d })) := by
  have hsame := hs.same
  cases of_build_error h with
  | unlisted hunlisted hkept =>
    exact .inr (.inr ⟨(unlisted_congr hsame.toAlike).mp hunlisted, hkept, fun d =>
      build_refused (s := { s with disk := d }) hunlisted⟩)
  | unopened _ hout hdirs hkept hdisk =>
    refine .inr (.inl ⟨_, hsame.output ▸ hout, hdirs, ?_, ?_, hdisk⟩)
    · rw [hkept]
      rfl
    · rw [hkept]
      exact seen_congr hsame.toAlike s.disk
  | undone _ hframe hstore =>
    exact .inl ((hsame.forget.frame hframe).renewed (make_new hmake) hstore hframe.previous)

/-- An analyzer with an output tree. -/
def linking : Analyzer where
  package :=
    { name := .str "app", root := "/r", extensions := ["js"], parser := .treeSitter
      options := .map [], version := .int 4, treeType := none }
  input := "/r"
  output := some "/out"

/-- A disk where a file is in the place of a directory of the output tree. -/
def taken : Disk :=
  ⟨[(["r"], .directory), (["r", "a"], .directory), (["r", "b.js"], .file [59] .zero),
    (["out"], .directory), (["out", "a"], .file [] .zero)]⟩

theorem failed_build_forgets_taken :
    ∃ e s', exec build ⟨linking, taken, [], []⟩ = (.error e, s') ∧ Renewed linking s' := by
  have hmake : Analyzer.make "/" linking.package none (some "out") = .ok linking := rfl
  have hfails : (exec build ⟨linking, taken, [], []⟩).1.isOk = false := by cbv
  rcases hexec : exec build ⟨linking, taken, [], []⟩ with ⟨e | stats, s'⟩
  · obtain hrenewed | ⟨out, hout, hdirs, -⟩ | ⟨hunlisted, -⟩ :=
      failed_build_forgets hmake (.start taken) hexec
    · exact ⟨e, s', rfl, hrenewed⟩
    · -- the root of the output tree is there
      cases hout
      have hopens : taken.makeDirs "/out" = .ok taken := rfl
      rw [hopens] at hdirs
      cases hdirs
    · -- the name of the input directory is a good one
      exact absurd (by decide) hunlisted.not_named
  · rw [hexec] at hfails
    cases hfails

/-- A disk where a file is in the place of the output directory. -/
def blocked : Disk :=
  ⟨[(["r"], .directory), (["r", "b.js"], .file "import 'a';".toUTF8.toList .zero),
    (["out"], .file [] .zero)]⟩

/-- The same disk without that file. -/
def unblocked : Disk := blocked.erase ["out"]

/-- When a file in the place of the output directory has made a build fail, the tree stays
    noted; so the next build, with that file gone, has nothing to do and misses a record that
    a first build finds. -/
theorem blocked_build_keeps_tree :
    let failed := exec build ⟨linking, blocked, [], []⟩
    let next := exec build { failed.2 with disk := unblocked }
    let first := exec build ⟨linking, unblocked, [], []⟩
    failed.1.isOk = false ∧ (failed.2.analyzer.previous.get? "b.js").isSome = true ∧
      next.1.toOption.map (·.operations) = some 0 ∧
      (next.2.analyzer.store.get? "b.js").map List.length = none ∧
      first.1.toOption.map (·.operations) = some 1 ∧
      (first.2.analyzer.store.get? "b.js").map List.length = some 1 := by
  decide +kernel

end Failures

end ImportScan.Act
