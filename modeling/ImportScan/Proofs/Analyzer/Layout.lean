import ImportScan.Proofs.Analyzer.Resubmission
import ImportScan.Proofs.Extract.Layout

/-! # Edits of the layout

    An edit that moves, adds or removes blanks and comments leaves the outline of a tree as it
    was, and with it the records of the file.  So an analyzer that is told of such edits, by a
    patch or by a build, has nothing to store, and its list of all records stays.

    * `Backend.Relaid`   : two sources whose trees differ in their layout alone.
    * `Reflects`         : the records that are stored for a file are those of a source.
    * `Untouched`        : neither the store nor a current list of all records changes.
    * `layout_untouched` : what edits of the layout leave, tree by tree and session by session.
-/

namespace ImportScan

/-! ## Sources -/

namespace Backend

variable {b : Backend} {path source source' : Text}

/-- The trees of two sources of a file differ in their layout alone, and either both report an
    error or neither does. -/
def Relaid [Parsers] (b : Backend) (path source source' : Text) : Prop :=
  ∃ bytes bytes', source.utf8? = some bytes ∧ source'.utf8? = some bytes' ∧
    Cst.Relaid bytes bytes' (b.tree path source) (b.tree path source') ∧
    (b.tree path source).info.hasError = (b.tree path source').info.hasError

/-- Sources whose trees differ in their layout alone have the same records. -/
theorem records_relaid [Parsers] {o : Origin} (hkind : b.kind = .treeSitter)
    (h : b.Relaid o.path source source') : b.records o source' = b.records o source := by
  obtain ⟨bytes, bytes', hbytes, hbytes', hrelaid, herror⟩ := h
  unfold records
  rw [read_eq hkind hbytes, read_eq hkind hbytes']
  obtain hsame | ⟨cause, cause', hcause, hcause'⟩ :=
    treeImports_relaid (b := b) (o := o) hrelaid herror
  · rw [hsame]
  · rw [hcause, hcause']

end Backend

namespace Act

open Session

variable {a : Analyzer} {b : Backend} {s s' : Session} {path source source' : Text}

/-- The records that are stored for a file are those of a source. -/
def Reflects [Parsers] (s : Session) (path source : Text) : Prop :=
  ∃ records stored, s.analyzer.records path source = .ok records ∧
    s.analyzer.store.get? path = some stored ∧ (stored == records) = true

/-- Neither the store changes, with its order and its generation, nor a list of all records
    that is current, with how often it was computed. -/
structure Untouched (s s' : Session) : Prop where
  store : s'.analyzer.store = s.analyzer.store
  view : s.analyzer.view.isStale s.analyzer.store = false → s'.analyzer.view = s.analyzer.view

theorem records_relaid [Parsers] (hparser : a.parser = .ok b) (hkind : b.kind = .treeSitter)
    (h : b.Relaid path source source') : a.records path source' = a.records path source := by
  simp only [Analyzer.records, hparser]
  exact Backend.records_relaid hkind h

/-! ## Patches -/

section Patches

variable {sources : Sources} {tree : Option OutputTree} {patch : Patch} {op : Operation}
  {p : Text} {store : Store} {d : Disk}

/-- An operation that would change nothing on any disk leaves the store, also where the output
    tree stops it. -/
theorem outcome_idle [Parsers] (h : a.package.tracks p = true →
      ∀ d, Idle (recordsAt a sources d p) (store.get? p) op) :
    (outcome a sources tree op p store d).2.1 = store := by
  unfold outcome
  cases before tree op p d with
  | error e => rfl
  | ok d₁ =>
    simp only [settle, absorb_idle fun htracks => h htracks d₁]
    cases after tree op p d₁ with
    | error e => rfl
    | ok d₂ => rfl

theorem outcomes_store [Parsers] (h : ∀ o ∈ patch, a.package.tracks o.2 = true →
      ∀ d, Idle (recordsAt a sources d o.2) (store.get? o.2) o.1) :
    (outcomes a sources tree patch store d).2.1 = store := by
  induction patch generalizing d with
  | nil => rfl
  | cons o rest ih =>
    obtain ⟨op, p⟩ := o
    obtain ⟨hfirst, hrest⟩ := List.forall_mem_cons.mp h
    have hstore : (outcome a sources tree op p store d).2.1 = store := outcome_idle hfirst
    unfold outcomes
    rcases houtcome : outcome a sources tree op p store d with ⟨e | ⟨⟩, store₁, d₁⟩
    · rwa [houtcome] at hstore
    · rw [houtcome] at hstore
      subst hstore
      exact ih hrest

/-- A view that is current stays as it is when it is asked. -/
theorem refresh_of_not_stale {v : View} (h : v.isStale store = false) : v.refresh store = v := by
  rw [View.refresh, h, if_neg Bool.false_ne_true]

/-- Where a patch leaves the store, it leaves a current view, also if it is stopped. -/
theorem untouched_of_store [Parsers] (h : (exec (runBuild sources tree patch) s).2.analyzer.store =
      s.analyzer.store) : Untouched s (exec (runBuild sources tree patch) s).2 := by
  refine ⟨h, fun hcurrent => ?_⟩
  rcases hrun : exec (runBuild sources tree patch) s with ⟨e | stats, s'⟩
  · cases hparser : s.analyzer.parser with
    | error e' =>
      obtain ⟨log, hexec⟩ := exec_runBuild_error hparser sources tree patch
      rw [hexec] at hrun
      cases hrun
      rfl
    | ok b =>
      -- the patch was stopped, and the view was not asked
      have hkept := keeps_view_applyAll sources tree patch (started s)
      have hexec := exec_runBuild hparser sources tree patch
      obtain ⟨_, _, -, hstarted⟩ := started_eq hparser
      rcases happly : exec (applyAll sources tree patch) (started s) with ⟨e' | u, s₂⟩
      · simp only [happly, hrun] at hexec hkept
        cases hexec
        rw [hkept, hstarted]
      · simp only [happly, hrun] at hexec
        obtain ⟨_, hexec⟩ := hexec
        cases hexec
  · rw [hrun] at h
    rw [view_runBuild hrun, h]
    exact refresh_of_not_stale hcurrent

/-- A changed file whose source has the records of the one whose records are stored has nothing
    to be stored. -/
theorem Reflects.idle [Parsers] (h : Reflects s path source)
    (hread : sourceAt s.analyzer.input sources d path = .ok source')
    (hsame : s.analyzer.records path source' = s.analyzer.records path source) :
    Idle (recordsAt s.analyzer sources d path) (s.analyzer.store.get? path) .change := by
  obtain ⟨records, stored, hrecords, hget, heq⟩ := h
  refine ⟨records, stored, ?_, hget, heq⟩
  rw [recordsAt, hread]
  exact hsame.trans hrecords

/-- A patch changes files, and of the sources of tracked files it changes at most the layout:
    what is answered for a file differs in its layout alone from a source whose records are
    stored. -/
structure RelaysAt [Parsers] (s : Session) (b : Backend) (answer : Text → Except Fault Text)
    (ops : List (Text × Text)) : Prop where
  changes : ∀ o ∈ ops, o.1 = Operation.change.name
  sources : ∀ o ∈ ops, s.analyzer.package.tracks o.2 = true → ∃ source source',
    Reflects s o.2 source ∧ answer o.2 = .ok source' ∧ b.Relaid o.2 source source'

/-- Such a patch touches nothing; without an output tree it succeeds. -/
theorem runNamed_untouched [Parsers] {answer : Text → Except Fault Text} {ops : List (Text × Text)}
    (hparser : s.analyzer.parser = .ok b) (hkind : b.kind = .treeSitter)
    (hedits : RelaysAt s b answer ops) :
    let r := exec (runNamed (.asked fun _ => answer) tree ops) s
    Untouched s r.2 ∧ (tree = none → ∃ stats, r.1 = .ok stats) := by
  have hfixed : (Sources.asked fun _ => answer).Fixed := Sources.fixed_asked answer
  have hknown : ∀ o ∈ ops, Operation.ofName? o.1 ≠ none := by
    intro o ho
    rw [hedits.changes o ho, Operation.ofName?_name]
    exact Option.some_ne_none _
  obtain ⟨patch, rfl⟩ := spelled_of_known hknown
  have hidle : ∀ o ∈ patch, s.analyzer.package.tracks o.2 = true → ∀ d,
      Idle (recordsAt s.analyzer (.asked fun _ => answer) d o.2)
        (s.analyzer.store.get? o.2) o.1 := by
    rintro ⟨op, p⟩ ho htracks d
    have hmem : (op.name, p) ∈ Patch.spelled patch := List.mem_map_of_mem ho
    have hchange : op = .change := by
      have hname : op.name = Operation.change.name := hedits.changes _ hmem
      have hop := Operation.ofName?_name op
      rw [hname, Operation.ofName?_name] at hop
      exact (Option.some.inj hop).symm
    obtain ⟨source, source', hreflects, hanswer, hrelaid⟩ := hedits.sources _ hmem htracks
    rw [hchange]
    exact hreflects.idle hanswer (records_relaid hparser hkind hrelaid)
  intro r
  obtain ⟨⟨o, store, d⟩, hdoes, hresult, hleft⟩ := does_runBuild hfixed tree patch s
  simp only [attempt, hparser] at hresult hleft
  have houtcome := hdoes.outcome
  have hr : r = exec (runBuild (.asked fun _ => answer) tree patch) s := by
    rw [← exec_runNamed_spelled]
  rw [hr]
  constructor
  · apply untouched_of_store
    have hstore : (outcomes s.analyzer (.asked fun _ => answer) tree patch s.analyzer.store
        s.disk).2.1 = s.analyzer.store := outcomes_store hidle
    rw [← hleft] at hstore
    exact (congrArg (·.2.1) houtcome).trans hstore
  · rintro rfl
    have hdone := outcomes_idle fun o ho htracks => hidle o ho htracks s.disk
    rw [hdone] at hresult
    have hfirst : (exec (runBuild (.asked fun _ => answer) none patch) s).1 = o :=
      congrArg (·.1) houtcome
    cases o with
    | error e => cases hresult
    | ok stats => exact ⟨stats, hfirst⟩

end Patches

/-! ## Builds -/

section Builds

variable {stats : Stats}

/-- A build that succeeds ends with a view that is current. -/
theorem view_build [Parsers] (h : exec build s = (.ok stats, s')) :
    s'.analyzer.view = s.analyzer.view.refresh s'.analyzer.store := by
  obtain ⟨tree, s₁, hanalyzer, -, hrun⟩ := runBuild_of_build_ok h
  rw [view_runBuild hrun, hanalyzer]
  rfl

/-- Between trees in which every path has the same kind, a patch changes files and does nothing
    else. -/
theorem change_of_mem_patch {previous current : Snapshot}
    (hkinds : ∀ p, current.tree p = previous.tree p) {op : Operation} {p : Text}
    (h : (op, p) ∈ previous.patch current) : op = .change ∧ previous.tree p = some .file := by
  rw [Snapshot.patch, List.mem_append] at h
  rcases h with hremoved | hadded
  · obtain ⟨old, hold, hkind, -⟩ := Snapshot.mem_removals_iff.mp hremoved
    exact absurd ((hkinds p).trans (Snapshot.tree_eq_some hold)) hkind
  · obtain ⟨new, hnew, hcases⟩ := Snapshot.mem_additions_iff.mp hadded
    have hkind := (hkinds p).symm.trans (Snapshot.tree_eq_some hnew)
    rcases hcases with ⟨hne, -⟩ | ⟨-, hedit, rfl⟩
    · exact absurd hkind hne
    · exact ⟨rfl, hkind.trans (congrArg some (Snapshot.kind_of_isEdited hedit))⟩

/-- A file of the tree that the last build saw has the records of the source it had then. -/
theorem Complete.reflects [Parsers] {d : Disk} (h : Complete a s d)
    (hfile : (seen a d).tree path = some .file) (htracks : a.package.tracks path = true)
    (hread : sourceAt a.input .input d path = .ok source) : Reflects s path source := by
  have hrecords := h.records path
  rw [h.previous, wanted_eq, hfile] at hrecords
  simp only [recordsFor, htracks, if_true, recordsAt, hread] at hrecords
  cases hfound : a.records path source with
  | error e => simp [hfound, Except.map] at hrecords
  | ok records =>
    simp only [hfound, Except.map, Except.ok.injEq] at hrecords
    exact ⟨records, records, (h.alike.records path source).trans hfound, hrecords.symm, BEq.rfl⟩

/-- From one disk to another, every path of the input keeps its kind, and of the source of a
    tracked file at most the layout changes. -/
structure Relays [Parsers] (a : Analyzer) (b : Backend) (d d' : Disk) : Prop where
  kinds : ∀ p, (seen a d').tree p = (seen a d).tree p
  sources : ∀ p, (seen a d).tree p = some .file → a.package.tracks p = true →
    ∃ source source', sourceAt a.input .input d p = .ok source ∧
      sourceAt a.input .input d' p = .ok source' ∧
      (source' = source ∨ b.Relaid p source source')

/-- When at most the layout of files was edited since the last build, the next one succeeds and
    touches nothing. -/
theorem Complete.build_relaid [Parsers] {d d' : Disk} (h : Complete a s d)
    (hparser : a.parser = .ok b)
    (hkind : b.kind = .treeSitter) (hcurrent : s.analyzer.view.isStale s.analyzer.store = false)
    (hedits : Relays a b d d') :
    ∃ stats s', exec Act.build { s with disk := d' } = (.ok stats, s') ∧
      s'.analyzer.store = s.analyzer.store ∧ s'.analyzer.view = s.analyzer.view := by
  have hname : Disk.badName? s.analyzer.input = none := h.alike.input ▸ h.named
  have hidle : ∀ o ∈ (seen a d).patch (seen a d'), a.package.tracks o.2 = true →
      Idle (recordsAt a .input d' o.2) (s.analyzer.store.get? o.2) o.1 := by
    rintro ⟨op, p⟩ ho htracks
    obtain ⟨rfl, hfile⟩ := change_of_mem_patch hedits.kinds ho
    obtain ⟨source, source', hread, hread', hsource⟩ := hedits.sources p hfile htracks
    have hsame : s.analyzer.records p source' = s.analyzer.records p source := by
      rcases hsource with rfl | hrelaid
      · rfl
      · rw [h.alike.records, h.alike.records, records_relaid hparser hkind hrelaid]
    have hreflects := h.reflects hfile htracks hread
    rw [← h.alike.input] at hread'
    rw [← recordsAt_congr h.alike]
    exact hreflects.idle hread' hsame
  let s₀ : Session := { s with disk := d' }
  have hopen : opened s₀.analyzer s₀.disk = .ok (none, d') := by rw [opened, h.output]
  have hattempt : attempted s₀.analyzer none s₀.disk d' = (.ok (), s.analyzer.store, d') := by
    rw [attempted, attempt_congr h.alike, seen_congr h.alike, h.previous, attempt, hparser]
    exact outcomes_idle hidle
  obtain ⟨stats, s', hexec, -, hstore, -⟩ := build_done (s := s₀) hname hopen hattempt
  refine ⟨stats, s', hexec, hstore, ?_⟩
  rw [view_build hexec, hstore]
  exact refresh_of_not_stale hcurrent

/-- After a build that succeeded, whatever came before it, the same holds of the next build. -/
theorem build_relaid [Parsers] {d₀ d' : Disk} {last : Option Disk} {stats : Stats}
    (hnew : a.forget = a)
    (houtput : a.output = none) (hparser : a.parser = .ok b) (hkind : b.kind = .treeSitter)
    (hrun : Run a d₀ (fun _ _ => True) (Telltale a.input) s last)
    (htell : ∀ d ∈ last, Telltale a.input d s.disk) (hbuild : exec build s = (.ok stats, s'))
    (hedits : Relays a b s.disk d') :
    ∃ stats' s'', exec build { s' with disk := d' } = (.ok stats', s'') ∧
      s''.analyzer.store = s'.analyzer.store ∧ s''.analyzer.view = s'.analyzer.view := by
  obtain ⟨d, hup, hlast⟩ := upToDate_run hnew houtput hrun
  obtain ⟨r, s₁, hexec, hup', -, hdone⟩ := hup.build (hlast.imp id (htell d))
  rw [hbuild] at hexec
  cases hexec
  refine Complete.build_relaid hdone hparser hkind ?_ hedits
  rw [View.isStale, view_build hbuild, View.computedAt_refresh, bne_self_eq_false]

end Builds

/-! ## All edits of the layout -/

/-- Layout does not matter to the parser for concrete syntax trees:

    * trees that differ in their layout alone import the same, or fail in the same way;
    * a patch of edits of the layout leaves the store, its generation and a list of all records
      that is current, also where the output tree stops it; without an output tree it succeeds;
    * after every run, a build that succeeded is followed by one that succeeds and leaves all of
      them, if nothing but the layout of files was edited in between. -/
theorem layout_untouched [Parsers] {b : Backend} (hkind : b.kind = .treeSitter) :
    (∀ (o : Origin) (bytes bytes' : Bytes) (root root' : Cst.Node),
      Cst.Relaid bytes bytes' root root' →
      Cst.extract o bytes root = Cst.extract o bytes' root') ∧
    (∀ (s : Session) (answer : Text → Except Fault Text) (tree : Option OutputTree)
      (ops : List (Text × Text)), s.analyzer.parser = .ok b → RelaysAt s b answer ops →
      let r := exec (runNamed (.asked fun _ => answer) tree ops) s
      Untouched s r.2 ∧ (tree = none → ∃ stats, r.1 = .ok stats)) ∧
    (∀ (cwd : Text) (package : Package) (input output : Option Text) (a : Analyzer)
      (d₀ d' : Disk) (last : Option Disk) (s s' : Session) (stats : Stats),
      Analyzer.make cwd package input output = .ok a → a.output = none → a.parser = .ok b →
      Run a d₀ (fun _ _ => True) (Telltale a.input) s last →
      (∀ d ∈ last, Telltale a.input d s.disk) → exec build s = (.ok stats, s') →
      Relays a b s.disk d' →
      ∃ stats' s'', exec build { s' with disk := d' } = (.ok stats', s'') ∧
        s''.analyzer.store = s'.analyzer.store ∧ s''.analyzer.view = s'.analyzer.view) := by
  refine ⟨?_, ?_, ?_⟩
  · intro o bytes bytes' root root' hrelaid
    exact hrelaid.extract_eq
  · intro s answer tree ops hparser hedits
    exact runNamed_untouched hparser hkind hedits
  · intro cwd package input output a d₀ d' last s s' stats hmake houtput hparser hrun htell hbuild
    exact build_relaid (make_new hmake) houtput hparser hkind hrun htell hbuild

/-- Two texts of a file, with blanks and comments around and inside the imports of the second. -/
def spaced : Text × Text :=
  ("import x from 'x';\nimport(\x60y/$\x7bz\x7d\x60);",
   "\n\nimport   x /* c */ from 'x'  ; // d\nimport( /* e */ \x60y/$\x7b z \x7d\x60);\n")

/-- The disk of a file with a text. -/
def holding (text : Text) : Disk := ⟨[(["r"], .directory), (["r", "a.js"], .file text.utf8 .zero)]⟩

/-- The parser of a package without options of its own. -/
def plain : Backend := { kind := .treeSitter, options := Options.defaults }

/-- One computation, in which each of the two texts is parsed once. -/
theorem spaced_trees :
    Cst.Relaid spaced.1.utf8 spaced.2.utf8 (plain.tree "a.js" spaced.1)
        (plain.tree "a.js" spaced.2)
      ∧ (plain.tree "a.js" spaced.1).info.hasError
        = (plain.tree "a.js" spaced.2).info.hasError := by decide +kernel

theorem spaced_relaid : plain.Relaid "a.js" spaced.1 spaced.2 :=
  ⟨_, _, by decide +kernel, by decide +kernel, spaced_trees⟩

/-- The tree of such a disk is the one file, whatever its text is. -/
theorem tree_holding {text : Text}
    (hkinds : (seen noted.1 (holding text)).entries.map (fun e => (e.1, e.2.kind)) =
      ([("a.js", .file)] : List (Text × Kind))) (p : Text) :
    (seen noted.1 (holding text)).tree p = if p = "a.js" then some .file else none := by
  have htree : (seen noted.1 (holding text)).tree p =
      (((seen noted.1 (holding text)).entries.map (fun e => (e.1, e.2.kind))).find? (·.1 == p)).map
        (·.2) := by
    rw [List.find?_map, Option.map_map]
    exact Option.map_map _ _ _
  rw [htree, hkinds]
  by_cases hp : p = "a.js"
  · subst hp
    rfl
  · have hne : ("a.js" : Text) ≠ p := fun heq => hp heq.symm
    simp [hp, hne]

theorem spaced_relays : Relays noted.1 plain (holding spaced.1) (holding spaced.2) := by
  have htree :=
    tree_holding (by decide +kernel : (seen noted.1 (holding spaced.1)).entries.map _ = _)
  have htree' :=
    tree_holding (by decide +kernel : (seen noted.1 (holding spaced.2)).entries.map _ = _)
  refine ⟨fun p => by rw [htree, htree'], fun p hfile _ => ?_⟩
  have hp : p = "a.js" := by
    rw [htree] at hfile
    by_contra hne
    simp [hne] at hfile
  subst hp
  exact ⟨spaced.1, spaced.2, eq_ok_of_toOption (by decide +kernel),
    eq_ok_of_toOption (by decide +kernel), .inr spaced_relaid⟩

theorem layout_untouched_spaced :
    let s := (exec build ⟨noted.1, holding spaced.1, [], []⟩).2
    let patched := exec (runNamed (.asked fun _ _ => .ok spaced.2) none [("change", "a.js")]) s
    let built := exec build { s with disk := holding spaced.2 }
    s.analyzer.store.imports.length = 2 ∧
    (∀ o, Cst.extract o spaced.1.utf8 (plain.tree "a.js" spaced.1) =
      Cst.extract o spaced.2.utf8 (plain.tree "a.js" spaced.2)) ∧
    Untouched s patched.2 ∧ (∃ stats, patched.1 = .ok stats) ∧
    built.2.analyzer.store = s.analyzer.store ∧ built.2.analyzer.view = s.analyzer.view ∧
    (∃ stats, built.1 = .ok stats) := by
  intro s patched built
  have hmake : Analyzer.make "/" noted.1.package none none = .ok noted.1 := rfl
  have hparser : noted.1.parser = .ok plain := rfl
  have hran : (exec build ⟨noted.1, holding spaced.1, [], []⟩).1.toOption = some ⟨1, 1, 0, 2⟩ ∧
      s.analyzer.store.imports.length = 2 := by decide +kernel
  have hbuild : exec build ⟨noted.1, holding spaced.1, [], []⟩ = (.ok ⟨1, 1, 0, 2⟩, s) :=
    Prod.ext (eq_ok_of_toOption hran.1) rfl
  obtain ⟨htrees, hpatches, hbuilds⟩ := layout_untouched (b := plain) rfl
  -- the session is up to date with the first text
  obtain ⟨r, s', hexec, hup, -, hdone⟩ :=
    (upToDate_new rfl rfl (holding spaced.1) : UpToDate noted.1 _ _).build (.inl rfl)
  rw [hbuild] at hexec
  cases hexec
  have hreflects : Reflects s "a.js" spaced.1 :=
    Complete.reflects hdone (by decide +kernel) rfl (eq_ok_of_toOption (by decide +kernel))
  have hedits : RelaysAt s plain (fun _ => .ok spaced.2) [("change", "a.js")] := by
    refine ⟨List.forall_mem_singleton.mpr rfl, List.forall_mem_singleton.mpr fun _ => ?_⟩
    exact ⟨spaced.1, spaced.2, hreflects, rfl, spaced_relaid⟩
  obtain ⟨huntouched, hsucceeds⟩ := hpatches s _ none _ (hup.alike.parser.trans hparser) hedits
  obtain ⟨stats, s'', hagain, hstore, hview⟩ := hbuilds _ _ _ _ _ _ _ _ _ _ _ hmake rfl hparser
    .start (by rintro d ⟨⟩) hbuild spaced_relays
  have hbuilt : built = (.ok stats, s'') := hagain
  rw [hbuilt]
  exact ⟨hran.2, fun o => htrees o _ _ _ _ spaced_trees.1, huntouched, hsucceeds rfl, hstore, hview,
    stats, rfl⟩

end Act

end ImportScan
