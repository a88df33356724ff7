import ImportScan.Proofs.Analyzer.Exec
import ImportScan.Proofs.Store.Contents

/-! # What a patch does

    An operation works in three phases: on the output tree, on the store, and on the output
    tree again.  Each phase is a function of the store or of the disk, so the effect of a
    patch can be told without sessions.

    * `before`, `absorb`, `after` : the three phases of an operation.
    * `outcome`, `outcomes`       : the phases put together, up to the first that fails.
    * `Does.applyAll`             : a patch does what its operations do.
-/

/-! ## Sources -/

namespace ImportScan.Sources

/-- The sources as they answer once some paths have been read. -/
def after (reads : List Text) : Sources → Sources
  | .input => .input
  | .given texts => .given texts
  | .asked answer => .asked fun _ => answer reads

/-- The answers depend on the path alone, and not on what was read before. -/
def Fixed (sources : Sources) : Prop := ∀ reads, sources.after reads = sources

theorem fixed_input : Fixed .input := fun _ => rfl

theorem fixed_given (texts : List (Text × Text)) : Fixed (.given texts) := fun _ => rfl

theorem fixed_asked (answer : Text → Except Fault Text) : Fixed (.asked fun _ => answer) :=
  fun _ => rfl

end ImportScan.Sources

namespace ImportScan.Act

open Session

variable {s : Session}

/-- The source at a path, when nothing was read before: of a file below the input directory,
    among given texts, or as it is answered. -/
def sourceAt (input : Text) (sources : Sources) (d : Disk) (path : Text) : Except Fault Text :=
  match sources with
  | .input =>
    match d.read (Path.join input path) with
    | .ok bytes => .ok (Text.ofUtf8Lossy bytes).normalizeNewlines
    | .error e => .error e
  | .given texts =>
    match texts.find? (·.1 == path) with
    | some (_, source) => .ok source
    | none => .error (.missingKey (.text path))
  | .asked answer => answer [] path

/-- The records of the source at a path. -/
def recordsAt [Parsers] (a : Analyzer) (sources : Sources) (d : Disk) (path : Text) :
    Except Fault (List Import) :=
  match sourceAt a.input sources d path with
  | .error e => .error e
  | .ok source => a.records path source

theorem recordsAt_congr [Parsers] {a a' : Analyzer} (h : a.Alike a') (sources : Sources) (d : Disk)
    (path : Text) : recordsAt a' sources d path = recordsAt a sources d path := by
  simp only [recordsAt, h.input, h.records]

/-- Reading a source notes its path, and changes nothing else. -/
theorem exec_readSource (sources : Sources) (path : Text) (s : Session) :
    exec (readSource sources path) s =
      (sourceAt s.analyzer.input (sources.after s.reads) s.disk path,
        { s with reads := s.reads ++ [path] }) := by
  unfold readSource
  rw [exec_bind_ok (exec_get s), exec_bind_ok (exec_modify _ s)]
  cases sources with
  | input =>
    simp only [readInput, sourceAt, Sources.after]
    rw [exec_bind_ok (exec_get _)]
    split <;> simp_all
  | given texts =>
    simp only [sourceAt, Sources.after]
    cases texts.find? (·.1 == path) <;> rfl
  | asked answer =>
    simp only [sourceAt, Sources.after]
    cases answer s.reads path <;> rfl

theorem does_readSource (sources : Sources) (path : Text) (s : Session) :
    Does (readSource sources path) s
      (sourceAt s.analyzer.input (sources.after s.reads) s.disk path, s.analyzer.store,
        s.disk) :=
  .of_exec (exec_readSource sources path s) (.of_analyzer rfl) rfl rfl

/-- A session whose parser is as it is after setting up, if that succeeds. -/
theorem exec_setup_ok {b₀ : Backend} (h : s.analyzer.parser = .ok b₀) :
    ∃ b log, b.unloaded = b₀ ∧
      exec setup s = (.ok b, { s with analyzer := { s.analyzer with backend := some b }, log }) := by
  unfold setup
  rw [exec_bind_ok (exec_get s)]
  unfold Analyzer.parser at h
  cases hb : s.analyzer.backend with
  | some b =>
    simp only [hb] at h ⊢
    have hsame : { s with analyzer := { s.analyzer with backend := some b }, log := s.log } = s := by
      rw [← hb]
    exact ⟨b, s.log, Except.ok.inj h, by rw [hsame, exec_pure]⟩
  | none =>
    simp only [hb] at h ⊢
    rw [exec_bind_ok (exec_report _ s)]
    cases hsetup : (Backend.setup s.analyzer.package).1 with
    | error e => simp [hsetup, Except.map] at h
    | ok b =>
      simp only [hsetup, Except.map, Except.ok.injEq] at h
      exact ⟨b, _, h, rfl⟩

/-- A parser that cannot be set up leaves nothing but lines. -/
theorem exec_setup_error {e : Fault} (h : s.analyzer.parser = .error e) :
    s.analyzer.backend = none ∧ (Backend.setup s.analyzer.package).1 = .error e ∧
      ∃ log, exec setup s = (.error e, { s with log }) := by
  unfold Analyzer.parser at h
  unfold setup
  rw [exec_bind_ok (exec_get s)]
  cases hb : s.analyzer.backend with
  | some b => simp [hb] at h
  | none =>
    simp only [hb] at h ⊢
    rw [exec_bind_ok (exec_report _ s)]
    cases hsetup : (Backend.setup s.analyzer.package).1 with
    | ok b => simp [hsetup, Except.map] at h
    | error e' =>
      simp only [hsetup, Except.map, Except.error.injEq] at h
      subst h
      exact ⟨trivial, rfl, _, rfl⟩

/-- Setting up gives the parser, and the analyzer has it from then on. -/
theorem setup_ok {b₀ : Backend} (h : s.analyzer.parser = .ok b₀) :
    ∃ b s', exec setup s = (.ok b, s') ∧ b.unloaded = b₀ ∧ s'.analyzer.backend = some b ∧
      Frame s s' ∧ s'.analyzer.store = s.analyzer.store ∧ s'.disk = s.disk := by
  obtain ⟨b, log, rfl, hexec⟩ := exec_setup_ok h
  exact ⟨b, _, hexec, rfl, rfl, ⟨⟨rfl, rfl, h.symm⟩, rfl, rfl, id⟩, rfl, rfl⟩

theorem setup_error {e : Fault} (h : s.analyzer.parser = .error e) :
    Does setup s (.error e, s.analyzer.store, s.disk) := by
  obtain ⟨-, -, log, hexec⟩ := exec_setup_error h
  exact .of_exec hexec (.of_analyzer rfl) rfl rfl

/-- Whether or not it succeeds, setting up leaves the store and the disk alone. -/
theorem does_setup (s : Session) : ∃ r, Does setup s (r, s.analyzer.store, s.disk) := by
  cases hparser : s.analyzer.parser with
  | error e => exact ⟨_, setup_error hparser⟩
  | ok b₀ =>
    obtain ⟨b, s₁, hexec, -, -, hframe, hstore, hdisk⟩ := setup_ok hparser
    exact ⟨_, .of_exec hexec hframe hstore hdisk⟩

/-- The parser gives the records of a source, if it can be set up. -/
theorem does_parse [Parsers] (path source : Text) (s : Session) :
    Does (parse path source) s
      (s.analyzer.records path source, s.analyzer.store, s.disk) := by
  unfold Analyzer.records
  cases hparser : s.analyzer.parser with
  | error e => exact (setup_error hparser).bind_error _
  | ok b₀ =>
    obtain ⟨b, s₁, hsetup, rfl, hb, hframe, hstore, hdisk⟩ := setup_ok hparser
    rw [← hstore, ← hdisk, ← hframe.package]
    simp only [Backend.records_unloaded]
    -- what follows goes on from the session in which the parser is set up
    suffices h : ∃ s', exec (parse path source) s =
        (b.records ⟨path, s₁.analyzer.package⟩ source, s') ∧ Frame s₁ s' ∧
          s'.analyzer.store = s₁.analyzer.store ∧ s'.disk = s₁.disk by
      obtain ⟨s', hexec, hframe', hstore', hdisk'⟩ := h
      exact .of_exec hexec (hframe.trans hframe') hstore' hdisk'
    have hparser' : s₁.analyzer.parser = .ok b.unloaded := by simp only [Analyzer.parser, hb]
    -- reading may load a grammar, which the parser of the analyzer does not count
    have hkept : Except.ok (b.read ⟨path, s₁.analyzer.package⟩ source).2.1.unloaded =
        s₁.analyzer.parser := by
      rw [hparser', Backend.unloaded_read]
    unfold parse
    rw [exec_bind_ok hsetup, exec_bind_ok (exec_update _ _), exec_bind_ok (exec_get _),
      exec_bind_ok (exec_report _ _), exec_bind_ok (exec_update _ _)]
    unfold Backend.records
    cases hread : (b.read ⟨path, s₁.analyzer.package⟩ source).1 with
    | ok imports => exact ⟨_, rfl, ⟨⟨rfl, rfl, hkept⟩, rfl, rfl, id⟩, rfl, rfl⟩
    | error e =>
      cases e with
      | source cause =>
        simp only [exec_bind_ok (exec_report _ _), exec_bind_ok (exec_update _ _)]
        exact ⟨_, rfl, ⟨⟨rfl, rfl, hkept⟩, rfl, rfl, id⟩, rfl, rfl⟩
      | _ => exact ⟨_, rfl, ⟨⟨rfl, rfl, hkept⟩, rfl, rfl, id⟩, rfl, rfl⟩

/-! ## The three phases of an operation -/

/-- The first phase: the old link of a changed file goes away. -/
def before (tree : Option OutputTree) (op : Operation) (path : Text) (d : Disk) :
    Except Fault Disk :=
  match tree, op with
  | some t, .change => t.remove path d
  | _, _ => .ok d

/-- The store with the records of a file, if the file is tracked and could be read. -/
def learn (tracked : Bool) (records : Except Fault (List Import)) (path : Text)
    (store : Store) : Except Fault Store :=
  match tracked, records with
  | false, _ => .ok store
  | true, .ok rs => .ok (store.upsert path rs).2
  | true, .error e => .error e

/-- The second phase: a tracked file that is gone is forgotten, and the records of one that is
    new or changed are stored. -/
def absorb (tracked : Bool) (records : Except Fault (List Import)) (op : Operation)
    (path : Text) (store : Store) : Except Fault Store :=
  match op with
  | .unlink => .ok (if tracked then (store.evict path).2 else store)
  | .rmdir => .ok store
  | .mkdir => .ok store
  | .change => learn tracked records path store
  | .create => learn tracked records path store

/-- The third phase: the output tree follows. -/
def after (tree : Option OutputTree) (op : Operation) (path : Text) (d : Disk) :
    Except Fault Disk :=
  match tree, op with
  | none, _ => .ok d
  | some t, .unlink => t.unlink path d
  | some t, .rmdir => t.rmdir path d
  | some t, .mkdir => t.mkdir path d
  | some t, .change => (t.link path d).1
  | some t, .create => (t.link path d).1

/-- What is left of an operation once the first phase is over. -/
def settle (tracked : Bool) (records : Except Fault (List Import)) (tree : Option OutputTree)
    (op : Operation) (path : Text) (store : Store) (d : Disk) :
    Except Fault Unit × Store × Disk :=
  match absorb tracked records op path store with
  | .error e => (.error e, store, d)
  | .ok store => called store d (after tree op path d)

/-- The result of an operation with the store and the disk that it leaves. -/
def outcome [Parsers] (a : Analyzer) (sources : Sources) (tree : Option OutputTree)
    (op : Operation) (path : Text) (store : Store) (d : Disk) :
    Except Fault Unit × Store × Disk :=
  match before tree op path d with
  | .error e => (.error e, store, d)
  | .ok d => settle (a.package.tracks path) (recordsAt a sources d path) tree op path store d

/-- The result of a patch with the store and the disk that it leaves. -/
def outcomes [Parsers] (a : Analyzer) (sources : Sources) (tree : Option OutputTree) :
    Patch → Store → Disk → Except Fault Unit × Store × Disk
  | [], store, d => (.ok (), store, d)
  | (op, path) :: rest, store, d =>
    match outcome a sources tree op path store d with
    | (.ok (), store, d) => outcomes a sources tree rest store d
    | (.error e, store, d) => (.error e, store, d)

theorem outcome_congr [Parsers] {a a' : Analyzer} (h : a.Alike a') (sources : Sources)
    (tree : Option OutputTree) (op : Operation) (path : Text) (store : Store) (d : Disk) :
    outcome a' sources tree op path store d = outcome a sources tree op path store d := by
  simp only [outcome, h.package, recordsAt_congr h]

theorem outcomes_congr [Parsers] {a a' : Analyzer} (h : a.Alike a') (sources : Sources)
    (tree : Option OutputTree) (patch : Patch) (store : Store) (d : Disk) :
    outcomes a' sources tree patch store d = outcomes a sources tree patch store d := by
  induction patch generalizing store d with
  | nil => rfl
  | cons o rest ih => simp only [outcomes, outcome_congr h, ih]

/-- Without an output tree an operation comes to its second phase. -/
theorem outcome_none [Parsers] (a : Analyzer) (sources : Sources) (op : Operation) (p : Text)
    (store : Store) (d : Disk) :
    outcome a sources none op p store d =
      match absorb (a.package.tracks p) (recordsAt a sources d p) op p store with
      | .error e => (.error e, store, d)
      | .ok store' => (.ok (), store', d) := by
  cases op <;> rfl

/-- Without an output tree a patch leaves the disk alone. -/
theorem outcomes_none [Parsers] (a : Analyzer) (sources : Sources) (patch : Patch) (store : Store)
    (d : Disk) : (outcomes a sources none patch store d).2.2 = d := by
  induction patch generalizing store with
  | nil => rfl
  | cons o rest ih =>
    obtain ⟨op, p⟩ := o
    unfold outcomes
    rw [outcome_none]
    cases absorb (a.package.tracks p) (recordsAt a sources d p) op p store with
    | error e => rfl
    | ok store' => exact ih store'

/-! ## Execution of the phases -/

theorem does_removeImports (path : Text) (s : Session) :
    Does (removeImports path) s
      (.ok (s.analyzer.store.evict path).1, (s.analyzer.store.evict path).2, s.disk) := by
  refine .bind (does_report _ s) fun s₁ _ hstore hdisk => .get_bind ?_
  rw [← hstore, ← hdisk]
  exact does_setStore (Store.evict_moves _ path)

theorem does_untrack (path : Text) (s : Session) :
    Does (untrack path) s
      (.ok (), if s.analyzer.package.tracks path then (s.analyzer.store.evict path).2
        else s.analyzer.store, s.disk) := by
  refine .get_bind ?_
  split
  · exact (does_removeImports path s).discard
  · exact does_pure () s

/-- Parsing a source and storing its records, unless a fault stops it. -/
theorem does_updateImports [Parsers] (path source : Text) (s : Session) :
    Does (discard (updateImports path source)) s
      (match s.analyzer.records path source with
      | .ok rs => (.ok (), (s.analyzer.store.upsert path rs).2, s.disk)
      | .error e => (.error e, s.analyzer.store, s.disk)) := by
  have hparse : ∀ s', Frame s s' → s'.analyzer.store = s.analyzer.store → s'.disk = s.disk →
      Does (parse path source) s'
        (s.analyzer.records path source, s.analyzer.store, s.disk) := by
    intro s' hframe hstore hdisk
    -- reporting a line changes nothing that the records depend on
    rw [← hstore, ← hdisk, ← hframe.records]
    exact does_parse path source s'
  cases hrecords : s.analyzer.records path source with
  | ok rs =>
    rw [hrecords] at hparse
    refine Does.discard (r := .ok (s.analyzer.store.upsert path rs).1) ?_
    refine .bind (does_report _ s) fun s₁ hframe hstore hdisk => ?_
    refine (hparse s₁ hframe hstore hdisk).bind fun s₂ _ hstore₂ hdisk₂ => .get_bind ?_
    rw [← hstore₂, ← hdisk₂]
    exact does_setStore (Store.upsert_moves _ path rs)
  | error e =>
    rw [hrecords] at hparse
    refine Does.discard (r := .error e) ?_
    refine .bind (does_report _ s) fun s₁ hframe hstore hdisk => ?_
    exact (hparse s₁ hframe hstore hdisk).bind_error _

/-- Reading a file and storing its records, if it is tracked. -/
theorem does_track [Parsers] (sources : Sources) (path : Text) (s : Session) :
    Does (track sources path) s
      (match learn (s.analyzer.package.tracks path)
        (recordsAt s.analyzer (sources.after s.reads) s.disk path) path s.analyzer.store with
      | .ok store => (.ok (), store, s.disk)
      | .error e => (.error e, s.analyzer.store, s.disk)) := by
  refine .get_bind ?_
  cases s.analyzer.package.tracks path with
  | false => exact does_pure () s
  | true =>
    have hread := does_readSource sources path s
    rw [if_pos rfl]
    unfold recordsAt
    cases hsource : sourceAt s.analyzer.input (sources.after s.reads) s.disk path with
    | error e =>
      rw [hsource] at hread
      exact hread.bind_error _
    | ok source =>
      rw [hsource] at hread
      refine hread.bind fun s₁ hframe hstore hdisk => ?_
      have hupdate := does_updateImports path source s₁
      rw [hframe.records, hstore, hdisk] at hupdate
      cases hrecords : s.analyzer.records path source with
      | ok rs => simpa only [learn, hrecords] using hupdate
      | error e => simpa only [learn, hrecords] using hupdate

theorem does_onTree (tree : Option OutputTree) (call : OutputTree → Disk → Except Fault Disk)
    (s : Session) :
    Does (onTree tree call) s
      (called s.analyzer.store s.disk (tree.elim (.ok s.disk) (call · s.disk))) := by
  cases tree with
  | none => exact does_pure () s
  | some t => exact does_onDisk (call t) s

/-- Removing what is at a path of the output tree is the first phase of a change. -/
theorem exec_remove (tree : Option OutputTree) (path : Text) (s : Session) :
    exec (onTree tree fun t => t.remove path) s =
      match before tree .change path s.disk with
      | .ok d => (.ok (), { s with disk := d })
      | .error e => (.error e, s) := by
  cases tree with
  | none => rfl
  | some t => exact exec_onDisk _ s

theorem does_linkInto (tree : Option OutputTree) (path : Text) (s : Session) :
    Does (linkInto tree path) s
      (called s.analyzer.store s.disk (after tree .create path s.disk)) := by
  cases tree with
  | none => exact does_pure () s
  | some t =>
    refine .get_bind (.bind (does_report _ s) fun s₁ _ hstore hdisk => ?_)
    rw [← hstore, ← hdisk]
    exact does_onDisk _ s₁

/-- Storing the records of a new or changed file and linking it are what is left of the
    operation after its first phase. -/
theorem does_track_link [Parsers] (sources : Sources) (tree : Option OutputTree) (path : Text)
    (s : Session) :
    Does (do track sources path; linkInto tree path) s
      (settle (s.analyzer.package.tracks path)
        (recordsAt s.analyzer (sources.after s.reads) s.disk path) tree .create path
        s.analyzer.store s.disk) := by
  have htrack := does_track sources path s
  unfold settle absorb
  cases hlearn : learn (s.analyzer.package.tracks path)
      (recordsAt s.analyzer (sources.after s.reads) s.disk path) path s.analyzer.store with
  | error e =>
    rw [hlearn] at htrack
    exact htrack.bind_error _
  | ok store =>
    rw [hlearn] at htrack
    refine htrack.bind fun s₁ _ hstore hdisk => ?_
    have hlink := does_linkInto tree path s₁
    rwa [hstore, hdisk] at hlink

/-- An operation does what its phases do. -/
theorem does_apply [Parsers] (sources : Sources) (tree : Option OutputTree) (op : Operation)
    (path : Text) (s : Session) :
    Does (apply sources tree op path) s
      (outcome s.analyzer (sources.after s.reads) tree op path s.analyzer.store s.disk) := by
  cases op with
  | unlink =>
    refine (does_untrack path s).bind fun s₁ _ hstore hdisk => ?_
    have htree := does_onTree tree (fun t => t.unlink path) s₁
    rw [hstore, hdisk] at htree
    cases tree with
    | none => exact htree
    | some t => exact htree
  | rmdir =>
    have htree := does_onTree tree (fun t => t.rmdir path) s
    cases tree with
    | none => exact htree
    | some t => exact htree
  | mkdir =>
    have htree := does_onTree tree (fun t => t.mkdir path) s
    cases tree with
    | none => exact htree
    | some t => exact htree
  | change =>
    -- the first phase is the call that removes; the others go on from the disk it leaves
    have hremove := exec_remove tree path s
    unfold outcome
    cases hbefore : before tree .change path s.disk with
    | error e =>
      rw [hbefore] at hremove
      exact .of_exec (exec_bind_error hremove _) (.refl s) rfl rfl
    | ok d =>
      rw [hbefore] at hremove
      have hlink := does_track_link sources tree path { s with disk := d }
      refine Does.bind_exec hremove (.of_analyzer rfl) ?_
      cases tree with
      | none => exact hlink
      | some t => exact hlink
  | create =>
    have hlink := does_track_link sources tree path s
    cases tree with
    | none => exact hlink
    | some t => exact hlink

/-- A patch does what its operations do, one after the other. -/
theorem does_applyAll [Parsers] {sources : Sources} (hfixed : sources.Fixed)
    (tree : Option OutputTree) (patch : Patch) (s : Session) :
    Does (applyAll sources tree patch) s
      (outcomes s.analyzer sources tree patch s.analyzer.store s.disk) := by
  -- one operation stays within the frame, so the next is applied by an analyzer alike
  induction patch generalizing s with
  | nil => exact does_pure () s
  | cons o rest ih =>
    obtain ⟨op, path⟩ := o
    have hop := does_apply sources tree op path s
    rw [hfixed] at hop
    unfold outcomes
    rcases h : outcome s.analyzer sources tree op path s.analyzer.store s.disk with ⟨e | ⟨⟩, store, d⟩
    · rw [h] at hop
      exact hop.bind_error _
    · rw [h] at hop
      refine hop.bind fun s₁ hframe hstore hdisk => ?_
      have hrest := ih s₁
      rw [outcomes_congr hframe.toAlike, hstore, hdisk] at hrest
      exact hrest

end ImportScan.Act
