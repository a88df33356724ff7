import ImportScan.Proofs.Analyzer.Recovery

/-! # What holds of every stored record

    Whatever is asked of an analyzer, it stores and forgets the records of whole sources.  So a
    property of all records that its parser finds is one of all records that it stores, also
    after requests that were stopped by a fault half way.

    * `Store.Holds`     : every record that is stored for a file has a property.
    * `Analyzer.Finds`  : every record that is found in a source has it.
    * `outcome_holds`   : an operation keeps what holds of the store.
    * `holds_request`   : so does every request; `Reached.holds` for all that came before.
-/

namespace ImportScan

/-- Every record that is stored for a file has a property, which may depend on the file. -/
def Store.Holds (P : Text → Import → Prop) (store : Store) : Prop :=
  ∀ p records, store.get? p = some records → ∀ i ∈ records, P p i

/-- Every record that an analyzer finds in a source has a property. -/
def Analyzer.Finds [Parsers] (a : Analyzer) (P : Text → Import → Prop) : Prop :=
  ∀ path source records, a.records path source = .ok records → ∀ i ∈ records, P path i

variable {P : Text → Import → Prop}

theorem Analyzer.Finds.congr [Parsers] {a a' : Analyzer} (h : a.Finds P) (halike : a.Alike a') :
    a'.Finds P := by
  intro path source records hrecords
  rw [halike.records] at hrecords
  exact h path source records hrecords

/-! ## Calls on the store -/

namespace Store

variable {store : Store}

theorem holds_empty : Holds P {} := by
  intro p records h
  cases h

/-- Either the given records are stored, or equal ones that were there stay. -/
theorem Holds.upsert {path : Text} {records : List Import} (h : store.Holds P)
    (hrecords : ∀ i ∈ records, P path i) : (store.upsert path records).2.Holds P := by
  obtain ⟨_, _, _, heq⟩ | heq := upsert_cases store path records
  · rw [heq]
    exact h
  · rw [heq]
    intro q found hq
    have hput : (store.table.put path records).get? q = some found := hq
    rw [Table.get?_put] at hput
    split at hput
    · next hpath =>
      cases hput
      rw [hpath]
      exact hrecords
    · exact h q found hput

theorem Holds.evict (h : store.Holds P) (path : Text) : (store.evict path).2.Holds P := by
  intro q records hq
  rw [get?_evict] at hq
  split at hq
  · cases hq
  · exact h q records hq

end Store

namespace Act

open Session

/-! ## Patches -/

section Patches

variable {a : Analyzer} {store store' : Store}

theorem recordsAt_finds [Parsers] (hfinds : a.Finds P) {sources : Sources} {d : Disk} {p : Text}
    {records : List Import} (h : recordsAt a sources d p = .ok records) :
    ∀ i ∈ records, P p i := by
  unfold recordsAt at h
  split at h
  · cases h
  · exact hfinds p _ records h

theorem absorb_holds [Parsers] (hfinds : a.Finds P) (h : store.Holds P) {tracked : Bool}
    {sources : Sources} {d : Disk} {op : Operation} {p : Text}
    (habsorb : absorb tracked (recordsAt a sources d p) op p store = .ok store') :
    store'.Holds P := by
  have hlearn : learn tracked (recordsAt a sources d p) p store = .ok store' →
      store'.Holds P := by
    intro hlearn
    unfold learn at hlearn
    split at hlearn
    · cases hlearn
      exact h
    · next records hrecords =>
      cases hlearn
      exact h.upsert (recordsAt_finds hfinds hrecords)
    · cases hlearn
  cases op with
  | unlink =>
    cases habsorb
    split
    · exact h.evict p
    · exact h
  | rmdir =>
    cases habsorb
    exact h
  | mkdir =>
    cases habsorb
    exact h
  | change => exact hlearn habsorb
  | create => exact hlearn habsorb

/-- An operation stores and forgets whole files, whether it succeeds or not. -/
theorem outcome_holds [Parsers] (hfinds : a.Finds P) (sources : Sources) (tree : Option OutputTree)
    (op : Operation) (p : Text) (store : Store) (d : Disk) (h : store.Holds P) :
    (outcome a sources tree op p store d).2.1.Holds P := by
  unfold outcome
  cases before tree op p d with
  | error e => exact h
  | ok d₁ =>
    simp only [settle]
    cases habsorb : absorb (a.package.tracks p) (recordsAt a sources d₁ p) op p store with
    | error e => exact h
    | ok store' =>
      -- the last phase is a call on the disk
      have hleft := absorb_holds hfinds h habsorb
      simp only
      cases after tree op p d₁ with
      | error e => exact hleft
      | ok d₂ => exact hleft

/-- Also a patch that is stopped has stored whole files only. -/
theorem outcomes_holds [Parsers] (hfinds : a.Finds P) (sources : Sources) (tree : Option OutputTree)
    (patch : Patch) (store : Store) (d : Disk) (h : store.Holds P) :
    (outcomes a sources tree patch store d).2.1.Holds P := by
  induction patch generalizing store d with
  | nil => exact h
  | cons o rest ih =>
    obtain ⟨op, p⟩ := o
    have hfirst := outcome_holds hfinds sources tree op p store d h
    unfold outcomes
    rcases houtcome : outcome a sources tree op p store d with ⟨e | ⟨⟩, store₁, d₁⟩
    · rw [houtcome] at hfirst
      exact hfirst
    · rw [houtcome] at hfirst
      exact ih store₁ d₁ hfirst

theorem attempt_holds [Parsers] (hfinds : a.Finds P) (sources : Sources) (tree : Option OutputTree)
    (patch : Patch) (store : Store) (d : Disk) (h : store.Holds P) :
    (attempt a sources tree patch store d).2.1.Holds P := by
  unfold attempt
  cases a.parser with
  | error e => exact h
  | ok b => exact outcomes_holds hfinds sources tree patch store d h

end Patches

/-! ## Requests -/

section Requests

variable {a : Analyzer} {s : Session}

/-- The store that a step leaves. -/
theorem Does.store {α : Type} {x : Act α} {o : Except Fault α × Store × Disk} (h : Does x s o) :
    (exec x s).2.analyzer.store = o.2.1 := by
  rw [← h.outcome]

/-- A build stores what its patch finds, or forgets everything, or has not begun. -/
theorem holds_build [Parsers] (hfinds : s.analyzer.Finds P) (h : s.analyzer.store.Holds P) :
    (exec Act.build s).2.analyzer.store.Holds P := by
  rcases hexec : exec Act.build s with ⟨e | stats, s'⟩
  · show s'.analyzer.store.Holds P
    cases of_build_error hexec with
    | unlisted _ hkept =>
      rw [hkept]
      exact h
    | unopened _ _ _ hkept _ =>
      rw [hkept]
      exact h
    | undone _ _ hstore =>
      rw [hstore]
      exact Store.holds_empty
  · obtain ⟨-, tree, d, d', -, hattempt⟩ := of_build_ok hexec
    have hleft := attempt_holds hfinds .input tree
      (s.analyzer.previous.patch (seen s.analyzer s.disk)) s.analyzer.store d h
    rwa [show attempt s.analyzer .input tree _ s.analyzer.store d = _ from hattempt] at hleft

theorem holds_reset (s : Session) : (exec Act.reset s).2.analyzer.store.Holds P := by
  rw [exec_reset]
  cases cleared s.analyzer.output s.disk with
  | ok d => exact Store.holds_empty
  | error e => exact Store.holds_empty

/-- What holds of all records that are found holds of the stored ones after every request, if
    it did before. -/
theorem holds_request [Parsers] (hfinds : s.analyzer.Finds P) (h : s.analyzer.store.Holds P)
    (q : Request) : (exec q.act s).2.analyzer.store.Holds P := by
  cases q with
  | build =>
    show (exec (discard Act.build) s).2.analyzer.store.Holds P
    rw [exec_discard]
    exact holds_build hfinds h
  | reset => exact holds_reset s
  | apply sources tree ops =>
    show (exec (discard (runNamed sources tree ops)) s).2.analyzer.store.Holds P
    rw [exec_discard]
    unfold runNamed
    cases readPatch ops with
    | error e => exact h
    | ok patch =>
      exact (runBuild_preserves
        (fun sources op p store d => outcome_holds hfinds sources tree op p store d)
        sources patch ⟨rfl, rfl, rfl⟩ h).2
  | update path source =>
    show (exec (discard (updateImports path source)) s).2.analyzer.store.Holds P
    rw [(does_updateImports path source s).store]
    cases hrecords : s.analyzer.records path source with
    | error e => exact h
    | ok records => exact h.upsert (hfinds path source records hrecords)
  | remove path =>
    show (exec (discard (removeImports path)) s).2.analyzer.store.Holds P
    rw [(does_removeImports path s).discard.store]
    exact h.evict path
  | parse path source =>
    show (exec (discard (Act.parse path source)) s).2.analyzer.store.Holds P
    rw [(does_parse path source s).discard.store]
    exact h
  | imports =>
    show (exec (discard Act.imports) s).2.analyzer.store.Holds P
    rw [(does_imports s).discard.store]
    exact h
  | setup =>
    show (exec (discard Act.setup) s).2.analyzer.store.Holds P
    obtain ⟨r, hdoes⟩ := does_setup s
    rw [hdoes.discard.store]
    exact h

/-- In every session that comes about, what holds of all records that the analyzer finds holds
    of all that it stores. -/
theorem Reached.holds [Parsers] (hfinds : a.Finds P) (hnew : a.forget = a) (h : Reached a s) :
    s.analyzer.store.Holds P := by
  induction h with
  | start d =>
    show a.store.Holds P
    rw [← hnew]
    exact Store.holds_empty
  | change d _ ih => exact ih
  | request q hs ih => exact holds_request (hfinds.congr hs.same.toAlike) ih q

end Requests

end Act

end ImportScan
