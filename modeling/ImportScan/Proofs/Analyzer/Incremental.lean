import Mathlib
import ImportScan.Proofs.Analyzer.Build
import ImportScan.Proofs.Import.Plain
import ImportScan.Proofs.Tree.Patch
import ImportScan.Script.Parsers

/-! # Incremental builds

    A build applies a patch to what earlier builds have left.  Whatever happened before, the
    outcome is that of a first build of the tree as it is, as long as an edit of a file shows
    in its size or date.

    * `wanted`        : the records that a path of a tree should have.
    * `UpToDate`      : the store has them, for the tree of the last build.
    * `Run`           : builds with changes to the disk in between.
    * `build_eq_first_build` : after every run, a build does what a first build would do.
-/

namespace ImportScan

/-! ## The operations of a patch on one path -/

namespace Snapshot

/-- The operations of a patch on a path: it may be removed, and then made or changed. -/
def patchAt (previous current : Snapshot) (p : Text) : Patch :=
  ((previous.get? p).bind fun old => removal? current p old).toList ++
    ((current.get? p).bind fun new => addition? previous p new).toList

/-- Of operations on distinct paths, at most one is on a given path. -/
theorem filter_filterMap {f : Text → Option (Operation × Text)}
    (hf : ∀ q o, f q = some o → o.2 = q) {ps : List Text} (hps : ps.Nodup) (p : Text) :
    (ps.filterMap f).filter (·.2 = p) = if p ∈ ps then (f p).toList else [] := by
  induction ps with
  | nil => rfl
  | cons q rest ih =>
    obtain ⟨hnot, hrest⟩ := List.nodup_cons.mp hps
    rw [List.filterMap_cons]
    by_cases hq : q = p
    · subst hq
      have ih' := ih hrest
      rw [if_neg hnot] at ih'
      cases hfq : f q with
      | none => simp [ih']
      | some o => simp [ih', hf q o hfq]
    · have hpq : p ≠ q := fun h => hq h.symm
      have hmem : p ∈ q :: rest ↔ p ∈ rest := by simp [hpq]
      simp only [hmem, ← ih hrest]
      cases hfq : f q with
      | none => rfl
      | some o => simp [hf q o hfq, hq]

theorem filter_removals (previous current : Snapshot) (p : Text) :
    (removals previous current).filter (·.2 = p) =
      ((previous.get? p).bind fun old => removal? current p old).toList := by
  unfold removals
  rw [filter_filterMap]
  · split
    · rfl
    · next hp =>
      cases hget : previous.get? p with
      | none => rfl
      | some old => exact absurd (List.mem_reverse.mpr (mem_sortedPaths.mpr ⟨old, hget⟩)) hp
  · intro q o hq
    obtain ⟨old, -, ho⟩ := Option.bind_eq_some_iff.mp hq
    rw [removal?_eq] at ho
    split at ho <;> cases ho
    rfl
  · exact List.nodup_reverse.mpr (nodup_sortedPaths previous)

theorem filter_additions (previous current : Snapshot) (p : Text) :
    (additions previous current).filter (·.2 = p) =
      ((current.get? p).bind fun new => addition? previous p new).toList := by
  unfold additions
  rw [filter_filterMap]
  · split
    · rfl
    · next hp =>
      cases hget : current.get? p with
      | none => rfl
      | some new => exact absurd (mem_sortedPaths.mpr ⟨new, hget⟩) hp
  · intro q o hq
    obtain ⟨new, -, ho⟩ := Option.bind_eq_some_iff.mp hq
    rw [addition?_eq] at ho
    split at ho
    · split at ho <;> cases ho
      rfl
    · cases ho
      rfl
  · exact nodup_sortedPaths current

theorem filter_patch (previous current : Snapshot) (p : Text) :
    (previous.patch current).filter (·.2 = p) = patchAt previous current p := by
  rw [patch, List.filter_append, filter_removals, filter_additions, patchAt]

end Snapshot

namespace Act

open Session

/-! ## One path

    The operations of a patch act on one path each, so what becomes of the records of a path
    depends on the operations on that path alone. -/

/-- What an operation makes of the records of its path. -/
def entryAfter (tracked : Bool) (records : Except Fault (List Import)) (op : Operation)
    (entry : Option (List Import)) : Except Fault (Option (List Import)) :=
  match op with
  | .unlink => .ok (if tracked then none else entry)
  | .rmdir => .ok entry
  | .mkdir => .ok entry
  | .change => if tracked then records.map some else .ok entry
  | .create => if tracked then records.map some else .ok entry

/-- What a patch makes of the records of a path. -/
def entryAfterAll [Parsers] (a : Analyzer) (d : Disk) (p : Text) :
    Patch → Option (List Import) → Except Fault (Option (List Import))
  | [], entry => .ok entry
  | (op, q) :: rest, entry =>
    if q = p then
      match entryAfter (a.package.tracks p) (recordsAt a .input d p) op entry with
      | .ok entry => entryAfterAll a d p rest entry
      | .error e => .error e
    else entryAfterAll a d p rest entry

/-- The records of every file of the store are plain. -/
def PlainStore (package : Package) (store : Store) : Prop :=
  ∀ p records, store.get? p = some records → ∀ i ∈ records, i.PlainAt ⟨p, package⟩

theorem plainStore_empty (package : Package) : PlainStore package {} := by
  intro p records h
  cases h

theorem records_plain [Parsers] {a : Analyzer} {p source : Text} {records : List Import}
    (h : a.records p source = .ok records) : ∀ i ∈ records, i.PlainAt ⟨p, a.package⟩ := by
  unfold Analyzer.records at h
  split at h
  · cases h
  · unfold Backend.records at h
    split at h
    · next imports hread =>
      cases h
      exact Backend.read_plain hread
    · cases h
      exact fun i hi => absurd hi (by simp)
    · cases h

theorem recordsAt_plain [Parsers] {a : Analyzer} {sources : Sources} {d : Disk} {p : Text}
    {records : List Import} (h : recordsAt a sources d p = .ok records) :
    ∀ i ∈ records, i.PlainAt ⟨p, a.package⟩ := by
  unfold recordsAt at h
  split at h
  · cases h
  · exact records_plain h

/-- Storing plain records among plain records. -/
theorem PlainStore.upsert {package : Package} {store : Store} {p : Text} {records : List Import}
    (h : PlainStore package store) (hr : ∀ i ∈ records, i.PlainAt ⟨p, package⟩) :
    PlainStore package (store.upsert p records).2 ∧
      (store.upsert p records).2.get? p = some records := by
  have hself : (store.upsert p records).2.get? p = some records :=
    Store.get?_upsert_self fun old hold heq => Import.eq_of_beq (h p old hold) hr heq
  refine ⟨fun q rs hq => ?_, hself⟩
  by_cases hqp : q = p
  · subst hqp
    rw [hself] at hq
    cases hq
    exact hr
  · rw [Store.get?_upsert_of_ne records hqp] at hq
    exact h q rs hq

theorem PlainStore.evict {package : Package} {store : Store} (h : PlainStore package store)
    (p : Text) : PlainStore package (store.evict p).2 := by
  intro q rs hq
  rw [Store.get?_evict] at hq
  split at hq
  · cases hq
  · exact h q rs hq

/-- The store after an operation on a path: other paths are untouched. -/
structure Absorbed (package : Package) (p : Text) (store store' : Store) : Prop where
  plain : PlainStore package store'
  others : ∀ q, q ≠ p → store'.get? q = store.get? q

/-- An operation acts on the records of its own path, as `entryAfter` says. -/
theorem absorb_entry [Parsers] {a : Analyzer} {store : Store} (h : PlainStore a.package store)
    (d : Disk) (op : Operation) (p : Text) :
    let tracked := a.package.tracks p
    let records := recordsAt a .input d p
    match absorb tracked records op p store with
    | .error e => entryAfter tracked records op (store.get? p) = .error e
    | .ok store' => entryAfter tracked records op (store.get? p) = .ok (store'.get? p) ∧
        Absorbed a.package p store store' := by
  intro tracked records
  have hsame : Absorbed a.package p store store := ⟨h, fun _ _ => rfl⟩
  have hlearn :
      match learn tracked records p store with
      | .error e => entryAfter tracked records .create (store.get? p) = .error e
      | .ok store' => entryAfter tracked records .create (store.get? p) = .ok (store'.get? p) ∧
          Absorbed a.package p store store' := by
    cases tracked with
    | false => exact ⟨rfl, hsame⟩
    | true =>
      cases hr : records with
      | error e => rfl
      | ok rs =>
        obtain ⟨hplain, hself⟩ := h.upsert (recordsAt_plain hr)
        exact ⟨by rw [hself]; rfl, hplain, fun q hq => Store.get?_upsert_of_ne rs hq⟩
  cases op with
  | unlink =>
    cases tracked with
    | false => exact ⟨rfl, hsame⟩
    | true =>
      refine ⟨?_, h.evict p, fun q hq => ?_⟩
      · show Except.ok none = Except.ok ((store.evict p).2.get? p)
        rw [Store.get?_evict, if_pos rfl]
      · show (store.evict p).2.get? q = store.get? q
        rw [Store.get?_evict, if_neg hq]
  | rmdir => exact ⟨rfl, hsame⟩
  | mkdir => exact ⟨rfl, hsame⟩
  | change => exact hlearn
  | create => exact hlearn

/-- Without an output tree a patch leaves the disk alone, and acts on the records of each path
    as `entryAfterAll` says; it fails when it fails on a path. -/
theorem outcomes_entries [Parsers] {a : Analyzer} {store : Store} (h : PlainStore a.package store)
    (d : Disk) (patch : Patch) :
    ∃ r store', outcomes a .input none patch store d = (r, store', d) ∧
      match r with
      | .error e => ∃ p, entryAfterAll a d p patch (store.get? p) = .error e
      | .ok () => PlainStore a.package store' ∧
          ∀ p, entryAfterAll a d p patch (store.get? p) = .ok (store'.get? p) := by
  induction patch generalizing store with
  | nil => exact ⟨.ok (), store, rfl, h, fun p => rfl⟩
  | cons o rest ih =>
    obtain ⟨op, p⟩ := o
    have hentry := absorb_entry h d op p
    unfold outcomes
    rw [outcome_none]
    cases habsorb : absorb (a.package.tracks p) (recordsAt a .input d p) op p store with
    | error e =>
      simp only [habsorb] at hentry
      refine ⟨.error e, store, rfl, p, ?_⟩
      rw [entryAfterAll, if_pos rfl, hentry]
    | ok store₁ =>
      simp only [habsorb] at hentry
      obtain ⟨hown, hplain, hothers⟩ := hentry
      -- what the rest of the patch does to a path after the first operation
      have hstep : ∀ q, entryAfterAll a d q ((op, p) :: rest) (store.get? q) =
          entryAfterAll a d q rest (store₁.get? q) := by
        intro q
        by_cases hq : q = p
        · subst hq
          rw [entryAfterAll, if_pos rfl, hown]
        · rw [entryAfterAll, if_neg (fun h => hq h.symm), hothers q hq]
      obtain ⟨r, store', hrest, hspec⟩ := ih hplain
      refine ⟨r, store', hrest, ?_⟩
      cases r with
      | error e =>
        obtain ⟨q, hq⟩ := hspec
        exact ⟨q, (hstep q).trans hq⟩
      | ok _ => exact ⟨hspec.1, fun q => (hstep q).trans (hspec.2 q)⟩

theorem entryAfterAll_filter [Parsers] (a : Analyzer) (d : Disk) (p : Text) (patch : Patch)
    (entry : Option (List Import)) :
    entryAfterAll a d p (patch.filter (·.2 = p)) entry = entryAfterAll a d p patch entry := by
  induction patch generalizing entry with
  | nil => rfl
  | cons o rest ih =>
    obtain ⟨op, q⟩ := o
    by_cases hq : q = p
    · simp only [hq, decide_true, List.filter_cons_of_pos, entryAfterAll, if_true, ih]
    · rw [List.filter_cons_of_neg (by simpa using hq), entryAfterAll, if_neg hq, ih]

/-! ## What a store should hold -/

/-- The records that a path of a tree should have: those of its source, if it is a file that
    is tracked. -/
def wanted [Parsers] (a : Analyzer) (tree : Snapshot) (d : Disk) (p : Text) :
    Except Fault (Option (List Import)) :=
  match tree.get? p with
  | some (.file ..) => if a.package.tracks p then (recordsAt a .input d p).map some else .ok none
  | _ => .ok none

/-- An edit of a file shows in its size or date. -/
def Telltale (input : Text) (d d' : Disk) : Prop :=
  ∀ p size mtime size' mtime',
    (Snapshot.ofDirectory d input).get? p = some (.file size mtime) →
    (Snapshot.ofDirectory d' input).get? p = some (.file size' mtime') →
    d.read (Path.join input p) ≠ d'.read (Path.join input p) →
    size ≠ size' ∨ mtime.equal mtime' = false

/-- Files that look the same have the same records. -/
theorem recordsAt_of_telltale [Parsers] {a : Analyzer} {d d' : Disk} (h : Telltale a.input d d')
    {p : Text}
    {old new : Status} (hold : (seen a d).get? p = some old) (hnew : (seen a d').get? p = some new)
    (hfile : old.kind = .file ∧ new.kind = .file) (hsame : old.isEdited new = false) :
    recordsAt a .input d' p = recordsAt a .input d p := by
  have hread : d.read (Path.join a.input p) = d'.read (Path.join a.input p) := by
    by_contra hne
    cases old with
    | directory => cases hfile.1
    | file size mtime =>
      cases new with
      | directory => cases hfile.2
      | file size' mtime' =>
        have := h p size mtime size' mtime' hold hnew hne
        simp_all [Status.isEdited]
  simp only [recordsAt, sourceAt, hread]

/-- The records that a path of a kind should have. -/
def recordsFor [Parsers] (a : Analyzer) (d : Disk) (p : Text) :
    Option Kind → Except Fault (Option (List Import))
  | some .file => if a.package.tracks p then (recordsAt a .input d p).map some else .ok none
  | _ => .ok none

theorem wanted_eq [Parsers] (a : Analyzer) (tree : Snapshot) (d : Disk) (p : Text) :
    wanted a tree d p = recordsFor a d p (tree.tree p) := by
  unfold wanted Snapshot.tree
  match tree.get? p with
  | none => rfl
  | some .directory => rfl
  | some (.file _ _) => rfl

/-- A path that is not tracked should have no records. -/
theorem eq_none_of_untracked [Parsers] {a : Analyzer} {d : Disk} {p : Text} {k : Option Kind}
    {entry : Option (List Import)} (h : recordsFor a d p k = .ok entry)
    (htracks : a.package.tracks p = false) : entry = none := by
  unfold recordsFor at h
  split at h
  · rw [htracks] at h
    exact (Except.ok.inj h).symm
  · exact (Except.ok.inj h).symm

section Entries

variable {a : Analyzer} {d d' : Disk} {p : Text} {entry : Option (List Import)}

/-- A path that is removed loses its records. -/
theorem entryAfter_removal [Parsers] {k : Kind} (records : Except Fault (List Import))
    (h : recordsFor a d p (some k) = .ok entry) :
    entryAfter (a.package.tracks p) records k.removal entry = .ok none := by
  cases k with
  | directory => exact h.symm
  | file =>
    cases htracks : a.package.tracks p with
    | true => rfl
    | false => rw [eq_none_of_untracked h htracks]; rfl

/-- A path that is made has the records of its source. -/
theorem entryAfter_addition [Parsers] (k : Kind) :
    entryAfter (a.package.tracks p) (recordsAt a .input d p) k.addition none =
      recordsFor a d p (some k) := by
  cases k with
  | directory => rfl
  | file => rfl

theorem entryAfter_change [Parsers] (h : a.package.tracks p = false → entry = none) :
    entryAfter (a.package.tracks p) (recordsAt a .input d p) .change entry =
      recordsFor a d p (some .file) := by
  unfold entryAfter recordsFor
  cases htracks : a.package.tracks p with
  | true => rfl
  | false => rw [h htracks]

theorem entryAfterAll_single [Parsers] (op : Operation) :
    entryAfterAll a d p [(op, p)] entry =
      entryAfter (a.package.tracks p) (recordsAt a .input d p) op entry := by
  rw [entryAfterAll, if_pos rfl]
  cases entryAfter (a.package.tracks p) (recordsAt a .input d p) op entry with
  | ok entry' => rfl
  | error e => rfl

/-- A path that looks the same should have the records that it should have had. -/
theorem recordsFor_of_looks [Parsers] {previous : Snapshot} {old new : Status}
    (hprevious : previous = {} ∨ previous = seen a d ∧ Telltale a.input d d')
    (hold : previous.get? p = some old) (hnew : (seen a d').get? p = some new)
    (hkind : old.kind = new.kind) (hedit : old.isEdited new = false) :
    recordsFor a d' p (some new.kind) = recordsFor a d p (some new.kind) := by
  cases hfile : new.kind with
  | directory => rfl
  | file =>
    obtain rfl | ⟨rfl, htell⟩ := hprevious
    · cases hold
    · simp only [recordsFor,
        recordsAt_of_telltale htell hold hnew ⟨hkind.trans hfile, hfile⟩ hedit]

/-- The operations on a path turn the records it should have had into those it should have,
    also when its kind changes. -/
theorem entryAfterAll_wanted [Parsers] {previous : Snapshot}
    (hprevious : previous = {} ∨ previous = seen a d ∧ Telltale a.input d d')
    (hentry : wanted a previous d p = .ok entry) :
    entryAfterAll a d' p (Snapshot.patchAt previous (seen a d') p) entry =
      wanted a (seen a d') d' p := by
  rw [wanted_eq] at hentry ⊢
  have huntracked := eq_none_of_untracked hentry
  unfold Snapshot.patchAt
  simp only [Snapshot.removal?_eq, Snapshot.addition?_eq]
  unfold Snapshot.tree at hentry ⊢
  cases hold : previous.get? p with
  | none =>
    -- there were no records, and there are none unless the path is made
    rw [hold] at hentry
    cases hentry
    cases (seen a d').get? p with
    | none => rfl
    | some new => exact (entryAfterAll_single _).trans (entryAfter_addition _)
  | some old =>
    rw [hold] at hentry
    cases hnew : (seen a d').get? p with
    | none => exact (entryAfterAll_single _).trans (entryAfter_removal _ hentry)
    | some new =>
      by_cases hkind : old.kind = new.kind
      · cases hedit : old.isEdited new with
        | true =>
          have hany : (some old).any (·.isEdited new) = true := hedit
          have hfile := Snapshot.kind_of_isEdited hany
          simp only [Option.map_some, Option.bind_some, Option.any_some, hkind, hedit, if_true,
            Option.toList_none, Option.toList_some, List.nil_append, hfile]
          exact (entryAfterAll_single _).trans (entryAfter_change huntracked)
        | false =>
          -- nothing is done to a path that looks the same, whose records are the same
          simp only [Option.map_some, Option.bind_some, Option.any_some, hkind, hedit, if_true,
            Option.toList_none, List.nil_append, Bool.false_eq_true, if_false]
          rw [entryAfterAll, ← hentry, Option.map_some, hkind]
          exact (recordsFor_of_looks hprevious hold hnew hkind hedit).symm
      · -- the path is removed and made again
        have hkind' : new.kind ≠ old.kind := fun h => hkind h.symm
        simp only [Option.map_some, Option.bind_some, Option.some.injEq, hkind, hkind', if_false,
          Option.toList_some, List.cons_append, List.nil_append]
        rw [entryAfterAll, if_pos rfl, entryAfter_removal _ hentry]
        exact (entryAfterAll_single _).trans (entryAfter_addition _)

end Entries

/-! ## Builds -/

/-- The state of a session between builds: the store has the records of every tracked file of
    the tree that the last build saw, as they were on a disk. -/
structure UpToDate [Parsers] (a : Analyzer) (s : Session) (d : Disk) : Prop where
  alike : a.Alike s.analyzer
  output : s.analyzer.output = none
  view : s.analyzer.view.Coherent s.analyzer.store
  plain : PlainStore a.package s.analyzer.store
  tree : s.analyzer.previous = {} ∨ s.analyzer.previous = seen a d
  records : ∀ p, wanted a s.analyzer.previous d p = .ok (s.analyzer.store.get? p)

/-- An analyzer that knows nothing is up to date. -/
theorem upToDate_of_empty [Parsers] {a : Analyzer} {s : Session} (halike : a.Alike s.analyzer)
    (houtput : s.analyzer.output = none) (hview : s.analyzer.view.Coherent s.analyzer.store)
    (hstore : s.analyzer.store = {}) (hprevious : s.analyzer.previous = {}) (d : Disk) :
    UpToDate a s d where
  alike := halike
  output := houtput
  view := hview
  plain := hstore ▸ plainStore_empty _
  tree := .inl hprevious
  records := fun p => by rw [hprevious, hstore]; rfl

/-- After a failed build the analyzer knows nothing, and the disk is as the patch left it. -/
theorem UpToDate.build_failed [Parsers] {a : Analyzer} {s : Session} {d d' : Disk} {store : Store}
    {e : Fault} (h : UpToDate a s d) (hname : Disk.badName? s.analyzer.input = none) (hfail : attempted s.analyzer none s.disk s.disk =
      (.error e, store, d')) :
    ∃ s', exec build s = (.error e, s') ∧ UpToDate a s' s.disk ∧ s'.disk = d' := by
  have hopen : opened s.analyzer s.disk = .ok (none, s.disk) := by rw [opened, h.output]
  obtain ⟨e', s', hexec, hframe, hstore, hleft⟩ := Act.build_failed hname hopen hfail
  rw [h.output, cleared] at hleft
  cases hleft
  have halike : a.Alike s.analyzer.forget := h.alike.trans ⟨rfl, rfl, rfl⟩
  exact ⟨s', hexec, upToDate_of_empty (halike.trans hframe.toAlike)
    (hframe.output.trans h.output) (hframe.view (View.coherent_new _)) hstore hframe.previous _, rfl⟩

/-- Nothing is ever seen below a directory that has no name which the system takes, so a
    session is up to date with one disk as with any other. -/
theorem UpToDate.of_unlisted [Parsers] {a : Analyzer} {s : Session} {d : Disk} {e : Fault}
    (h : UpToDate a s d) (hunlisted : Unlisted a e) (d' : Disk) : UpToDate a s d' := by
  obtain ⟨cause, hname, -⟩ := hunlisted
  have hseen : seen a d = {} := by
    rw [seen, Snapshot.ofDirectory, Disk.resolve, hname]
  have hprevious : s.analyzer.previous = {} := h.tree.elim id fun heq => heq.trans hseen
  refine ⟨h.alike, h.output, h.view, h.plain, .inl hprevious, fun p => ?_⟩
  have hp := h.records p
  rw [hprevious] at hp ⊢
  exact hp

/-- Something keeps builds from finding the records of the tree on a disk: the input directory
    cannot be listed, the parser cannot be set up, or there is a path without records. -/
inductive Hindered [Parsers] (a : Analyzer) (d : Disk) : Fault → Prop where
  | unlisted {e : Fault} (hunlisted : Unlisted a e) : Hindered a d e
  | unready {e : Fault} (hparser : a.parser = .error e) : Hindered a d e
  | unread {e : Fault} {p : Text} (hwanted : wanted a (seen a d) d p = .error e) : Hindered a d e

/-- A session is up to date with the tree that a build has seen on a disk. -/
structure Complete [Parsers] (a : Analyzer) (s : Session)
    (d : Disk) : Prop extends UpToDate a s d where
  named : Disk.badName? a.input = none
  previous : s.analyzer.previous = seen a d
  ready : ∃ b, a.parser = .ok b

/-- Where a build has found the records of a tree, nothing keeps another one from it. -/
theorem Complete.not_hindered [Parsers] {a : Analyzer} {s : Session} {d : Disk} (h : Complete a s d)
    (e : Fault) : ¬ Hindered a d e := by
  intro hhindered
  cases hhindered with
  | unlisted hunlisted =>
    exact hunlisted.not_named h.named
  | unready hparser =>
    obtain ⟨b, hb⟩ := h.ready
    rw [hb] at hparser
    cases hparser
  | @unread p hwanted =>
    have hok := h.records p
    rw [h.previous, hwanted] at hok
    cases hok

/-- Two sessions that are up to date with the same tree have the same records. -/
theorem Complete.records_eq [Parsers] {a : Analyzer} {s s' : Session} {d : Disk}
    (h : Complete a s d)
    (h' : Complete a s' d) (p : Text) : s.analyzer.store.get? p = s'.analyzer.store.get? p := by
  have hp := h.records p
  have hp' := h'.records p
  rw [h.previous] at hp
  rw [h'.previous, hp] at hp'
  exact Except.ok.inj hp'

/-- Where the input directory can be listed, a build of an up-to-date session without an output
    tree either gives every path of the tree the records it should have, or fails where something
    keeps it from that. -/
theorem UpToDate.build_listed [Parsers] {a : Analyzer} {s : Session} {d : Disk} (h : UpToDate a s d)
    (hname : Disk.badName? a.input = none)
    (hpre : s.analyzer.previous = {} ∨ Telltale a.input d s.disk) :
    ∃ r s', exec build s = (r, s') ∧ UpToDate a s' s.disk ∧ s'.disk = s.disk ∧
      match r with
      | .ok _ => Complete a s' s.disk
      | .error e => Hindered a s.disk e := by
  have hname' : Disk.badName? s.analyzer.input = none := h.alike.input ▸ hname
  have hopen : opened s.analyzer s.disk = .ok (none, s.disk) := by rw [opened, h.output]
  have hattempt : attempted s.analyzer none s.disk s.disk =
      attempt a .input none (s.analyzer.previous.patch (seen a s.disk)) s.analyzer.store s.disk := by
    rw [attempted, attempt_congr h.alike, seen_congr h.alike]
  unfold attempt at hattempt
  cases hparser : a.parser with
  | error e =>
    rw [hparser] at hattempt
    obtain ⟨s', hexec, hup, hdisk⟩ := h.build_failed hname' hattempt
    exact ⟨.error e, s', hexec, hup, hdisk, .unready hparser⟩
  | ok b =>
    obtain ⟨r, store, houtcomes, hspec⟩ :=
      outcomes_entries h.plain s.disk (s.analyzer.previous.patch (seen a s.disk))
    -- what the patch makes of each path is what the path should have
    have hentries : ∀ p, entryAfterAll a s.disk p (s.analyzer.previous.patch (seen a s.disk))
        (s.analyzer.store.get? p) = wanted a (seen a s.disk) s.disk p := by
      intro p
      rw [← entryAfterAll_filter, Snapshot.filter_patch]
      refine entryAfterAll_wanted ?_ (h.records p)
      obtain hempty | hseen := h.tree
      · exact .inl hempty
      · exact hpre.imp id fun htell => ⟨hseen, htell⟩
    simp only [hparser, houtcomes] at hattempt
    cases r with
    | error e =>
      obtain ⟨s', hexec, hup, hdisk⟩ := h.build_failed hname' hattempt
      obtain ⟨p, hp⟩ := hspec
      exact ⟨.error e, s', hexec, hup, hdisk, .unread ((hentries p).symm.trans hp)⟩
    | ok _ =>
      obtain ⟨stats, s', hexec, hframe, hstore, hdisk⟩ := build_done hname' hopen hattempt
      have hprevious : s'.analyzer.previous = seen a s.disk :=
        hframe.previous.trans (seen_congr h.alike s.disk)
      have hup : UpToDate a s' s.disk := {
        alike := (h.alike.trans (noting_alike _ _)).trans hframe.toAlike
        output := hframe.output.trans h.output
        view := hframe.view h.view
        plain := hstore ▸ hspec.1
        tree := .inr hprevious
        records := fun p => by rw [hprevious, hstore, ← hentries p, hspec.2 p] }
      exact ⟨.ok stats, s', hexec, hup, hdisk, hup, hname, hprevious, b, hparser⟩

/-- The same holds where it cannot be listed, since that keeps all builds from finding
    anything. -/
theorem UpToDate.build [Parsers] {a : Analyzer} {s : Session} {d : Disk} (h : UpToDate a s d)
    (hpre : s.analyzer.previous = {} ∨ Telltale a.input d s.disk) :
    ∃ r s', exec build s = (r, s') ∧ UpToDate a s' s.disk ∧ s'.disk = s.disk ∧
      match r with
      | .ok _ => Complete a s' s.disk
      | .error e => Hindered a s.disk e := by
  obtain ⟨e, hunlisted⟩ | hname := unlisted_or_named a
  · have hrefused := build_refused ((unlisted_congr h.alike).mpr hunlisted)
    exact ⟨_, s, hrefused, h.of_unlisted hunlisted s.disk, rfl, .unlisted hunlisted⟩
  · exact h.build_listed hname hpre

/-! ## Runs -/

theorem upToDate_new [Parsers] {a : Analyzer} (hnew : a.forget = a) (houtput : a.output = none)
    (d : Disk) : UpToDate a ⟨a, d, [], []⟩ d := by
  have halike : a.Alike a.forget := ⟨rfl, rfl, rfl⟩
  have hempty : UpToDate a ⟨a.forget, d, [], []⟩ d :=
    upToDate_of_empty halike houtput (View.coherent_new _) rfl rfl d
  rwa [hnew] at hempty

/-- Along every run the session is up to date with the disk of the last build, or knows
    nothing. -/
theorem upToDate_run [Parsers] {a : Analyzer} {d₀ : Disk} {s : Session} {last : Option Disk}
    (hnew : a.forget = a) (houtput : a.output = none)
    (hrun : Run a d₀ (fun _ _ => True) (Telltale a.input) s last) :
    ∃ d, UpToDate a s d ∧ (s.analyzer.previous = {} ∨ last = some d) := by
  induction hrun with
  | start => exact ⟨d₀, upToDate_new hnew houtput d₀, .inl (hnew ▸ rfl)⟩
  | change d' _ _ ih =>
    obtain ⟨d, hup, hlast⟩ := ih
    exact ⟨d, ⟨hup.alike, hup.output, hup.view, hup.plain, hup.tree, hup.records⟩, hlast⟩
  | @build s last _ htell ih =>
    obtain ⟨d, hup, hlast⟩ := ih
    obtain ⟨r, s', hexec, hup', -⟩ := hup.build (hlast.imp id (htell d))
    rw [hexec]
    exact ⟨s.disk, hup', .inr rfl⟩

/-- The view of an up-to-date session gives the records of its store. -/
theorem UpToDate.imports [Parsers] {a : Analyzer} {s : Session} {d : Disk} (h : UpToDate a s d) :
    (exec imports s).1 = .ok s.analyzer.store.imports := by
  obtain ⟨s', hexec, -⟩ := (does_imports s).exists_exec
  rw [hexec, h.view.get_eq]

/-- After every run of builds and changes to the disk, failed builds among them, a build of an
    analyzer without an output tree succeeds exactly when a first build of the disk as it is
    does.  If so, both find the same records for every path, and the same records in all. -/
theorem build_eq_first_build [Parsers] {cwd : Text} {package : Package} {input output : Option Text}
    {a : Analyzer} (hmake : Analyzer.make cwd package input output = .ok a)
    (houtput : a.output = none) {d₀ : Disk} {s : Session} {last : Option Disk}
    (hrun : Run a d₀ (fun _ _ => True) (Telltale a.input) s last)
    (htell : ∀ d ∈ last, Telltale a.input d s.disk) :
    let r := exec build s
    let r₀ := exec build ⟨a, s.disk, [], []⟩
    r.1.isOk = r₀.1.isOk ∧
    (r.1.isOk = true →
      (∀ p, r.2.analyzer.store.get? p = r₀.2.analyzer.store.get? p) ∧
      ∃ found found₀, (exec imports r.2).1 = .ok found ∧ (exec imports r₀.2).1 = .ok found₀ ∧
        found.Perm found₀) := by
  have hnew := make_new hmake
  obtain ⟨d, hup, hlast⟩ := upToDate_run hnew houtput hrun
  obtain ⟨r, s', hexec, hup', -, hr⟩ := hup.build (hlast.imp id (htell d))
  obtain ⟨r₀, s₀, hexec₀, hup₀, -, hr₀⟩ :=
    (upToDate_new hnew houtput s.disk).build (.inl (hnew ▸ rfl))
  rw [hexec, hexec₀]
  cases r with
  | error e =>
    refine ⟨?_, fun h => absurd h (by simp [Except.isOk, Except.toBool])⟩
    cases r₀ with
    | error e₀ => rfl
    | ok stats₀ => exact absurd hr (hr₀.not_hindered e)
  | ok stats =>
    cases r₀ with
    | error e₀ => exact absurd hr₀ (hr.not_hindered e₀)
    | ok stats₀ =>
      have hsame := hr.records_eq hr₀
      exact ⟨rfl, fun _ => ⟨hsame, _, _, hup'.imports, hup₀.imports, Store.imports_perm hsame⟩⟩

/-- A directory in which a tracked file gives way to a directory and a note is edited. -/
def noted : Analyzer × Disk × Disk :=
  ({ package :=
      { name := .str "app", root := "/r", extensions := ["js"], parser := .treeSitter
        options := .map [], version := .int 4, treeType := none }
     input := "/r", output := none },
   ⟨[(["r"], .directory), (["r", "a.js"], .file [59] .zero), (["r", "n"], .file [] .zero)]⟩,
   ⟨[(["r"], .directory), (["r", "a.js"], .directory), (["r", "a.js", "b"], .file [49, 50, 10] .zero),
     (["r", "n"], .file [49, 10] .zero)]⟩)

theorem noted_telltale : Telltale noted.1.input noted.2.1 noted.2.2 := by
  intro p size mtime size' mtime' h h' _
  have hmem := Table.mem_entries_iff.mpr h
  have hmem' := Table.mem_entries_iff.mpr h'
  have hfound : (Snapshot.ofDirectory noted.2.1 noted.1.input).table.entries =
      ([("a.js", .file 1 .zero), ("n", .file 0 .zero)] : List (Text × Status)) := by cbv
  have hfound' : (Snapshot.ofDirectory noted.2.2 noted.1.input).table.entries =
      ([("a.js", .directory), ("n", .file 2 .zero), ("a.js/b", .file 3 .zero)] :
        List (Text × Status)) := by cbv
  rw [hfound] at hmem
  rw [hfound'] at hmem'
  have hsmall : size ≤ 1 := by
    simp only [List.mem_cons, Prod.mk.injEq, Status.file.injEq, List.not_mem_nil, or_false] at hmem
    rcases hmem with ⟨-, rfl, -⟩ | ⟨-, rfl, -⟩ <;> decide
  have hlarge : 2 ≤ size' := by
    simp only [List.mem_cons, Prod.mk.injEq, Status.file.injEq, reduceCtorEq, and_false, false_or,
      List.not_mem_nil, or_false] at hmem'
    rcases hmem' with ⟨-, rfl, -⟩ | ⟨-, rfl, -⟩ <;> decide
  exact .inl (by omega)

theorem build_eq_first_build_noted :
    let s : Session := { (exec build ⟨noted.1, noted.2.1, [], []⟩).2 with disk := noted.2.2 }
    (exec build s).1.isOk = true ∧
      ∀ p, (exec build s).2.analyzer.store.get? p =
        (exec build ⟨noted.1, noted.2.2, [], []⟩).2.analyzer.store.get? p := by
  have hmake : Analyzer.make "/" noted.1.package none none = .ok noted.1 := rfl
  have hrun : Run noted.1 noted.2.1 (fun _ _ => True) (Telltale noted.1.input)
      { (exec build ⟨noted.1, noted.2.1, [], []⟩).2 with disk := noted.2.2 } (some noted.2.1) :=
    .change _ (.build .start fun d hd => absurd hd (by simp)) trivial
  have htell : ∀ d ∈ some noted.2.1, Telltale noted.1.input d noted.2.2 := by
    rintro d ⟨⟩
    exact noted_telltale
  have h := build_eq_first_build hmake rfl hrun htell
  have hok : (exec build ⟨noted.1, noted.2.2, [], []⟩).1.isOk = true := by cbv
  have hok' := h.1.trans hok
  exact ⟨hok', (h.2 hok').1⟩

end Act

end ImportScan
