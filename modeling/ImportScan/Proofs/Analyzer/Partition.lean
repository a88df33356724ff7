import ImportScan.Proofs.Analyzer.Incremental
import ImportScan.Proofs.Analyzer.Stored

/-! # The records of an analyzer, file by file

    The list of all records is put together from the records of the tracked files, and every
    record carries the file that it was found in.  So the list can be taken apart again, in
    every session that comes about, also after requests that were stopped by a fault half way.

    * `Store.filter_imports` : of all records, those of a file are the ones stored for it.
    * `Filed`                : the invariant of sessions.
    * `imports_partition`    : the list of all records against the records of each file.
-/

namespace ImportScan

/-! ## Lists put together from files -/

namespace Store

variable {s : Store}

theorem imports_eq_flatMap_paths (s : Store) :
    s.imports = s.paths.flatMap fun p => (s.get? p).getD [] := by
  unfold imports paths entries Table.keys
  rw [List.flatMap_map]
  refine List.flatMap_congr ?_
  rintro ⟨p, records⟩ hmem
  have hget : s.get? p = some records := Table.mem_entries_iff.mp hmem
  simp [hget]

/-- Of lists under distinct names, only the one under a given name is picked. -/
theorem flatMap_pick {f : Text → List Import} {ps : List Text} (hdistinct : ps.Nodup) (p : Text) :
    (ps.flatMap fun q => if q = p then f q else []) = if p ∈ ps then f p else [] := by
  induction ps with
  | nil => rfl
  | cons q rest ih =>
    obtain ⟨hnot, hrest⟩ := List.nodup_cons.mp hdistinct
    rw [List.flatMap_cons, ih hrest]
    by_cases hq : q = p
    · subst hq
      simp [hnot]
    · have hq' : p ≠ q := fun heq => hq heq.symm
      simp [hq, hq']

/-- Where every record carries the file that it is stored for, the records of a file can be
    picked from all records. -/
theorem filter_imports (h : ∀ p records, s.get? p = some records → ∀ i ∈ records, i.path = p)
    (p : Text) : s.imports.filter (·.path == p) = (s.get? p).getD [] := by
  have hfile : ∀ q, ((s.get? q).getD []).filter (·.path == p) =
      if q = p then (s.get? q).getD [] else [] := by
    intro q
    have hpath : ∀ i ∈ (s.get? q).getD [], i.path = q := by
      intro i hi
      cases hget : s.get? q with
      | none => simp [hget] at hi
      | some records =>
        rw [hget, Option.getD_some] at hi
        exact h q records hget i hi
    by_cases hq : q = p
    · rw [if_pos hq, List.filter_eq_self]
      intro i hi
      simp [hpath i hi, hq]
    · rw [if_neg hq, List.filter_eq_nil_iff]
      intro i hi
      simp [hpath i hi, hq]
  calc s.imports.filter (·.path == p)
      = s.paths.flatMap fun q => ((s.get? q).getD []).filter (·.path == p) := by
        rw [imports_eq_flatMap_paths, List.filter_flatMap]
    _ = s.paths.flatMap fun q => if q = p then (s.get? q).getD [] else [] := by
        simp only [hfile]
    _ = if p ∈ s.paths then (s.get? p).getD [] else [] := flatMap_pick s.table.distinct p
    _ = (s.get? p).getD [] := by
        by_cases hp : p ∈ s.paths
        · rw [if_pos hp]
        · have hnone : s.get? p = none := by
            rw [Option.eq_none_iff_forall_not_mem]
            intro records hget
            exact hp (Table.mem_keys_iff.mpr ⟨records, hget⟩)
          rw [if_neg hp, hnone]
          rfl

end Store

namespace Act

open Session

/-! ## Requests -/

section Requests

variable {a : Analyzer} {s s' : Session}

/-- Every record is filed under its own file, and the view agrees with the store. -/
structure Filed (s : Session) : Prop where
  plain : PlainStore s.analyzer.package s.analyzer.store
  view : s.analyzer.view.Coherent s.analyzer.store

theorem finds_plain [Parsers] (a : Analyzer) : a.Finds fun p i => i.PlainAt ⟨p, a.package⟩ :=
  fun _ _ _ h => records_plain h

/-- A build that succeeds stays within the frame of its patch, and after any other the view is
    new or as it was. -/
theorem coherent_build [Parsers] (h : s.analyzer.view.Coherent s.analyzer.store) :
    (exec Act.build s).2.analyzer.view.Coherent (exec Act.build s).2.analyzer.store := by
  rcases hexec : exec Act.build s with ⟨e | stats, s'⟩
  · show s'.analyzer.view.Coherent s'.analyzer.store
    cases of_build_error hexec with
    | unlisted _ hkept =>
      rw [hkept]
      exact h
    | unopened _ _ _ hkept _ =>
      -- the tree was noted, which neither the store nor the view depends on
      rw [hkept]
      exact h
    | undone _ hframe _ => exact hframe.view (View.coherent_new _)
  · obtain ⟨hname, tree, d, d', hopen, hattempt⟩ := of_build_ok hexec
    obtain ⟨stats', s₁, hdone, hframe, -⟩ := build_done hname hopen hattempt
    rw [hexec] at hdone
    cases hdone
    exact hframe.view h

theorem coherent_request [Parsers] (h : s.analyzer.view.Coherent s.analyzer.store) (q : Request) :
    (exec q.act s).2.analyzer.view.Coherent (exec q.act s).2.analyzer.store := by
  by_cases hbuild : q = .build
  · subst hbuild
    have hbuilt := coherent_build h
    show (exec (discard Act.build) s).2.analyzer.view.Coherent
      (exec (discard Act.build) s).2.analyzer.store
    rwa [exec_discard]
  · by_cases hreset : q = .reset
    · subst hreset
      show (exec Act.reset s).2.analyzer.view.Coherent (exec Act.reset s).2.analyzer.store
      rw [exec_reset]
      cases cleared s.analyzer.output s.disk with
      | ok d => exact View.coherent_new _
      | error e => exact View.coherent_new _
    · exact (q.frame hbuild hreset s).view h

theorem Filed.request [Parsers] (h : Filed s) (q : Request) : Filed (exec q.act s).2 := by
  have hsame : Same s.analyzer (exec q.act s).2 := Same.request ⟨⟨rfl, rfl, rfl⟩, rfl⟩ q
  have hplain := holds_request (finds_plain s.analyzer) h.plain q
  refine ⟨?_, coherent_request h.view q⟩
  rw [hsame.package]
  exact hplain

theorem Filed.build [Parsers] (h : Filed s) : Filed (exec Act.build s).2 := by
  have hrequest := h.request .build
  rwa [show Request.build.act = discard Act.build from rfl, exec_discard] at hrequest

theorem Reached.filed [Parsers] (hnew : a.forget = a) (h : Reached a s) : Filed s := by
  induction h with
  | start d =>
    show Filed ⟨a, d, [], []⟩
    rw [← hnew]
    exact ⟨plainStore_empty _, View.coherent_new _⟩
  | change d _ ih => exact ⟨ih.plain, ih.view⟩
  | request q _ ih => exact ih.request q

/-- The list of all records is that of the store. -/
theorem Filed.imports (h : Filed s) : (exec Act.imports s).1 = .ok s.analyzer.store.imports := by
  obtain ⟨s', hexec, -⟩ := (does_imports s).exists_exec
  rw [hexec, h.view.get_eq]

/-- In every session that comes about, whatever was asked and whichever requests were stopped by
    a fault: the list of all records is that of the records of each tracked file, file after
    file; every record that is stored for a file has that file, the package of the analyzer
    and its tree type; and so the records of a file, in order, are those of all records that
    have the file, and there are none for a file that is not tracked. -/
theorem imports_partition [Parsers] {cwd : Text} {package : Package} {input output : Option Text}
    (hmake : Analyzer.make cwd package input output = .ok a) (hs : Reached a s) :
    let store := s.analyzer.store
    ∃ found, (exec imports s).1 = .ok found ∧
      found = (store.paths.flatMap fun p => (store.get? p).getD []) ∧
      (∀ p records, store.get? p = some records → ∀ i ∈ records,
        i.path = p ∧ i.package = package ∧ i.treeType = package.treeType) ∧
      ∀ p, found.filter (·.path == p) = (store.get? p).getD [] := by
  intro store
  have hfiled := hs.filed (make_new hmake)
  have hpackage : s.analyzer.package = package := by
    rw [hs.same.package, eq_of_make hmake]
  have hrecord : ∀ p records, store.get? p = some records → ∀ i ∈ records,
      i.path = p ∧ i.package = package ∧ i.treeType = package.treeType := by
    intro p records hget i hi
    have hplain := hfiled.plain p records hget i hi
    rw [hpackage] at hplain
    rw [hplain.1]
    exact ⟨rfl, rfl, rfl⟩
  refine ⟨store.imports, hfiled.imports, store.imports_eq_flatMap_paths, hrecord, ?_⟩
  exact Store.filter_imports fun p records hget i hi => (hrecord p records hget i hi).1

/-- A session in which another file was stored after a build, and a patch was stopped at its
    second operation, for which there is no source. -/
def refiled : Session :=
  let built := (exec (Request.act .build) ⟨noted.1, unblocked, [], []⟩).2
  let stored := (exec (Request.act (.update "c.js" "import 'x';")) built).2
  let sources : Sources := .given [("b.js", "import 'y'; import 'z';")]
  (exec (Request.act (.apply sources none [("change", "b.js"), ("create", "d.js")])) stored).2

theorem imports_partition_refiled :
    refiled.analyzer.store.paths = (["b.js", "c.js"] : List Text) ∧
    ∃ found, (exec imports refiled).1 = .ok found ∧ found.length = 3 ∧
      ∀ p, found.filter (·.path == p) = (refiled.analyzer.store.get? p).getD [] := by
  have hmake : Analyzer.make "/" noted.1.package none none = .ok noted.1 := rfl
  have hreached : Reached noted.1 refiled :=
    .request _ (.request _ (.request _ (.start unblocked)))
  obtain ⟨found, hfound, -, -, hpick⟩ := imports_partition hmake hreached
  have hcount : (exec imports refiled).1.toOption.map List.length = some 3 := by decide +kernel
  rw [hfound] at hcount
  exact ⟨by decide +kernel, found, hfound, Option.some.inj hcount, hpick⟩

end Requests

end Act

end ImportScan
