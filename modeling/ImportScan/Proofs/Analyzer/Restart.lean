import ImportScan.Proofs.Analyzer.Mirror
import ImportScan.Proofs.Analyzer.Partition
import ImportScan.Proofs.Analyzer.InputIntact

/-! # Starting over in front of a full output tree

    A new analyzer knows nothing, so to its first build everything in the input tree is new,
    also where an earlier analyzer has already filled the output tree.  Every place that the
    build turns to is taken then: a directory is not made a second time, a link is refused,
    and the copy that is to stand in for it would have to copy a file onto itself.  So the
    build fails on its first operation, and takes the output tree with it.

    * `Disk.resolve_behind_link`, `Disk.copy_onto_link` : a link leads where its target leads,
      so nothing is copied from a path to a link to it.
    * `Mirrors.mkdir_taken`, `Mirrors.link_taken` : the calls on places that are taken.
    * `outcomes_taken`      : a patch that begins with such a place.
    * `restart_over_output` : how the first build of a second analyzer ends.
-/

namespace ImportScan

open ImportScan.Path (slash)

namespace Disk

variable {d : Disk} {n k : Nat} {here there l : Location} {cs : List Text} {path target : Text}
variable {place : Place}

/-! ## Links at the end of a path -/

theorem follow_le {last : Bool} (hk : k ≤ n) (h : follow d last k here cs = .ok place) :
    follow d last n here cs = .ok place := by
  induction n, hk using Nat.le_induction with
  | base => exact h
  | succ n _ ih => exact follow_succ ih

/-- A path to a link leads where the target of the link leads. -/
theorem resolve_behind_link (hd : d.WellFormed)
    (hlink : d.resolve false path = .ok (l, some (.link target)))
    (hgood : badName? target = none) (habs : Path.isAbsolute target = true)
    (h : d.resolve true path = .ok place) : d.resolve true target = .ok place := by
  obtain ⟨cs, c, hsplit⟩ := OutputTree.exists_splitOn path
  have hpath := good_of_resolve h
  rw [resolve_of_good hpath, hsplit] at h hlink
  obtain ⟨k, there, hleads, hlast⟩ := leads_of_descend hlink
  rw [descend_leads hleads true (by simp)] at h
  have hdir : d.get? there = some .directory := hleads.directory hd rfl
  obtain hstay | rfl | hnamed := named_or c
  · -- only a name can be a link
    rw [descend_stay _ _ hstay, descend, hdir] at hlast
    cases hlast
  · have hup : d.get? there.dropLast = some .directory :=
      (hleads.append (.up .nil)).directory hd rfl
    rw [descend_up, descend, hup] at hlast
    cases hlast
  · rw [descend_last _ hnamed] at hlast
    simp only [Except.ok.injEq, Prod.mk.injEq] at hlast
    have hget : d.get? (there ++ [c]) = some (.link target) := hlast.2
    rw [descend_named _ _ hnamed, hget] at h
    have hbehind : follow d true k [] (target.splitOn slash) = .ok place := by
      simpa [linkStart, habs] using h
    have hlimit : k ≤ linkLimit := Nat.le_succ_of_le hleads.le
    rw [resolve, hgood]
    exact follow_le hlimit hbehind

/-- Nothing is copied from a path to a link to it. -/
theorem copy_onto_link (hd : d.WellFormed)
    (hlink : d.resolve false path = .ok (l, some (.link target)))
    (hgood : badName? target = none) (habs : Path.isAbsolute target = true) :
    ∃ e, d.copy target path = .error e := by
  cases hcopy : d.copy target path with
  | error e => exact ⟨e, rfl⟩
  | ok d' =>
    exfalso
    obtain ⟨content, mtime, dir, l', e, hsource, hplace, -, hother, -⟩ := copy_eq_ok hcopy
    have hnot : d.isDirectory path = false := by
      rw [Bool.eq_false_iff, ne_eq, isDirectory_iff]
      rintro ⟨l', hl'⟩
      have hsource' := resolve_behind_link hd hlink hgood habs hl'
      rw [hsource] at hsource'
      cases hsource'
    rw [hnot, if_neg (by simp)] at hplace
    have hsource' := resolve_behind_link hd hlink hgood habs hplace
    rw [hsource] at hsource'
    cases hsource'
    exact hother rfl rfl

end Disk

/-! ## Calls on places that are taken -/

namespace OutputTree

variable {t : OutputTree} {d : Disk} {home : Location} {tree : Tree} {p : Text}

theorem Mirrors.mkdir_taken (h : t.Mirrors d home tree) (hp : tree p = some .directory) :
    ∃ e, t.mkdir p d = .error e := by
  have hvalid := h.valid hp
  have hresolve := h.resolve hvalid (h.holder_of_some hp)
  rw [hp] at hresolve
  unfold OutputTree.mkdir Disk.mkdir
  rw [h.trimSlashes hvalid, hresolve]
  exact ⟨_, rfl⟩

/-- The link is there, so a second one is refused, and the copy finds that the link leads to
    the very file that it is to copy. -/
theorem Mirrors.link_taken (h : t.Mirrors d home tree) (hp : tree p = some .file)
    (hgood : Disk.badName? (t.inputPath p) = none) (habs : Path.isAbsolute t.input = true) :
    ∃ e, (t.link p d).1 = .error e := by
  have hvalid := h.valid hp
  have hresolve := h.resolve hvalid (h.holder_of_some hp)
  rw [hp] at hresolve
  have hrefused : d.symlink (t.inputPath p) (t.outputPath p) =
      .error (.disk .taken (t.inputPath p) (some (t.outputPath p))) :=
    Disk.symlink_of_resolve hgood (t.inputPath_ne_nil hvalid) hresolve
  have habs' : Path.isAbsolute (t.inputPath p) = true :=
    isAbsolute_join habs (Path.isAbsolute_eq_false fun n hn => (hvalid n hn).toProper)
  obtain ⟨e, hcopy⟩ := Disk.copy_onto_link h.wellFormed hresolve hgood habs'
  refine ⟨e, ?_⟩
  simp [OutputTree.link, h.links, hrefused, isRefusal, DiskFault.isRefusal, hcopy]

end OutputTree

namespace Act

open Session

variable {a : Analyzer} {sources : Sources} {t : OutputTree} {d : Disk} {home : Location}
variable {tree : Tree} {p : Text} {k : Kind} {store : Store}

theorem after_taken (h : t.Mirrors d home tree) (hp : tree p = some k)
    (hgood : Disk.badName? (t.inputPath p) = none) (habs : Path.isAbsolute t.input = true) :
    ∃ e, after (some t) k.addition p d = .error e := by
  cases k with
  | directory => exact h.mkdir_taken hp
  | file => exact h.link_taken hp hgood habs

/-- A patch that begins with something new at a place that is taken fails there, and leaves the
    disk as it is. -/
theorem outcomes_taken [Parsers] (a : Analyzer) (sources : Sources) (store : Store) (rest : Patch)
    (h : t.Mirrors d home tree) (hp : tree p = some k)
    (hgood : Disk.badName? (t.inputPath p) = none) (habs : Path.isAbsolute t.input = true) :
    ∃ e store', outcomes a sources (some t) ((k.addition, p) :: rest) store d =
      (.error e, store', d) := by
  have hfirst : ∃ e store', outcome a sources (some t) k.addition p store d =
      (.error e, store', d) := by
    have hbefore : before (some t) k.addition p d = .ok d := by cases k <;> rfl
    obtain ⟨e, hafter⟩ := after_taken h hp hgood habs
    unfold outcome settle
    rw [hbefore]
    simp only
    -- the records of the file may be missing, and then the output tree is not even asked
    cases absorb (a.package.tracks p) (recordsAt a sources d p) k.addition p store with
    | error e' => exact ⟨e', store, rfl⟩
    | ok store' =>
      simp only [hafter]
      exact ⟨e, store', rfl⟩
  obtain ⟨e, store', houtcome⟩ := hfirst
  refine ⟨e, store', ?_⟩
  unfold outcomes
  rw [houtcome]

/-! ## The first build of a second analyzer -/

variable {out : Text} {s : Session} {stats : Stats}

/-- An analyzer that is made has an input directory from the root. -/
theorem isAbsolute_input {cwd : Text} {package : Package} {input output : Option Text}
    (h : Analyzer.make cwd package input output = .ok a) : Path.isAbsolute a.input = true := by
  obtain ⟨cs, hresolved⟩ :=
    Path.resolved_absolute cwd ((Analyzer.given? input).getD package.root)
  rw [eq_of_make h]
  exact isAbsolute_of_resolved hresolved

/-- Against nothing, either there is nothing to do, or the first operation makes something. -/
theorem patch_empty_cases (tree : Snapshot) :
    ((∀ p, tree.tree p = none) ∧ Snapshot.patch {} tree = []) ∨
      ∃ p k rest, tree.tree p = some k ∧ Snapshot.patch {} tree = (k.addition, p) :: rest := by
  have hmem : ∀ op p, (op, p) ∈ Snapshot.patch {} tree ↔
      p ∈ tree.sortedPaths ∧ ∃ k, tree.tree p = some k ∧ k.addition = op := by
    intro op p
    rw [patch_empty, List.mem_filterMap]
    constructor
    · rintro ⟨q, hq, heq⟩
      obtain ⟨k, hk, heq⟩ := Option.map_eq_some_iff.mp heq
      cases heq
      exact ⟨hq, k, hk, rfl⟩
    · rintro ⟨hp, k, hk, rfl⟩
      exact ⟨p, hp, by rw [hk]; rfl⟩
  cases hpatch : Snapshot.patch {} tree with
  | nil =>
    refine .inl ⟨fun p => ?_, rfl⟩
    cases hget : tree.get? p with
    | none => exact Snapshot.tree_eq_none hget
    | some status =>
      have hin := (hmem status.kind.addition p).mpr
        ⟨Snapshot.mem_sortedPaths.mpr ⟨_, hget⟩, _, Snapshot.tree_eq_some hget, rfl⟩
      rw [hpatch] at hin
      cases hin
  | cons o rest =>
    obtain ⟨op, p⟩ := o
    obtain ⟨-, k, hk, rfl⟩ := (hmem op p).mp (by rw [hpatch]; exact List.mem_cons_self)
    exact .inr ⟨p, k, rest, hk, rfl⟩

/-- The first build of an analyzer applies a patch against nothing to records of nothing. -/
theorem attempted_first [Parsers] (hnew : a.forget = a) {b : Backend} (hparser : a.parser = .ok b)
    (tree : Option OutputTree) (d d' : Disk) :
    attempted a tree d d' = outcomes a .input tree (Snapshot.patch {} (seen a d)) {} d' := by
  have hstore : a.store = {} := by
    rw [← hnew]
    rfl
  have hprevious : a.previous = {} := by
    rw [← hnew]
    rfl
  rw [attempted, attempt, hparser, hprevious, hstore]

/-- An analyzer whose build succeeds can set up its parser. -/
theorem parser_of_build_ok [Parsers] {s' : Session} (h : exec build s = (.ok stats, s')) :
    ∃ b, s.analyzer.parser = .ok b := by
  obtain ⟨-, tree, d, d', -, hattempt⟩ := of_build_ok h
  unfold attempted attempt at hattempt
  cases hparser : s.analyzer.parser with
  | ok b => exact ⟨b, rfl⟩
  | error e =>
    rw [hparser] at hattempt
    cases hattempt

/-- In front of an output tree that has a place for everything that is seen, the first build
    fails and removes the output tree, if anything is seen. -/
theorem first_build_taken [Parsers] {init : List Text} {c : Text} (hnew : a.forget = a)
    (hout : a.output = some out) (hpath : Path.Resolved out (init ++ [c]))
    (habs : Path.isAbsolute a.input = true) (hname : Disk.badName? a.input = none) {b : Backend}
    (hparser : a.parser = .ok b)
    (h : (treeAt a out).Mirrors d home (seen a d).tree) (hp : (seen a d).tree p = some k) :
    ∃ e s', exec build ⟨a, d, [], []⟩ = (.error e, s') ∧ s'.disk = d.eraseTree home := by
  obtain ⟨hnone, -⟩ | ⟨q, k', rest, hq, hpatch⟩ := patch_empty_cases (seen a d)
  · rw [hnone] at hp
    cases hp
  · have hgood : Disk.badName? ((treeAt a out).inputPath q) = none := by
      cases hget : (seen a d).get? q with
      | none =>
        rw [Snapshot.tree_eq_none hget] at hq
        cases hq
      | some status => exact (fits_of_seen h.wellFormed out hget).good
    have hstands : Disk.Stands d out home := h.toStands
    have hopen := opened_of_makeDirs hout (Disk.makeDirs_of_stands hstands hpath)
    obtain ⟨e, store', hfails⟩ := outcomes_taken a .input {} rest h hq hgood habs
    rw [← hpatch, ← attempted_first hnew hparser] at hfails
    obtain ⟨e', s', hexec, -, -, hleft⟩ :=
      build_failed (s := ⟨a, d, [], []⟩) hname hopen hfails
    simp only [hout, cleared_of_stands hstands, Prod.mk.injEq] at hleft
    exact ⟨e', s', hexec, hleft.2⟩

/-- Where nothing is seen, the first build changes nothing but that the output directory is
    opened, and finds no records. -/
theorem first_build_idle [Parsers] (hnew : a.forget = a) (hname : Disk.badName? a.input = none)
    {b : Backend} (hparser : a.parser = .ok b)
    {tree : Option OutputTree} {d' : Disk} (hopen : opened a d = .ok (tree, d'))
    (hnone : ∀ p, (seen a d).tree p = none) :
    ∃ stats s', exec build ⟨a, d, [], []⟩ = (.ok stats, s') ∧ s'.disk = d' ∧
      s'.analyzer.store = {} := by
  obtain ⟨-, hpatch⟩ | ⟨q, k', rest, hq, -⟩ := patch_empty_cases (seen a d)
  · have hdone : attempted a tree d d' = (.ok (), {}, d') := by
      rw [attempted_first hnew hparser, hpatch]
      rfl
    obtain ⟨stats, s', hexec, -, hstore, hdisk⟩ :=
      build_done (s := ⟨a, d, [], []⟩) hname hopen hdone
    exact ⟨stats, s', hexec, hdisk, hstore⟩
  · rw [hnone] at hq
    cases hq

/-- A second analyzer that is made like the first, and builds in front of the output tree that
    the first build of the first one has left, the input tree being as it was: if there is
    anything in the input tree, the build fails, nothing is left at the output directory, and
    the next build starts from scratch.  Only in front of an empty input tree does it succeed;
    then the disk stays as it is, and the records are the same. -/
theorem restart_over_output [Parsers] {cwd : Text} {package : Package} {input output : Option Text}
    (hmake : Analyzer.make cwd package input output = .ok a) (hout : a.output = some out)
    (hd : d.WellFormed) (hfree : d.Free out)
    (hfirst : exec build ⟨a, d, [], []⟩ = (.ok stats, s))
    (hsame : ∀ p, (seen a s.disk).tree p = (seen a d).tree p) :
    match exec build ⟨a, s.disk, [], []⟩ with
    | (.error _, s') =>
      (∃ p k, (seen a d).tree p = some k) ∧ s'.disk.Absent out ∧ Renewed a s'
    | (.ok _, s') =>
      (∀ p, (seen a d).tree p = none) ∧ s'.disk = s.disk ∧
        (exec imports s').1 = (exec imports s).1 := by
  have hnew := make_new hmake
  obtain ⟨cs, hpath⟩ := resolved_of_make hmake hout
  obtain ⟨init, c, rfl⟩ := (List.eq_nil_or_concat cs).resolve_left (hfree.1.ne_root hpath)
  rw [List.concat_eq_append] at hpath
  obtain ⟨b, hparser⟩ := parser_of_build_ok hfirst
  obtain ⟨hname, tree, d₁, _, hopen, -⟩ := of_build_ok hfirst
  -- the first build has left a mirror of the tree that it saw
  have hfollows : Follows a out ⟨a, d, [], []⟩ :=
    ⟨⟨rfl, rfl, rfl⟩, hout, hd, .inl ⟨hfree, hnew ▸ rfl⟩⟩
  obtain ⟨_, -, -, hbuild⟩ := hfollows.build hpath
  rw [hfirst] at hbuild
  obtain ⟨⟨home, hmirrors⟩, -⟩ := hbuild
  have hmirrors' : (treeAt a out).Mirrors s.disk home (seen a s.disk).tree := by
    rw [funext hsame]
    exact hmirrors
  have hstands : Disk.Stands s.disk out home := hmirrors.toStands
  have hthere : s.disk.makeDirs out = .ok s.disk := Disk.makeDirs_of_stands hstands hpath
  by_cases hany : ∃ p k, (seen a d).tree p = some k
  · obtain ⟨p, k, hp⟩ := hany
    obtain ⟨e, s', hexec, hdisk⟩ := first_build_taken hnew hout hpath (isAbsolute_input hmake)
      hname hparser hmirrors' ((hsame p).trans hp)
    rw [hexec]
    refine ⟨⟨p, k, hp⟩, ?_, ?_⟩
    · rw [hdisk]
      exact (hstands.free_eraseTree hpath).1
    · have hstart : Same a ⟨a, s.disk, [], []⟩ := ⟨⟨rfl, rfl, rfl⟩, rfl⟩
      cases of_build_error hexec with
      | unlisted hunlisted _ => exact absurd hname hunlisted.not_named
      | unopened _ hout' hdirs _ _ =>
        -- the root of the output tree is there, so it was not for want of it that the build failed
        cases hout.symm.trans hout'
        cases hthere.symm.trans hdirs
      | undone _ hframe hstore =>
        exact (hstart.forget.frame hframe).renewed hnew hstore hframe.previous
  · have hnone : ∀ p, (seen a d).tree p = none := fun p =>
      Option.eq_none_iff_forall_not_mem.mpr fun k hk => hany ⟨p, k, hk⟩
    have hnone' : ∀ p, (seen a s.disk).tree p = none := fun p => (hsame p).trans (hnone p)
    obtain ⟨stats', s', hexec, hdisk, hstore⟩ :=
      first_build_idle hnew hname hparser (opened_of_makeDirs hout hthere) hnone'
    obtain ⟨_, s₁, hexec₁, -, hstore₁⟩ := first_build_idle hnew hname hparser hopen hnone
    rw [hfirst] at hexec₁
    cases hexec₁
    -- neither has any records
    have hfiled : Filed s := by
      have hbuilt := ((Reached.start d).filed hnew).build
      rwa [hfirst] at hbuilt
    have hfiled' : Filed s' := by
      have hbuilt := ((Reached.start s.disk).filed hnew).build
      rwa [hexec] at hbuilt
    rw [hexec]
    refine ⟨hnone, hdisk, ?_⟩
    rw [hfiled.imports, hfiled'.imports, hstore, hstore₁]

theorem restart_over_output_mirrored :
    ∃ e s', exec build ⟨mirrored.1, mirrored.2.2, [], []⟩ = (.error e, s') ∧
      s'.disk.Absent "/out" ∧ Renewed mirrored.1 s' := by
  have hmake : Analyzer.make "/" mirrored.1.package none (some "out") = .ok mirrored.1 := rfl
  have hok : (exec build ⟨mirrored.1, mirrored.2.1, [], []⟩).1.isOk = true := by cbv
  have hdisk : (exec build ⟨mirrored.1, mirrored.2.1, [], []⟩).2.disk = mirrored.2.2 := by cbv
  have hseen : seen mirrored.1 mirrored.2.2 = seen mirrored.1 mirrored.2.1 := by cbv
  have hfile : (seen mirrored.1 mirrored.2.1).tree "b" = some .file := by cbv
  rcases hfirst : exec build ⟨mirrored.1, mirrored.2.1, [], []⟩ with ⟨e | stats, s⟩
  · rw [hfirst] at hok
    cases hok
  · have hleft : s.disk = mirrored.2.2 := by rwa [hfirst] at hdisk
    have hrestart := restart_over_output hmake rfl (by decide +kernel) mirrored_free hfirst
      fun p => by rw [hleft, hseen]
    rw [hleft] at hrestart
    rcases hexec : exec build ⟨mirrored.1, mirrored.2.2, [], []⟩ with ⟨e | stats', s'⟩
    · rw [hexec] at hrestart
      exact ⟨e, s', rfl, hrestart.2⟩
    · rw [hexec] at hrestart
      rw [hrestart.1] at hfile
      cases hfile

/-- A disk for an analyzer with an output tree, where the input directory holds a directory. -/
def bare : Disk := ⟨[(["r"], .directory), (["r", "lib"], .directory)]⟩

/-- The first build of a second analyzer fails where that of the first one has succeeded, and
    removes what that one has made. -/
theorem restart_fails :
    let first := exec build ⟨linking, bare, [], []⟩
    let second := exec build ⟨linking, first.2.disk, [], []⟩
    Analyzer.make "/" linking.package none (some "out") = .ok linking ∧
      bare.get? ["out"] = none ∧ first.1.isOk = true ∧
      first.2.disk.get? ["out", "lib"] = some .directory ∧
      second.1.isOk = false ∧ second.2.disk.get? ["out"] = none := by
  refine ⟨rfl, ?_, ?_, ?_, ?_, ?_⟩ <;> decide +kernel

end Act

end ImportScan
