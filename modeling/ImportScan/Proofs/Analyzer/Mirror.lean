import Mathlib
import ImportScan.Proofs.Analyzer.Build
import ImportScan.Proofs.OutputTree
import ImportScan.Proofs.Tree.Scan
import ImportScan.Script.Parsers

/-! # Builds with an output tree

    As long as nobody else touches it, the output tree of an analyzer mirrors the tree that the
    last build saw, or there is none.  So no call on it ever fails: a build fails only where
    the parser cannot be set up or a file cannot be read.

    * `Reaches`      : the point where a patch gets to one of its operations.
    * `Unread`       : a fault for which a tracked file could not be read or parsed.
    * `Spares`       : changes by others that leave the output tree alone.
    * `Follows`      : the invariant of runs.
    * `build_mirrors` : what every build of a run does to the output tree.
-/

namespace ImportScan.Act

open ImportScan.Path (slash)
open Session

variable {a : Analyzer} {sources : Sources} {t : OutputTree} {d d' : Disk} {home : Location}
variable {tree tree' : Tree} {op : Operation} {p : Text} {store store' : Store} {patch : Patch}

/-! ## Single operations -/

/-- Whether something can be made at a path: its components are names, and it can be linked. -/
structure Fits (t : OutputTree) (p : Text) : Prop where
  valid : ∀ n ∈ p.splitOn slash, Disk.ValidName n
  good : Disk.badName? (t.inputPath p) = none

/-- An operation that removes a path, or makes one where that is possible. -/
def Applies (t : OutputTree) (o : Operation × Text) : Prop :=
  o.1 = .unlink ∨ o.1 = .rmdir ∨ Fits t o.2

theorem Applies.fits {o : Operation × Text} (h : Applies t o) (hunlink : o.1 ≠ .unlink)
    (hrmdir : o.1 ≠ .rmdir) : Fits t o.2 :=
  (h.resolve_left hunlink).resolve_left hrmdir

/-- Where an operation has its precondition on the tree, the calls on a mirror of the tree
    succeed and leave a mirror of the changed tree. -/
theorem mirrors_step (h : t.Mirrors d home tree) (hstep : Tree.Step tree (op, p) tree')
    (hfits : Applies t (op, p)) :
    ∃ d₁ tree₁ d₂, before (some t) op p d = .ok d₁ ∧ t.Mirrors d₁ home tree₁ ∧
      after (some t) op p d₁ = .ok d₂ ∧ t.Mirrors d₂ home tree' := by
  cases hstep with
  | unlink hp =>
    obtain ⟨d₂, hcall, h₂⟩ := h.unlink hp
    exact ⟨d, tree, d₂, rfl, h, hcall, h₂⟩
  | rmdir hp hempty =>
    obtain ⟨d₂, hcall, h₂⟩ := h.rmdir hp hempty
    exact ⟨d, tree, d₂, rfl, h, hcall, h₂⟩
  | mkdir hp hholds =>
    have hfit := hfits.fits (by simp) (by simp)
    obtain ⟨d₂, hcall, h₂⟩ := h.mkdir hfit.valid hp hholds
    exact ⟨d, tree, d₂, rfl, h, hcall, h₂⟩
  | create hp hholds =>
    have hfit := hfits.fits (by simp) (by simp)
    obtain ⟨d₂, hcall, h₂⟩ := h.link hfit.valid hfit.good hp hholds
    exact ⟨d, tree, d₂, rfl, h, hcall, h₂⟩
  | change hp =>
    have hfit := hfits.fits (by simp) (by simp)
    -- in between, the path is free
    obtain ⟨d₁, hremove, h₁⟩ := h.remove hp
    have hholds : Tree.Holds (Function.update tree p none) p := by
      intro dir hdir
      rw [Function.update_of_ne (Snapshot.le_of_holder hdir).2]
      exact h.holds_of_some hp dir hdir
    obtain ⟨d₂, hcall, h₂⟩ := h₁.link hfit.valid hfit.good (Function.update_self ..) hholds
    rw [Function.update_idem, ← hp, Function.update_eq_self] at h₂
    exact ⟨d₁, _, d₂, hremove, h₁, hcall, h₂⟩

/-- Only a tracked file whose records cannot be found stops the second phase. -/
theorem of_absorb_error {tracked : Bool} {records : Except Fault (List Import)} {e : Fault}
    (h : absorb tracked records op p store = .error e) : tracked = true ∧ records = .error e := by
  have hlearn : learn tracked records p store = .error e := by
    cases op with
    | unlink => cases h
    | rmdir => cases h
    | mkdir => cases h
    | change => exact h
    | create => exact h
  unfold learn at hlearn
  split at hlearn
  · cases hlearn
  · cases hlearn
  · cases hlearn
    exact ⟨rfl, rfl⟩

/-- An operation with its precondition leaves a mirror of the changed tree, unless the records
    of its path cannot be found; then the output directory is still there. -/
theorem mirrors_outcome [Parsers] (a : Analyzer) (sources : Sources) (store : Store)
    (h : t.Mirrors d home tree) (hstep : Tree.Step tree (op, p) tree')
    (hfits : Applies t (op, p)) :
    ∃ d₁, before (some t) op p d = .ok d₁ ∧
      match outcome a sources (some t) op p store d with
      | (.ok (), _, d₂) => t.Mirrors d₂ home tree'
      | (.error e, _, d₂) => Disk.Stands d₂ t.output home ∧
          a.package.tracks p = true ∧ recordsAt a sources d₁ p = .error e := by
  obtain ⟨d₁, tree₁, d₂, hbefore, h₁, hafter, h₂⟩ := mirrors_step h hstep hfits
  refine ⟨d₁, hbefore, ?_⟩
  unfold outcome settle
  rw [hbefore]
  simp only
  -- of the three phases only the second can fail
  cases habsorb : absorb (a.package.tracks p) (recordsAt a sources d₁ p) op p store with
  | error e => exact ⟨h₁.toStands, of_absorb_error habsorb⟩
  | ok store' =>
    simp only
    rw [hafter]
    exact h₂

/-! ## Patches -/

/-- The application of a patch gets to one of its operations, with a store and a disk. -/
inductive Reaches [Parsers] (a : Analyzer) (sources : Sources) (tree : Option OutputTree) :
    Patch → Store → Disk → Operation × Text → Store → Disk → Prop where
  /-- It is the first operation. -/
  | here {o : Operation × Text} {rest : Patch} {store : Store} {d : Disk} :
      Reaches a sources tree (o :: rest) store d o store d
  /-- The first operation succeeds, and the others get there. -/
  | there {op : Operation} {p : Text} {o : Operation × Text} {rest : Patch}
      {store store₁ store' : Store} {d d₁ d' : Disk} :
      outcome a sources tree op p store d = (.ok (), store₁, d₁) →
      Reaches a sources tree rest store₁ d₁ o store' d' →
      Reaches a sources tree ((op, p) :: rest) store d o store' d'

/-- A fault for which the records of a tracked file could not be found, at the point where the
    application of a patch got to the file. -/
def Unread [Parsers] (a : Analyzer) (sources : Sources) (tree : Option OutputTree) (patch : Patch)
    (store : Store) (d : Disk) (e : Fault) : Prop :=
  ∃ op p store' d' d₁, Reaches a sources tree patch store d (op, p) store' d' ∧
    before tree op p d' = .ok d₁ ∧ a.package.tracks p = true ∧ recordsAt a sources d₁ p = .error e

/-- A patch whose operations have their preconditions leaves a mirror of the changed tree,
    unless the records of a tracked file cannot be found. -/
theorem mirrors_outcomes [Parsers] (a : Analyzer) (sources : Sources) (store : Store)
    (hrun : Tree.Run tree patch tree') (h : t.Mirrors d home tree)
    (hfits : ∀ o ∈ patch, Applies t o) :
    match outcomes a sources (some t) patch store d with
    | (.ok (), _, d') => t.Mirrors d' home tree'
    | (.error e, _, d') => Disk.Stands d' t.output home ∧
        Unread a sources (some t) patch store d e := by
  induction hrun generalizing store d with
  | nil => exact h
  | @cons tree tree₁ tree' o rest hstep _ ih =>
    obtain ⟨op, p⟩ := o
    obtain ⟨hfit, hrest⟩ := List.forall_mem_cons.mp hfits
    obtain ⟨d₁, hbefore, hout⟩ := mirrors_outcome a sources store h hstep hfit
    unfold outcomes
    rcases houtcome : outcome a sources (some t) op p store d with ⟨e | ⟨⟩, store₁, d₂⟩
    · rw [houtcome] at hout
      obtain ⟨hstands, htracks, hrecords⟩ := hout
      exact ⟨hstands, op, p, store, d, d₁, .here, hbefore, htracks, hrecords⟩
    · rw [houtcome] at hout
      have hlater := ih store₁ hout hrest
      simp only
      rcases houtcomes : outcomes a sources (some t) rest store₁ d₂ with ⟨e | ⟨⟩, store₂, d₃⟩
      · rw [houtcomes] at hlater
        obtain ⟨hstands, op', p', store', d', d₁', hreaches, hfailed⟩ := hlater
        exact ⟨hstands, op', p', store', d', d₁', .there houtcome hreaches, hfailed⟩
      · rw [houtcomes] at hlater
        exact hlater

/-- Where such a patch gets to, no call on the output tree fails. -/
theorem mirrors_reached [Parsers]
    (hreaches : Reaches a sources (some t) patch store d (op, p) store' d')
    (hrun : Tree.Run tree patch tree') (h : t.Mirrors d home tree)
    (hfits : ∀ o ∈ patch, Applies t o) :
    ∃ d₁ d₂, before (some t) op p d' = .ok d₁ ∧ after (some t) op p d₁ = .ok d₂ := by
  -- the operations before have succeeded, so each has left a mirror of its own tree
  generalize ho : (op, p) = o at hreaches
  induction hreaches generalizing tree with
  | here =>
    subst ho
    cases hrun with
    | cons hstep _ =>
      obtain ⟨d₁, -, d₂, hbefore, -, hafter, -⟩ :=
        mirrors_step h hstep (hfits _ List.mem_cons_self)
      exact ⟨d₁, d₂, hbefore, hafter⟩
  | there houtcome _ ih =>
    cases hrun with
    | cons hstep hrest =>
      obtain ⟨hfit, hfits'⟩ := List.forall_mem_cons.mp hfits
      obtain ⟨_, _, hout⟩ := mirrors_outcome a sources _ h hstep hfit
      rw [houtcome] at hout
      exact ih hrest hout hfits' ho

/-! ## Patches between scans -/

/-- The output tree of an analyzer in a directory. -/
def treeAt (a : Analyzer) (out : Text) : OutputTree := ⟨a.input, out, true⟩

/-- What a build sees can be made in the output tree. -/
theorem fits_of_seen (hd : d.WellFormed) (out : Text) {status : Status}
    (h : (seen a d).get? p = some status) : Fits (treeAt a out) p := by
  obtain ⟨hvalid, -, hinput⟩ := Snapshot.ofDirectory_spec hd h
  have hp : Disk.badName? p = none := by
    rw [← Text.join_splitOn slash p]
    exact Disk.badName?_join.mpr fun n hn => (hvalid n hn).good
  refine ⟨hvalid, ?_⟩
  unfold OutputTree.inputPath Path.join
  split
  · exact hp
  · split
    · exact Disk.badName?_append.mpr ⟨hinput, hp⟩
    · rw [← List.singleton_append]
      exact Disk.badName?_append.mpr ⟨hinput, Disk.badName?_append.mpr ⟨by decide, hp⟩⟩

/-- The operations of a patch to what a build sees apply. -/
theorem applies_of_mem_patch (hd : d.WellFormed) (out : Text) (previous : Snapshot) :
    ∀ o ∈ previous.patch (seen a d), Applies (treeAt a out) o := by
  rintro ⟨op, p⟩ ho
  rcases List.mem_append.mp ho with ho | ho
  · obtain ⟨old, -, -, rfl⟩ := Snapshot.mem_removals_iff.mp ho
    cases old with
    | directory => exact .inr (.inl rfl)
    | file => exact .inl rfl
  · obtain ⟨new, hnew, -⟩ := Snapshot.mem_additions_iff.mp ho
    exact .inr (.inr (fits_of_seen hd out hnew))

/-! ## The invariant -/

/-- A change by others that leaves a path alone.  If something is there, the path still leads
    there, without passing through it, and it holds what it held; else a directory can still
    be made there. -/
def Spares (out : Text) (d d' : Disk) : Prop :=
  match d.resolve false out with
  | .ok (home, some _) =>
    (d'.eraseTree home).resolve false out = .ok (home, none) ∧
      ∀ l, home <+: l → d'.get? l = d.get? l
  | _ => d'.Free out

/-- The output tree mirrors the tree of the last build, or there is neither. -/
structure Follows (a : Analyzer) (out : Text) (s : Session) : Prop where
  alike : a.Alike s.analyzer
  output : s.analyzer.output = some out
  wellFormed : s.disk.WellFormed
  tree : (s.disk.Free out ∧ s.analyzer.previous = {}) ∨
    (Disk.badName? a.input = none ∧
      ∃ home, (treeAt a out).Mirrors s.disk home s.analyzer.previous.tree)

variable {out : Text} {s : Session}

/-- An empty directory mirrors the tree that has nothing. -/
theorem mirrors_of_standsEmpty {init : List Text} {c : Text}
    (hpath : Path.Resolved out (init ++ [c])) (h : Disk.StandsEmpty d out home) :
    (treeAt a out).Mirrors d home ({} : Snapshot).tree where
  toStands := h.toStands
  links := rfl
  resolved := ⟨init, c, hpath⟩
  holds p := h.empty _ (Text.splitOn_ne_nil slash p)

/-- Changes by others keep the invariant if they spare the output directory. -/
theorem Follows.change (h : Follows a out s) (hd : d.WellFormed) (hspares : Spares out s.disk d) :
    Follows a out { s with disk := d } := by
  refine ⟨h.alike, h.output, hd, ?_⟩
  unfold Spares at hspares
  obtain ⟨hfree, hprevious⟩ | ⟨hname, home, hmirrors⟩ := h.tree
  · -- there was no output directory, and there is none
    left
    refine ⟨?_, hprevious⟩
    split at hspares
    · next hresolve => exact absurd hresolve (hfree.1 _ _)
    · exact hspares
  · -- the output directory is where it was and holds what it held
    right
    have hresolve : s.disk.resolve false out = _ := hmirrors.toStands.resolve
    rw [hresolve] at hspares
    obtain ⟨hresolve, hsame⟩ := hspares
    refine ⟨hname, home, ⟨hd, Disk.hangs_of_resolve hd hmirrors.hangs.ne_nil hresolve, ?_⟩,
      rfl, hmirrors.resolved, fun p => ?_⟩
    · exact (hsame home (List.prefix_refl _)).trans hmirrors.directory
    · exact (hsame _ (List.prefix_append _ _)).trans (hmirrors.holds p)

/-- An output tree is opened when its root can be made. -/
theorem opened_of_makeDirs (hout : a.output = some out) (hmake : d.makeDirs out = .ok d') :
    opened a d = .ok (some (treeAt a out), d') := by
  unfold opened OutputTree.make
  rw [hout]
  simp only [hmake]
  rfl

/-- An output directory that is there is removed. -/
theorem cleared_of_stands (h : Disk.Stands d out home) :
    cleared (some out) d = .ok (d.eraseTree home) := by
  simp only [cleared, h.isDirectory, if_true, h.removeTree]

/-- A build can open the output tree, which then mirrors the tree of the last build. -/
theorem Follows.opened (h : Follows a out s) {init : List Text} {c : Text}
    (hpath : Path.Resolved out (init ++ [c])) :
    ∃ d home, s.disk.makeDirs out = .ok d ∧
      Act.opened s.analyzer s.disk = .ok (some (treeAt a out), d) ∧
      (treeAt a out).Mirrors d home s.analyzer.previous.tree := by
  have hopened : ∀ d, s.disk.makeDirs out = .ok d →
      Act.opened s.analyzer s.disk = .ok (some (treeAt a out), d) := by
    intro d hmake
    have hopen := opened_of_makeDirs h.output hmake
    rwa [treeAt, h.alike.input] at hopen
  obtain ⟨⟨habsent, d, hmake⟩, hprevious⟩ | ⟨-, home, hmirrors⟩ := h.tree
  · obtain ⟨home, hempty⟩ := Disk.standsEmpty_of_makeDirs h.wellFormed habsent hpath hmake
    refine ⟨d, home, hmake, hopened d hmake, ?_⟩
    rw [hprevious]
    exact mirrors_of_standsEmpty hpath hempty
  · have hmake := Disk.makeDirs_of_stands hmirrors.toStands hpath
    exact ⟨s.disk, home, hmake, hopened _ hmake, hmirrors⟩

/-- A build that fails while the output directory is there removes it. -/
theorem Follows.build_failed [Parsers] (h : Follows a out s) {init : List Text} {c : Text}
    (hname : Disk.badName? s.analyzer.input = none)
    (hpath : Path.Resolved out (init ++ [c])) {tree : Option OutputTree} {e : Fault}
    (hopen : Act.opened s.analyzer s.disk = .ok (tree, d))
    (hfail : attempted s.analyzer tree s.disk d = (.error e, store, d'))
    (hstands : Disk.Stands d' out home) :
    ∃ s', exec build s = (.error e, s') ∧ s'.disk.Free out ∧ Follows a out s' := by
  obtain ⟨e', s', hexec, hframe, -, hleft⟩ := Act.build_failed hname hopen hfail
  rw [h.output, cleared_of_stands hstands] at hleft
  simp only [Prod.mk.injEq] at hleft
  obtain ⟨rfl, hdisk⟩ := hleft
  have hfree : s'.disk.Free out := hdisk ▸ hstands.free_eraseTree hpath
  have hforget : s.analyzer.Alike s.analyzer.forget := ⟨rfl, rfl, rfl⟩
  refine ⟨s', hexec, hfree, ?_⟩
  exact {
    alike := (h.alike.trans hforget).trans hframe.toAlike
    output := hframe.output.trans h.output
    wellFormed := hdisk ▸ hstands.wellFormed.eraseTree hstands.hangs.ne_nil
    tree := .inl ⟨hfree, hframe.previous⟩ }

/-- Where the input directory cannot be listed, nothing was ever put into the output tree. -/
theorem Follows.free_of_unlisted (h : Follows a out s) {e : Fault} (hunlisted : Unlisted a e) :
    s.disk.Free out := by
  obtain ⟨hfree, -⟩ | ⟨hname, -⟩ := h.tree
  · exact hfree
  · exact absurd hname hunlisted.not_named

/-- Into an output tree that mirrors the tree of the last build, a build that lists the input
    directory puts what it has seen, or it fails and removes the output directory. -/
theorem Follows.build_listed [Parsers] (h : Follows a out s) {init : List Text} {c : Text}
    (hname : Disk.badName? a.input = none) (hpath : Path.Resolved out (init ++ [c]))
    (hopen : Act.opened s.analyzer s.disk = .ok (some (treeAt a out), d))
    (hmirrors : (treeAt a out).Mirrors d home s.analyzer.previous.tree) :
    let t := treeAt a out
    let patch := s.analyzer.previous.patch (seen a s.disk)
    match exec build s with
    | (.ok _, s') =>
      (∃ home, t.Mirrors s'.disk home (seen a s.disk).tree) ∧ Follows a out s'
    | (.error e, s') =>
      (a.parser = .error e ∨ Unread a .input (some t) patch s.analyzer.store d e) ∧
        s'.disk.Free out ∧ Follows a out s' := by
  intro t patch
  have hname' : Disk.badName? s.analyzer.input = none := h.alike.input ▸ hname
  have hrun : Tree.Run s.analyzer.previous.tree patch (seen a s.disk).tree :=
    Snapshot.run_patch (Snapshot.rooted_ofDirectory h.wellFormed a.input)
  have hfits : ∀ o ∈ patch, Applies t o := applies_of_mem_patch h.wellFormed out s.analyzer.previous
  have hattempt : attempted s.analyzer (some t) s.disk d =
      attempt a .input (some t) patch s.analyzer.store d := by
    rw [attempted, attempt_congr h.alike, seen_congr h.alike]
  unfold attempt at hattempt
  cases hparser : a.parser with
  | error e =>
    -- the output directory is open, and nothing has been done to it
    rw [hparser] at hattempt
    obtain ⟨s', hexec, hfree, hfollows⟩ :=
      h.build_failed hname' hpath hopen hattempt hmirrors.toStands
    rw [hexec]
    exact ⟨.inl rfl, hfree, hfollows⟩
  | ok b =>
    rw [hparser] at hattempt
    have hout := mirrors_outcomes a .input s.analyzer.store hrun hmirrors hfits
    rcases houtcomes : outcomes a .input (some t) patch s.analyzer.store d with
      ⟨e | ⟨⟩, store, d'⟩
    · rw [houtcomes] at hout
      obtain ⟨s', hexec, hfree, hfollows⟩ :=
        h.build_failed hname' hpath hopen (hattempt.trans houtcomes) hout.1
      rw [hexec]
      exact ⟨.inr hout.2, hfree, hfollows⟩
    · rw [houtcomes] at hout
      obtain ⟨stats, s', hexec, hframe, -, hdisk⟩ :=
        build_done hname' hopen (hattempt.trans houtcomes)
      have hprevious : s'.analyzer.previous = seen a s.disk :=
        hframe.previous.trans (seen_congr h.alike s.disk)
      have hmirrors' : t.Mirrors s'.disk home (seen a s.disk).tree := hdisk ▸ hout
      rw [hexec]
      refine ⟨⟨home, hmirrors'⟩, ?_⟩
      exact {
        alike := (h.alike.trans (noting_alike _ _)).trans hframe.toAlike
        output := hframe.output.trans h.output
        wellFormed := hmirrors'.wellFormed
        tree := .inr ⟨hname, home, hprevious ▸ hmirrors'⟩ }

/-- A build keeps the invariant.  No call on the output tree fails, so a build that fails could
    not list the input directory, set up the parser or read a file; it leaves no output
    directory.  A build that succeeds leaves a mirror of the tree that it saw. -/
theorem Follows.build [Parsers] (h : Follows a out s) {init : List Text} {c : Text}
    (hpath : Path.Resolved out (init ++ [c])) :
    let t := treeAt a out
    let patch := s.analyzer.previous.patch (seen a s.disk)
    ∃ d, s.disk.makeDirs out = .ok d ∧
      (∀ op p store' d', Reaches a .input (some t) patch s.analyzer.store d (op, p) store' d' →
        ∃ d₁ d₂, before (some t) op p d' = .ok d₁ ∧ after (some t) op p d₁ = .ok d₂) ∧
      match exec build s with
      | (.ok _, s') =>
        (∃ home, t.Mirrors s'.disk home (seen a s.disk).tree) ∧ Follows a out s'
      | (.error e, s') =>
        (Unlisted a e ∨ a.parser = .error e ∨
            Unread a .input (some t) patch s.analyzer.store d e) ∧
          s'.disk.Free out ∧ Follows a out s' := by
  intro t patch
  obtain ⟨d, home, hmake, hopen, hmirrors⟩ := h.opened hpath
  have hrun : Tree.Run s.analyzer.previous.tree patch (seen a s.disk).tree :=
    Snapshot.run_patch (Snapshot.rooted_ofDirectory h.wellFormed a.input)
  have hfits : ∀ o ∈ patch, Applies t o := applies_of_mem_patch h.wellFormed out s.analyzer.previous
  refine ⟨d, hmake, fun _ _ _ _ hreaches => mirrors_reached hreaches hrun hmirrors hfits, ?_⟩
  obtain ⟨e, hunlisted⟩ | hname := unlisted_or_named a
  · rw [build_refused ((unlisted_congr h.alike).mpr hunlisted)]
    exact ⟨.inl hunlisted, h.free_of_unlisted hunlisted, h⟩
  · have hbuild := h.build_listed hname hpath hopen hmirrors
    rcases hexec : exec Act.build s with ⟨e | stats, s'⟩
    · rw [hexec] at hbuild
      exact ⟨.inr hbuild.1, hbuild.2⟩
    · rw [hexec] at hbuild
      exact hbuild

/-! ## Runs -/

/-- The output directory of an analyzer is a resolved path. -/
theorem resolved_of_make {cwd : Text} {package : Package} {input output : Option Text}
    (h : Analyzer.make cwd package input output = .ok a) (hout : a.output = some out) :
    ∃ cs, Path.Resolved out cs := by
  rw [eq_of_make h] at hout
  obtain ⟨given, -, rfl⟩ := Option.map_eq_some_iff.mp hout
  exact Path.resolved_absolute cwd given

/-- An analyzer, a disk for it with a directory and two files, and what a first build makes of
    the disk. -/
def mirrored : Analyzer × Disk × Disk :=
  ({ package :=
      { name := .str "app", root := "/in", extensions := ["js"], parser := .treeSitter
        options := .map [], version := .int 4, treeType := none }
     input := "/in", output := some "/out" },
   ⟨[(["in"], .directory), (["in", "a"], .directory), (["in", "a", "x"], .file [] .zero),
     (["in", "b"], .file [] .zero)]⟩,
   ⟨[(["out", "b"], .link "/in/b"), (["out", "a", "x"], .link "/in/a/x"),
     (["out", "a"], .directory), (["out"], .directory),
     (["in"], .directory), (["in", "a"], .directory), (["in", "a", "x"], .file [] .zero),
     (["in", "b"], .file [] .zero)]⟩)

theorem mirrored_free : mirrored.2.1.Free "/out" := by
  have hresolve : mirrored.2.1.resolve false "/out" = .ok (["out"], none) := rfl
  refine ⟨fun l e heq => ?_, mirrored.2.1.insert ["out"] .directory, rfl⟩
  rw [hresolve] at heq
  cases heq

end ImportScan.Act
