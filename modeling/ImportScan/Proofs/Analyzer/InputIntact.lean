import ImportScan.Proofs.Analyzer.Recovery
import ImportScan.Proofs.OutputTree.Local
import ImportScan.Proofs.Tree.Scan

/-! # The input tree is left alone

    Builds and resets change the disk at and below the output directory only, apart from the
    directories above it that they make.  So nothing in the input directory changes, as long as
    neither of the two directories lies in the other and nobody else puts links into the output
    directory.

    * `Clear`    : no link is in the place of a directory of a tree.
    * `Apart`    : the invariant of sessions.
    * `Used`     : sessions that come about by builds and resets.
    * `input_left_alone` : no build and no reset changes anything in the input directory.
-/

namespace ImportScan

open ImportScan.Path (slash)

namespace Act

open OutputTree

variable {a : Analyzer} {sources : Sources} {t : OutputTree} {d d' : Disk} {home : Location}
variable {tree tree' : Tree} {op : Operation} {p : Text} {store : Store} {patch : Patch}

/-! ## Operations and patches -/

theorem before_local (h : Way t d home p) (hcall : before (some t) op p d = .ok d') :
    Local t.input home p d d' := by
  cases op with
  | change => exact h.remove hcall
  | _ =>
    cases hcall
    exact local_refl h.wellFormed

theorem after_local (h : Way t d home p) (hcall : after (some t) op p d = .ok d') :
    Local t.input home p d d' ∧ (op = .mkdir → d'.Unlinked (home ++ p.splitOn slash)) := by
  cases op with
  | unlink => exact ⟨h.unlink hcall, nofun⟩
  | rmdir => exact ⟨h.rmdir hcall, nofun⟩
  | mkdir =>
    obtain ⟨hlocal, hunlinked⟩ := h.mkdir hcall
    exact ⟨hlocal, fun _ => hunlinked⟩
  | change => exact ⟨h.link hcall, nofun⟩
  | create => exact ⟨h.link hcall, nofun⟩

/-- An operation changes the disk at and below the place of its path only, whether it succeeds
    or not. -/
theorem outcome_local [Parsers] (a : Analyzer) (sources : Sources) (op : Operation) (store : Store)
    (h : Way t d home p) :
    let o := outcome a sources (some t) op p store d
    Local t.input home p d o.2.2 ∧
      (o.1 = .ok () → op = .mkdir → o.2.2.Unlinked (home ++ p.splitOn slash)) := by
  unfold outcome
  cases hbefore : before (some t) op p d with
  | error e => exact ⟨local_refl h.wellFormed, nofun⟩
  | ok d₁ =>
    have hfirst := before_local h hbefore
    simp only [settle]
    cases absorb (a.package.tracks p) (recordsAt a sources d₁ p) op p store with
    | error e => exact ⟨hfirst, nofun⟩
    | ok store' =>
      simp only
      cases hafter : after (some t) op p d₁ with
      | error e => exact ⟨hfirst, nofun⟩
      | ok d₂ =>
        obtain ⟨hlast, hunlinked⟩ := after_local (h.after hfirst) hafter
        exact ⟨hfirst.trans hlast, fun _ => hunlinked⟩

/-- No link is in the place of a directory of a tree. -/
def Clear (home : Location) (tree : Tree) (d : Disk) : Prop :=
  ∀ q, tree q = some .directory → d.Unlinked (home ++ q.splitOn slash)

/-- Through the directories of a tree no link diverts the way to what they hold. -/
theorem Clear.way (h : Clear home tree d) (hbased : Based t home) (hd : Tidy t.input home d)
    (hrooted : tree.Rooted) (hholds : tree.Holds p)
    (hproper : ∀ n ∈ p.splitOn slash, Path.Proper n) : Way t d home p := by
  refine ⟨hd, hbased, hproper, fun r hr => ?_⟩
  obtain ⟨rs, m, hsplit⟩ := exists_splitOn p
  rw [hsplit, List.dropLast_concat] at hr
  have hslash : ∀ n ∈ rs, slash ∉ n := fun n hn => (hproper n (by simp [hsplit, hn])).no_slash
  have hdirs := hrooted.above hslash fun hne => hholds _ (Path.holder?_eq hsplit hne)
  rcases List.prefix_or_prefix_of_prefix hr (List.prefix_append home rs) with habove | ⟨q, rfl⟩
  · exact hd.straight r habove
  · by_cases hq : q = []
    · rw [hq, List.append_nil]
      exact hd.straight home (List.prefix_refl _)
    · have hpre : q <+: rs := (List.prefix_append_right_inj home).mp hr
      have hunlinked := h _ (hdirs q hq hpre)
      rwa [Text.splitOn_join hq fun n hn => hslash n (hpre.subset hn)] at hunlinked

/-- Only one operation makes a directory, and none changes another path. -/
theorem step_directory (hstep : Tree.Step tree (op, p) tree') {q : Text}
    (hq : tree' q = some .directory) : q = p ∧ op = .mkdir ∨ q ≠ p ∧ tree q = some .directory := by
  by_cases heq : q = p
  · subst heq
    cases hstep with
    | unlink => simp at hq
    | rmdir => simp at hq
    | mkdir => exact .inl ⟨rfl, rfl⟩
    | create => simp at hq
    | change hp =>
      rw [hp] at hq
      cases hq
  · refine .inr ⟨heq, ?_⟩
    cases hstep <;> simpa [Function.update_of_ne heq] using hq

theorem Clear.step (h : Clear home tree d) (hstep : Tree.Step tree (op, p) tree')
    (hlocal : Local t.input home p d d')
    (hmkdir : op = .mkdir → d'.Unlinked (home ++ p.splitOn slash)) : Clear home tree' d' := by
  intro q hq target hlink
  obtain ⟨rfl, rfl⟩ | ⟨hne, hdir⟩ := step_directory hstep hq
  · exact hmkdir rfl target hlink
  · rcases hlocal.links _ _ hlink with hlink | ⟨hplace, -⟩
    · exact h q hdir target hlink
    · exact hne (place_inj hplace)

/-- A patch whose operations have their preconditions keeps the disk tidy and changes it below
    the output directory only, whether it succeeds or not. -/
theorem outcomes_tidy [Parsers] (a : Analyzer) (sources : Sources) (store : Store)
    (hbased : Based t home)
    (hrun : Tree.Run tree patch tree') (hrooted : tree.Rooted) (hd : Tidy t.input home d)
    (hclear : Clear home tree d)
    (hproper : ∀ o ∈ patch, ∀ n ∈ o.2.splitOn slash, Path.Proper n) :
    let o := outcomes a sources (some t) patch store d
    Tidy t.input home o.2.2 ∧ (∀ l, ¬ home <+: l → o.2.2.get? l = d.get? l) ∧
      (o.1 = .ok () → Clear home tree' o.2.2) := by
  induction hrun generalizing store d with
  | nil => exact ⟨hd, fun _ _ => rfl, fun _ => hclear⟩
  | @cons tree tree₁ tree' o rest hstep _ ih =>
    obtain ⟨op, p⟩ := o
    obtain ⟨hp, hrest⟩ := List.forall_mem_cons.mp hproper
    have hway := hclear.way hbased hd hrooted (hstep.holds hrooted) hp
    obtain ⟨hlocal, hmkdir⟩ := outcome_local a sources op store hway
    have hbelow : ∀ l, ¬ home <+: l → ¬ home ++ p.splitOn slash <+: l :=
      fun l hl hpre => hl ((List.prefix_append _ _).trans hpre)
    unfold outcomes
    rcases houtcome : outcome a sources (some t) op p store d with ⟨e | ⟨⟩, store₁, d₁⟩
    · rw [houtcome] at hlocal
      refine ⟨hlocal.tidy hd, fun l hl => hlocal.elsewhere l (hbelow l hl), ?_⟩
      intro hok
      cases hok
    · rw [houtcome] at hlocal hmkdir
      obtain ⟨htidy, hsame, hend⟩ := ih store₁ (hstep.rooted hrooted) (hlocal.tidy hd)
        (hclear.step hstep hlocal (hmkdir rfl)) hrest
      exact ⟨htidy, fun l hl => (hsame l hl).trans (hlocal.elsewhere l (hbelow l hl)), hend⟩

/-! ## Sessions -/

section Sessions

variable {out : Text} {s s' : Session}

/-- Disks that differ at most at and below a location, and above it. -/
def Around (home : Location) (d d' : Disk) : Prop :=
  ∀ l, ¬ home <+: l → ¬ l <+: home → d'.get? l = d.get? l

/-- The disk is tidy, and no link is in the place of a directory of the tree that the last
    build saw, if there was one. -/
structure Apart (a : Analyzer) (home : Location) (s : Session) : Prop extends Same a s where
  tidy : Tidy a.input home s.disk
  tree : s.analyzer.previous = {} ∨ ∃ d, d.WellFormed ∧ s.analyzer.previous = seen a d
  clear : Clear home s.analyzer.previous.tree s.disk

theorem apart_of_empty (hsame : Same a s) (hprevious : s.analyzer.previous = {})
    (htidy : Tidy a.input home s.disk) : Apart a home s := by
  refine ⟨hsame, htidy, .inl hprevious, fun q hq => ?_⟩
  rw [hprevious] at hq
  cases hq

/-- The paths of the last tree are names between slashes, and are held by directories. -/
theorem Apart.previous (h : Apart a home s) :
    s.analyzer.previous.tree.Rooted ∧
      ∀ q status, s.analyzer.previous.get? q = some status → ∀ n ∈ q.splitOn slash, Path.Proper n := by
  obtain hempty | ⟨d, hd, hseen⟩ := h.tree
  · rw [hempty]
    exact ⟨(fun q k hq => nomatch hq), (fun q status hq => nomatch hq)⟩
  · rw [hseen]
    have hrooted : (seen a d).Rooted := Snapshot.rooted_ofDirectory hd a.input
    exact ⟨fun q k hq => hrooted.holds hq,
      fun q status hq n hn => ((Snapshot.ofDirectory_spec hd hq).1 n hn).toProper⟩

/-- The paths of a patch are names between slashes. -/
theorem Apart.proper (h : Apart a home s) :
    ∀ o ∈ s.analyzer.previous.patch (seen a s.disk), ∀ n ∈ o.2.splitOn slash, Path.Proper n := by
  rintro ⟨op, q⟩ ho
  rcases List.mem_append.mp ho with ho | ho
  · obtain ⟨old, hold, -⟩ := Snapshot.mem_removals_iff.mp ho
    exact h.previous.2 q old hold
  · obtain ⟨new, hnew, -⟩ := Snapshot.mem_additions_iff.mp ho
    exact fun n hn => ((Snapshot.ofDirectory_spec h.tidy.wellFormed hnew).1 n hn).toProper

/-- Removing the output directory leaves a tidy disk that is the same elsewhere. -/
theorem cleared_tidy {input : Text} {init : List Text} {c : Text}
    (hpath : Path.Resolved out (init ++ [c])) (hd : Tidy input (init ++ [c]) d)
    (h : cleared (some out) d = .ok d') :
    Tidy input (init ++ [c]) d' ∧ ∀ l, ¬ init ++ [c] <+: l → d'.get? l = d.get? l := by
  unfold cleared at h
  simp only at h
  split at h
  · obtain ⟨⟨l, e⟩, hlocate, hcall⟩ := bind_eq_ok.mp h
    obtain ⟨rfl, rfl, -⟩ := Disk.resolve_spelled hd.wellFormed hpath.spells
      (hd.straight.of_prefix (List.prefix_append _ _)) (Disk.locate_eq_ok.mp hlocate)
    have hget := d.get?_eraseTree (l := init ++ [c]) (by simp)
    split at hcall
    · cases hcall
    · next heq =>
      obtain ⟨rfl, -⟩ := Prod.mk.inj heq
      cases hcall
      refine ⟨⟨hd.wellFormed.eraseTree (by simp), fun r hr target hlink => ?_,
        fun l target hl hlink => ?_⟩, fun l hl => by rw [hget, if_neg hl]⟩
      · rw [hget] at hlink
        split at hlink
        · cases hlink
        · exact hd.straight r hr target hlink
      · rw [hget, if_pos hl] at hlink
        cases hlink
    · cases hcall
    · cases hcall
  · cases h
    exact ⟨hd, fun _ _ => rfl⟩

theorem Apart.reset {init : List Text} {c : Text} (hout : a.output = some out)
    (hpath : Path.Resolved out (init ++ [c])) (h : Apart a (init ++ [c]) s) :
    Apart a (init ++ [c]) (exec reset s).2 ∧
      Around (init ++ [c]) s.disk (exec reset s).2.disk := by
  have hsame := h.toSame.reset
  rw [exec_reset, h.output, hout] at hsame ⊢
  cases hcleared : cleared (some out) s.disk with
  | error e =>
    rw [hcleared] at hsame
    exact ⟨apart_of_empty hsame rfl h.tidy, fun _ _ _ => rfl⟩
  | ok d =>
    rw [hcleared] at hsame
    obtain ⟨htidy, helse⟩ := cleared_tidy hpath h.tidy hcleared
    exact ⟨apart_of_empty hsame rfl htidy, fun l hl _ => helse l hl⟩

/-- Directories that are made on the way to the output directory do not matter. -/
theorem tidy_of_paved {input : Text} (hd : Tidy input home d) (h : Disk.Paved d d' home) :
    Tidy input home d' ∧ ∀ l target, d'.get? l = some (.link target) →
      d.get? l = some (.link target) := by
  have hlinks : ∀ l target, d'.get? l = some (.link target) → d.get? l = some (.link target) := by
    intro l target hlink
    rcases h.entry l with heq | ⟨-, hdir⟩
    · rwa [heq] at hlink
    · rw [hlink] at hdir
      cases hdir
  exact ⟨⟨h.wellFormed, h.straight hd.straight, fun l target hl hlink =>
    hd.links l target hl (hlinks l target hlink)⟩, hlinks⟩

theorem around_of_paved (h : Disk.Paved d d' home) : Around home d d' := fun l _ habove =>
  (h.entry l).resolve_right fun hadded => habove hadded.1

/-- A build that cannot open the output tree has made some of the directories on the way to its
    root.  Nothing is below the output directory then, for it is not there. -/
theorem Apart.unopened [Parsers] {init : List Text} {c : Text} {e : Fault}
    (hout : a.output = some out)
    (hpath : Path.Resolved out (init ++ [c])) (h : Apart a (init ++ [c]) s)
    (hname : Disk.badName? s.analyzer.input = none)
    (hopen : opened s.analyzer s.disk = .error e) :
    Apart a (init ++ [c]) (exec build s).2 ∧
      Around (init ++ [c]) s.disk (exec build s).2.disk := by
  obtain ⟨out', hout', hdirs⟩ := opened_eq_error.mp hopen
  obtain ⟨log, hexec⟩ := build_unopened hname hout' hdirs
  rw [h.output, hout] at hout'
  cases hout'
  have hmissing : s.disk.get? (init ++ [c]) ≠ some .directory := by
    intro hdir
    have hstands := Disk.stands_of_directory h.tidy.wellFormed hpath hdir
    rw [Disk.makeDirs_of_stands hstands hpath] at hdirs
    cases hdirs
  have hpaved := Disk.paved_spec h.tidy.wellFormed hpath
    (h.tidy.straight.of_prefix (List.prefix_append _ _))
  obtain ⟨htidy, hlinks⟩ := tidy_of_paved h.tidy hpaved
  have hnoted : seen s.analyzer s.disk = seen a s.disk := seen_congr h.toAlike s.disk
  rw [hexec]
  refine ⟨⟨(h.toSame.noting s.disk).of_analyzer rfl, htidy,
    .inr ⟨s.disk, h.tidy.wellFormed, hnoted⟩, fun q _ target hlink => ?_⟩, around_of_paved hpaved⟩
  -- a link there would have been there before
  have hbefore := hlinks _ _ hlink
  rw [h.tidy.wellFormed.below (Text.splitOn_ne_nil slash q) hmissing] at hbefore
  cases hbefore

theorem opened_eq_ok {tree : Option OutputTree} (hout : a.output = some out)
    (h : opened a d = .ok (tree, d')) :
    tree = some ⟨a.input, out, true⟩ ∧ d.makeDirs out = .ok d' := by
  unfold opened at h
  simp only [hout, OutputTree.make] at h
  cases hmake : d.makeDirs out with
  | error e => simp [hmake, bind, Except.bind] at h
  | ok d₁ =>
    simp only [hmake, bind, Except.bind, pure, Except.pure, Except.ok.injEq, Prod.mk.injEq] at h
    exact ⟨h.1.symm, by rw [h.2]⟩

/-- Applying the patch of a build to a disk with an open output tree. -/
theorem Apart.attempted [Parsers] (hbased : Based ⟨a.input, out, true⟩ home) (h : Apart a home s)
    (hpaved : Disk.Paved s.disk d home) :
    let o := Act.attempted s.analyzer (some ⟨a.input, out, true⟩) s.disk d
    Tidy a.input home o.2.2 ∧ (∀ l, ¬ home <+: l → o.2.2.get? l = d.get? l) ∧
      (o.1 = .ok () → Clear home (seen a s.disk).tree o.2.2) := by
  obtain ⟨htidy, hlinks⟩ := tidy_of_paved h.tidy hpaved
  have hclear : Clear home s.analyzer.previous.tree d :=
    fun q hq target hlink => h.clear q hq target (hlinks _ _ hlink)
  unfold Act.attempted
  rw [attempt_congr h.toAlike, seen_congr h.toAlike]
  unfold attempt
  cases a.parser with
  | error e => exact ⟨htidy, fun _ _ => rfl, nofun⟩
  | ok b =>
    have hrooted := Snapshot.rooted_ofDirectory h.tidy.wellFormed a.input
    exact outcomes_tidy a .input s.analyzer.store hbased (Snapshot.run_patch hrooted) h.previous.1
      htidy hclear h.proper

/-- A build that fails with its output tree open removes what the patch has done, if it can. -/
theorem Apart.failed [Parsers] {init : List Text} {c : Text} {tree : Option OutputTree} {e : Fault}
    {store : Store} (hout : a.output = some out) (hpath : Path.Resolved out (init ++ [c]))
    (h : Apart a (init ++ [c]) s) (hname : Disk.badName? s.analyzer.input = none)
    (hopen : opened s.analyzer s.disk = .ok (tree, d))
    (hattempt : Act.attempted s.analyzer tree s.disk d = (.error e, store, d'))
    (htidy : Tidy a.input (init ++ [c]) d') :
    Apart a (init ++ [c]) (exec build s).2 ∧
      ∀ l, ¬ init ++ [c] <+: l → (exec build s).2.disk.get? l = d'.get? l := by
  obtain ⟨e', s', hexec, hframe, -, hleft⟩ := build_failed hname hopen hattempt
  have hsame : Same a s' := h.toSame.forget.frame hframe
  have hprevious : s'.analyzer.previous = {} := hframe.previous
  rw [hexec]
  rw [h.output, hout] at hleft
  suffices hend : Tidy a.input (init ++ [c]) s'.disk ∧
      ∀ l, ¬ init ++ [c] <+: l → s'.disk.get? l = d'.get? l from
    ⟨apart_of_empty hsame hprevious hend.1, hend.2⟩
  cases hcleared : cleared (some out) d' with
  | error e'' =>
    rw [hcleared] at hleft
    obtain ⟨-, hdisk⟩ := Prod.mk.inj hleft
    rw [hdisk]
    exact ⟨htidy, fun _ _ => rfl⟩
  | ok d'' =>
    rw [hcleared] at hleft
    obtain ⟨-, hdisk⟩ := Prod.mk.inj hleft
    rw [hdisk]
    exact cleared_tidy hpath htidy hcleared

/-- A build that succeeds leaves the disk as the patch has left it. -/
theorem Apart.done [Parsers] {tree : Option OutputTree} {store : Store} (h : Apart a home s)
    (hname : Disk.badName? s.analyzer.input = none)
    (hopen : opened s.analyzer s.disk = .ok (tree, d))
    (hattempt : Act.attempted s.analyzer tree s.disk d = (.ok (), store, d'))
    (htidy : Tidy a.input home d') (hclear : Clear home (seen a s.disk).tree d') :
    Apart a home (exec build s).2 ∧ (exec build s).2.disk = d' := by
  obtain ⟨stats, s', hexec, hframe, -, rfl⟩ := build_done hname hopen hattempt
  have hprevious : s'.analyzer.previous = seen a s.disk :=
    hframe.previous.trans (seen_congr h.toAlike s.disk)
  rw [hexec]
  refine ⟨⟨(h.toSame.noting s.disk).frame hframe, htidy,
    .inr ⟨s.disk, h.tidy.wellFormed, hprevious⟩, ?_⟩, rfl⟩
  rw [hprevious]
  exact hclear

/-- A build keeps the disk tidy, and changes it at, below and above the output directory only,
    whether it succeeds or not. -/
theorem Apart.build [Parsers] {init : List Text} {c : Text} (habs : Path.isAbsolute a.input = true)
    (hout : a.output = some out) (hpath : Path.Resolved out (init ++ [c]))
    (h : Apart a (init ++ [c]) s) :
    Apart a (init ++ [c]) (exec build s).2 ∧
      Around (init ++ [c]) s.disk (exec build s).2.disk := by
  obtain ⟨e, hunlisted⟩ | hname := unlisted_or_named s.analyzer
  · -- where the input directory cannot be listed, nothing is done
    rw [build_refused hunlisted]
    exact ⟨h, fun _ _ _ => rfl⟩
  cases hopen : opened s.analyzer s.disk with
  | error e => exact h.unopened hout hpath hname hopen
  | ok place =>
    obtain ⟨tree, d⟩ := place
    obtain ⟨rfl, hmake⟩ := opened_eq_ok (h.output.trans hout) hopen
    rw [h.input] at hopen
    have hpaved := Disk.makeDirs_spec h.tidy.wellFormed hpath
      (h.tidy.straight.of_prefix (List.prefix_append _ _)) hmake
    have hopened := around_of_paved hpaved
    obtain ⟨htidy, hbelow, hclear⟩ := h.attempted ⟨habs, init, c, rfl, hpath⟩ hpaved
    rcases hattempt : Act.attempted s.analyzer (some ⟨a.input, out, true⟩) s.disk d with
      ⟨e | ⟨⟩, store, d'⟩
    · rw [hattempt] at htidy hbelow
      obtain ⟨hapart, hend⟩ := h.failed hout hpath hname hopen hattempt htidy
      exact ⟨hapart, fun l hl habove =>
        ((hend l hl).trans (hbelow l hl)).trans (hopened l hl habove)⟩
    · rw [hattempt] at htidy hbelow hclear
      obtain ⟨hapart, hdisk⟩ := h.done hname hopen hattempt htidy (hclear rfl)
      refine ⟨hapart, fun l hl habove => ?_⟩
      rw [hdisk]
      exact (hbelow l hl).trans (hopened l hl habove)

/-! ## Without an output tree -/

theorem build_without_output [Parsers] (hout : s.analyzer.output = none) :
    (exec build s).2.disk = s.disk := by
  obtain ⟨e, hunlisted⟩ | hname := unlisted_or_named s.analyzer
  · rw [build_refused hunlisted]
  have hopen : opened s.analyzer s.disk = .ok (none, s.disk) := by rw [opened, hout]
  have hdisk : (Act.attempted s.analyzer none s.disk s.disk).2.2 = s.disk := by
    unfold Act.attempted attempt
    cases s.analyzer.parser with
    | error e => rfl
    | ok b => exact outcomes_none _ _ _ _ _
  rcases hattempt : Act.attempted s.analyzer none s.disk s.disk with ⟨e | ⟨⟩, store, d'⟩
  · obtain ⟨e', s', hexec, -, -, hleft⟩ := build_failed hname hopen hattempt
    rw [hattempt] at hdisk
    rw [hout, cleared] at hleft
    rw [hexec]
    exact (Prod.mk.inj hleft).2.trans hdisk
  · obtain ⟨stats, s', hexec, -, -, rfl⟩ := build_done hname hopen hattempt
    rw [hattempt] at hdisk
    rw [hexec]
    exact hdisk

theorem reset_without_output (hout : s.analyzer.output = none) :
    (exec reset s).2.disk = s.disk := by
  rw [exec_reset, hout, cleared]

end Sessions

/-! ## Runs -/

/-- Sessions of an analyzer from a disk on, with builds and resets.  Between them others may
    change the disk, as far as `change` allows. -/
inductive Used [Parsers] (a : Analyzer) (d₀ : Disk)
    (change : Disk → Disk → Prop) : Session → Prop where
  /-- Nothing has happened. -/
  | start : Used a d₀ change ⟨a, d₀, [], []⟩
  /-- Others have changed the disk. -/
  | change {s : Session} (d : Disk) : Used a d₀ change s → change s.disk d →
      Used a d₀ change { s with disk := d }
  /-- A build was made, which may have failed. -/
  | build {s : Session} : Used a d₀ change s → Used a d₀ change (exec build s).2
  /-- A reset was made, which may have failed. -/
  | reset {s : Session} : Used a d₀ change s → Used a d₀ change (exec reset s).2

/-- Changes by others that put no link on the way to a location, or below it. -/
structure Linkless (home : Location) (d d' : Disk) : Prop where
  wellFormed : d'.WellFormed
  straight : d'.Straight home
  links : ∀ l target, home <+: l → d'.get? l = some (.link target) → d.get? l = some (.link target)

section Runs

variable {out : Text} {s : Session} {init : List Text} {c : Text} {d₀ : Disk}

theorem Apart.change (h : Apart a home s) (hchange : Linkless home s.disk d) :
    Apart a home { s with disk := d } where
  toSame := h.toSame.of_analyzer rfl
  tidy := ⟨hchange.wellFormed, hchange.straight, fun l target hl hlink =>
    h.tidy.links l target hl (hchange.links l target hl hlink)⟩
  tree := h.tree
  clear q hq target hlink :=
    h.clear q hq target (hchange.links _ _ (List.prefix_append _ _) hlink)

theorem Used.apart [Parsers] (hnew : a.forget = a) (habs : Path.isAbsolute a.input = true)
    (hout : a.output = some out) (hpath : Path.Resolved out (init ++ [c]))
    (hd₀ : Tidy a.input (init ++ [c]) d₀)
    (h : Used a d₀ (fun d d' => Linkless (init ++ [c]) d d') s) : Apart a (init ++ [c]) s := by
  induction h with
  | start => exact apart_of_empty ⟨⟨rfl, rfl, rfl⟩, rfl⟩ (hnew ▸ rfl) hd₀
  | change d _ hchange ih => exact ih.change hchange
  | build _ ih => exact (ih.build habs hout hpath).1
  | reset _ ih => exact (ih.reset hout hpath).1

theorem Used.output [Parsers] {change : Disk → Disk → Prop} (h : Used a d₀ change s) :
    s.analyzer.output = a.output := by
  have hsame : Same a s := by
    induction h with
    | start => exact ⟨⟨rfl, rfl, rfl⟩, rfl⟩
    | change d _ _ ih => exact ih.of_analyzer rfl
    | build _ ih => exact ih.build
    | reset _ ih => exact ih.reset
  exact hsame.output

theorem Used.mono [Parsers] {change change' : Disk → Disk → Prop} (h : Used a d₀ change s)
    (hchange : ∀ d d', change d d' → change' d d') : Used a d₀ change' s := by
  induction h with
  | start => exact .start
  | change d _ hd ih => exact ih.change d (hchange _ _ hd)
  | build _ ih => exact ih.build
  | reset _ ih => exact ih.reset

/-- The locations of the input and the output directory of an analyzer, if it has one, of which
    the second is not above the first. -/
structure Placed (a : Analyzer) (ins home : Location) : Prop where
  input : Path.Resolved a.input ins
  output : ∀ out, a.output = some out →
    Path.Resolved out home ∧ Path.lead out = Path.lead a.input ∧ ¬ home <+: ins

/-- An analyzer that is made does not have its output directory within its input directory. -/
theorem Placed.apart {cwd : Text} {package : Package} {input output : Option Text}
    {ins : Location} (h : Placed a ins home)
    (hmake : Analyzer.make cwd package input output = .ok a) (hout : a.output = some out) :
    ¬ ins <+: home := by
  intro hpre
  obtain ⟨hpath, hlead, -⟩ := h.output out hout
  have hwithin := Path.isWithin_of_prefix hpath h.input hlead hpre
  unfold Analyzer.make at hmake
  simp only at hmake
  split at hmake
  · cases hmake
    cases hout
  · split at hmake
    · cases hmake
    · next hnot =>
      cases hmake
      cases hout
      exact hnot hwithin

theorem isAbsolute_of_resolved {path : Text} {cs : List Text} (h : Path.Resolved path cs) :
    Path.isAbsolute path = true := by
  rcases h.spelled with rfl | rfl <;> rfl

/-- What builds and resets do around the output directory does not reach the input
    directory. -/
theorem Around.outside {ins l : Location} (h : Around home d d') (hins : ¬ ins <+: home)
    (hhome : ¬ home <+: ins) (hl : ins <+: l) : d'.get? l = d.get? l := by
  refine h l (fun hbelow => ?_) fun habove => hins (hl.trans habove)
  -- of two locations above a third, one is above the other
  rcases List.prefix_or_prefix_of_prefix hbelow hl with hpre | hpre
  · exact hhome hpre
  · exact hins hpre

/-- After every run of builds, resets and changes to the disk by others, neither a build nor a
    reset changes anything at or below the input directory, whether it succeeds or not.  If
    there is an output directory, it must not be above the input directory, must be
    led by as many slashes, and at and below it there must be no links at the start but those of
    an output tree, and no new links of others. -/
theorem input_left_alone [Parsers] {cwd : Text} {package : Package} {input output : Option Text}
    {ins : Location} (hmake : Analyzer.make cwd package input output = .ok a)
    (hplaced : Placed a ins home) (hd₀ : a.output ≠ none → Tidy a.input home d₀)
    (hused : Used a d₀ (fun d d' => a.output ≠ none → Linkless home d d') s) {l : Location}
    (hl : ins <+: l) :
    (exec build s).2.disk.get? l = s.disk.get? l ∧ (exec reset s).2.disk.get? l = s.disk.get? l := by
  cases hout : a.output with
  | none =>
    have hnone := hused.output.trans hout
    rw [build_without_output hnone, reset_without_output hnone]
    exact ⟨rfl, rfl⟩
  | some out =>
    have hsome : a.output ≠ none := by simp [hout]
    obtain ⟨hpath, -, hhome⟩ := hplaced.output out hout
    have hins := hplaced.apart hmake hout
    have hne : home ≠ [] := by
      rintro rfl
      exact hhome (List.nil_prefix)
    obtain ⟨init, c, rfl⟩ := (List.eq_nil_or_concat home).resolve_left hne
    rw [List.concat_eq_append] at *
    have habs := isAbsolute_of_resolved hplaced.input
    have hapart := (hused.mono fun _ _ h => h hsome).apart (make_new hmake) habs hout hpath
      (hd₀ hsome)
    exact ⟨(hapart.build habs hout hpath).2.outside hins hhome hl,
      (hapart.reset hout hpath).2.outside hins hhome hl⟩

theorem tidy_unblocked : Tidy linking.input ["out"] unblocked := by
  have hd : unblocked.WellFormed := by decide +kernel
  have hnone : unblocked.get? ["out"] = none := rfl
  -- nothing is at or below the output directory
  have hfree : ∀ l e, [Text.ofString "out"] <+: l → unblocked.get? l ≠ some e := by
    rintro l e ⟨r, rfl⟩ hget
    by_cases hr : r = []
    · rw [hr, List.append_nil, hnone] at hget
      cases hget
    · rw [hd.below hr (by rw [hnone]; simp)] at hget
      cases hget
  refine ⟨hd, fun r hr target hlink => ?_, fun l target hl hlink => absurd hlink (hfree l _ hl)⟩
  rcases List.prefix_cons_iff.mp hr with rfl | ⟨r', rfl, hr'⟩
  · cases hlink
  · cases List.prefix_nil.mp hr'
    exact hfree _ _ (List.prefix_refl _) hlink

theorem input_left_alone_linking :
    let s := (exec build ⟨linking, unblocked, [], []⟩).2
    ∀ l, [Text.ofString "r"] <+: l →
      (exec build s).2.disk.get? l = s.disk.get? l ∧
        (exec reset s).2.disk.get? l = s.disk.get? l := by
  intro s l hl
  have hmake : Analyzer.make "/" linking.package none (some "out") = .ok linking := rfl
  have hplaced : Placed linking ["r"] ["out"] := by
    refine ⟨⟨by decide, .inl rfl⟩, fun out hout => ?_⟩
    cases hout
    exact ⟨⟨by decide, .inl rfl⟩, rfl, by decide⟩
  exact input_left_alone hmake hplaced (fun _ => tidy_unblocked) (.build .start) hl

/-- An analyzer whose output directory is above its input directory. -/
def enclosed : Analyzer := { linking with input := "/out/r" }

/-- A disk for it, without links. -/
def nested : Disk :=
  ⟨[(["out"], .directory), (["out", "r"], .directory), (["out", "r", "b.js"], .file [] .zero)]⟩

/-- A disk where a link in the output directory leads into the input directory. -/
def diverted : Disk :=
  ⟨[(["r"], .directory), (["r", "b.js"], .file [59] .zero), (["out"], .directory),
    (["out", "b.js"], .link "/r/c.js")]⟩

/-- Analyzers that are made and change their input directory: a reset removes one that is in
    the output directory, and a build writes into one through a link in the output
    directory. -/
theorem input_changes :
    (Analyzer.make "/" linking.package (some "out/r") (some "out") = .ok enclosed ∧
      nested.WellFormed ∧ nested.get? ["out", "r", "b.js"] = some (.file [] .zero) ∧
      (exec reset ⟨enclosed, nested, [], []⟩).2.disk.get? ["out", "r", "b.js"] = none) ∧
    (Analyzer.make "/" linking.package (some "r") (some "out") = .ok linking ∧
      diverted.WellFormed ∧ diverted.get? ["r", "c.js"] = none ∧
      (exec build ⟨linking, diverted, [], []⟩).2.disk.get? ["r", "c.js"] =
        some (.file [59] .zero)) := by
  refine ⟨⟨rfl, ?_, ?_, ?_⟩, rfl, ?_, ?_, ?_⟩ <;> decide +kernel

end Runs

end Act

end ImportScan
