import ImportScan.Proofs.Disk.Resolve
import ImportScan.Proofs.Path.Relative
import ImportScan.Proofs.Tree.Patch
import ImportScan.Tree.Scan

/-! # What a scan finds

    A scan goes down from a directory through directories that are not skipped, and tells of
    each name on the way what its path leads to, so the snapshot of a directory has exactly the
    paths that can be described without the scan.

    * `Snapshot.Entered`           : the way down from a directory is one that a scan takes.
    * `Snapshot.Appears`           : what a scan tells about a path, links followed.
    * `Snapshot.mem_scan_iff`      : what a scan lists.
    * `Snapshot.get?_ofDirectory_iff` : what the snapshot of a directory holds.
    * `Snapshot.get?_ofDirectory_relative` : its paths are relative to the root.
    * `Snapshot.ofDirectory_exact` : the same, and every entry is held by a directory entry.
-/

namespace ImportScan.Snapshot

open ImportScan.Path (slash)

variable {d : Disk} {n : Nat} {dir l : Location} {cs : List Text} {q root name : Text}
variable {status : Status}

/-! ## Snapshots of lists -/

/-- The last entry of a list decides about its own path. -/
theorem get?_ofEntries_concat (es : List (Text × Status)) (e : Text × Status) (p : Text) :
    (ofEntries (es ++ [e])).get? p = if p = e.1 then some e.2 else (ofEntries es).get? p := by
  unfold ofEntries Snapshot.get?
  rw [List.foldl_append]
  exact Table.get?_put _ _ _ _

theorem mem_of_get?_ofEntries {es : List (Text × Status)}
    (h : (ofEntries es).get? q = some status) : (q, status) ∈ es := by
  induction es using List.reverseRecOn with
  | nil => cases h
  | append_singleton es e ih =>
    rw [get?_ofEntries_concat] at h
    split at h
    · next heq =>
      cases h
      simp [heq]
    · exact List.mem_append_left _ (ih h)

/-- Where all entries of a path say the same, the snapshot says it. -/
theorem get?_ofEntries {es : List (Text × Status)} (hmem : (q, status) ∈ es)
    (hsame : ∀ status', (q, status') ∈ es → status' = status) :
    (ofEntries es).get? q = some status := by
  induction es using List.reverseRecOn with
  | nil => cases hmem
  | append_singleton es e ih =>
    rw [get?_ofEntries_concat]
    split
    · next heq => rw [hsame e.2 (by simp [heq])]
    · next hne =>
      refine ih ?_ fun status' h => hsame status' (List.mem_append_left _ h)
      rcases List.mem_append.mp hmem with hmem | hmem
      · exact hmem
      · exact absurd (congrArg Prod.fst (List.mem_singleton.mp hmem)) hne

/-! ## One directory -/

/-- A way down from a directory that a scan takes: along real directories that are not
    skipped. -/
def Entered (d : Disk) (dir : Location) (names : List Text) : Prop :=
  ∀ before x, before ++ [x] <+: names →
    d.get? (dir ++ (before ++ [x])) = some .directory ∧ x ∉ skipped

/-- What a scan tells about a path below its root and behind it the last name of the path, links
    followed: a directory, unless the name is skipped, or a file, whatever its name. -/
def Appears (d : Disk) (root name path : Text) (status : Status) : Prop :=
  d.stat? (Path.join root path) = some .directory ∧ name ∉ skipped ∧ status = .directory ∨
  ∃ content mtime, d.stat? (Path.join root path) = some (.file content mtime) ∧
    status = .file content.length mtime

/-- About a path a scan tells one thing. -/
theorem Appears.unique {status' : Status} (h : Appears d root name q status)
    (h' : Appears d root name q status') : status' = status := by
  obtain ⟨hdir, -, rfl⟩ | ⟨content, mtime, hfile, rfl⟩ := h
  · obtain ⟨-, -, rfl⟩ | ⟨content', mtime', hfile', -⟩ := h'
    · rfl
    · rw [hdir] at hfile'
      cases hfile'
  · obtain ⟨hdir', -⟩ | ⟨content', mtime', hfile', rfl⟩ := h'
    · rw [hfile] at hdir'
      cases hdir'
    · rw [hfile] at hfile'
      cases hfile'
      rfl

theorem entered_nil : Entered d dir [] := by
  intro before x h
  simp at h

theorem entered_cons {names : List Text} :
    Entered d dir (name :: names) ↔
      (d.get? (dir ++ [name]) = some .directory ∧ name ∉ skipped) ∧
        Entered d (dir ++ [name]) names := by
  constructor
  · intro h
    refine ⟨h [] name (by simp), fun before x hpre => ?_⟩
    have hbelow := h (name :: before) x (by simpa using hpre)
    simpa using hbelow
  · rintro ⟨hfirst, hrest⟩ before x hpre
    cases before with
    | nil =>
      obtain rfl : x = name := by simpa using hpre
      exact hfirst
    | cons y before =>
      rw [List.cons_append, List.cons_prefix_cons] at hpre
      obtain ⟨rfl, hpre⟩ := hpre
      simpa using hrest before x hpre

/-- What a scan lists of one directory are its names. -/
theorem mem_listed_iff {path : Text} :
    ((q, status) ∈ (folders d root dir path).map (fun f => (behind path f, .directory)) ∨
      (q, status) ∈ files d root dir path) ↔
      ∃ m, q = behind path m ∧ (∃ e, d.get? (dir ++ [m]) = some e) ∧
        Appears d root m q status := by
  simp only [folders, files, List.mem_map, List.mem_filter, List.mem_filterMap, Disk.mem_names,
    Bool.and_eq_true, Disk.isDirectory, beq_iff_eq, Bool.not_eq_true', List.contains_eq_mem,
    decide_eq_false_iff_not]
  constructor
  · rintro (⟨m, ⟨hthere, hdir, hkept⟩, heq⟩ | ⟨m, hthere, hfile⟩)
    · cases heq
      exact ⟨m, rfl, hthere, .inl ⟨hdir, hkept, rfl⟩⟩
    · split at hfile
      · next content mtime hstat =>
        cases hfile
        exact ⟨m, rfl, hthere, .inr ⟨content, mtime, hstat, rfl⟩⟩
      · cases hfile
  · rintro ⟨m, rfl, hthere, ⟨hdir, hkept, rfl⟩ | ⟨content, mtime, hstat, rfl⟩⟩
    · exact .inl ⟨m, ⟨hthere, hdir, hkept⟩, rfl⟩
    · exact .inr ⟨m, hthere, by rw [hstat]⟩

/-- A name behind the path of a directory is one more component. -/
theorem behind_join (hcs : ∀ c ∈ cs, Disk.ValidName c) (name : Text) :
    behind (Text.join [slash] cs) name = Text.join [slash] (cs ++ [name]) := by
  by_cases hne : cs = []
  · subst hne
    rfl
  · have hjoin : Text.join [slash] cs ≠ [] := by
      intro hnil
      have hsplit := Text.splitOn_join hne fun c hc => (hcs c hc).no_slash
      rw [hnil] at hsplit
      exact (hcs [] (by rw [← hsplit]; exact List.mem_singleton.mpr rfl)).nonempty rfl
    rw [Text.join_snoc hne, behind]
    simp [hjoin]

/-- A name behind the relative path of its directory, which is a dot for the root of the scan. -/
def below (folder name : Text) : Text :=
  if folder = Text.ofString "." ∨ folder = [] then name else folder ++ slash :: name

/-- The path that a scan puts in front of a name is the relative path of the directory to which
    its names lead from the root. -/
theorem behind_eq_below (cwd root : Text) (hcs : ∀ c ∈ cs, Path.Proper c) (name : Text) :
    behind (Text.join [slash] cs) name
      = below (Path.relative cwd (cs.foldl Path.join root) root) name := by
  rw [Path.relative_walk cwd root hcs, behind, below]
  by_cases hne : cs = []
  · subst hne
    rfl
  · have hsplit := Text.splitOn_join hne fun c hc => (hcs c hc).no_slash
    -- the joined names are neither empty nor a dot, since no single name is
    have hnamed : ∀ c : Text, Text.splitOn slash c = [c] → ¬ Path.Proper c →
        Text.join [slash] cs ≠ c := by
      intro c hc hproper hjoin
      rw [hjoin, hc] at hsplit
      exact hproper (hcs c (by rw [← hsplit]; exact List.mem_singleton.mpr rfl))
    have hnil := hnamed [] rfl (by decide)
    have hdot := hnamed (Text.ofString ".") (by decide) (by decide)
    rw [if_neg hne, if_neg (not_or.mpr ⟨hdot, hnil⟩), if_neg (by simpa using hnil)]

/-! ## The whole tree -/

/-- A scan of a directory lists what can be reached in fewer steps than it has fuel, down a way
    that it takes. -/
theorem mem_scan_iff (hd : d.WellFormed) (hroot : d.resolve true root = .ok (l, some .directory))
    (hcs : d.get? (l ++ cs) = some .directory) :
    (q, status) ∈ scan d root n (l ++ cs) (Text.join [slash] cs) ↔
      ∃ rs m, rs.length < n ∧ q = Text.join [slash] (cs ++ (rs ++ [m])) ∧
        Entered d (l ++ cs) rs ∧ (∃ e, d.get? (l ++ cs ++ (rs ++ [m])) = some e) ∧
        Appears d root m q status := by
  -- one directory deeper, the names on the way grow by one
  induction n generalizing cs with
  | zero => simp [scan]
  | succ n ih =>
    have hbehind := behind_join (hd.names hcs)
    have hbelow : ∀ f, d.get? (l ++ cs ++ [f]) = some .directory →
        ((q, status) ∈ scan d root n (l ++ cs ++ [f]) (Text.join [slash] (cs ++ [f])) ↔
          ∃ rs m, rs.length < n ∧ q = Text.join [slash] (cs ++ (f :: rs ++ [m])) ∧
            Entered d (l ++ cs ++ [f]) rs ∧
            (∃ e, d.get? (l ++ cs ++ (f :: rs ++ [m])) = some e) ∧
            Appears d root m q status) := by
      intro f hf
      rw [List.append_assoc] at hf ⊢
      rw [ih hf]
      simp only [List.append_assoc, List.cons_append, List.nil_append]
    rw [scan, List.mem_append, List.mem_append, mem_listed_iff, List.mem_flatMap]
    constructor
    · rintro (⟨m, hq, hthere, happears⟩ | ⟨f, hf, hsub⟩)
      · rw [hbehind] at hq
        exact ⟨[], m, Nat.succ_pos n, hq, entered_nil, hthere, happears⟩
      · rw [List.mem_filter, folders, List.mem_filter] at hf
        simp only [Bool.and_eq_true, Bool.not_eq_true', List.contains_eq_mem,
          decide_eq_false_iff_not, beq_iff_eq] at hf
        obtain ⟨⟨-, -, hkept⟩, hdir⟩ := hf
        rw [hbehind, hbelow f hdir] at hsub
        obtain ⟨rs, m, hlen, hq, hentered, hthere, happears⟩ := hsub
        refine ⟨f :: rs, m, Nat.succ_lt_succ hlen, hq, ?_, hthere, happears⟩
        exact entered_cons.mpr ⟨⟨hdir, hkept⟩, hentered⟩
    · rintro ⟨rs, m, hlen, hq, hentered, hthere, happears⟩
      cases rs with
      | nil => exact .inl ⟨m, (hbehind m).symm ▸ hq, hthere, happears⟩
      | cons f rs =>
        obtain ⟨⟨hdir, hkept⟩, hentered⟩ := entered_cons.mp hentered
        refine .inr ⟨f, ?_, ?_⟩
        · -- a real directory is one for whoever follows links, too
          have hbelow : d.get? (l ++ (cs ++ [f])) = some .directory := by
            rwa [← List.append_assoc]
          have hstat := Disk.stat?_join_of_directory hd hroot (by simp) hbelow
          rw [List.mem_filter, folders, List.mem_filter, Disk.mem_names, hbehind,
            Disk.isDirectory, hstat, hdir]
          simp [hkept]
        · rw [hbehind, hbelow f hdir]
          exact ⟨rs, m, Nat.lt_of_succ_lt_succ hlen, hq, hentered, hthere, happears⟩

/-- The snapshot of a directory holds the paths that are there, down a way that a scan takes,
    with what it tells about them. -/
theorem get?_ofDirectory_iff (hd : d.WellFormed) :
    (ofDirectory d root).get? q = some status ↔
      ∃ l above name, d.resolve true root = .ok (l, some .directory) ∧
        q.splitOn slash = above ++ [name] ∧ Entered d l above ∧
        (∃ e, d.get? (l ++ (above ++ [name])) = some e) ∧ Appears d root name q status := by
  have hscan : ∀ {l}, d.resolve true root = .ok (l, some .directory) → ∀ {status},
      (q, status) ∈ scan d root (d.entries.length + 1) l [] ↔
        ∃ above name, q.splitOn slash = above ++ [name] ∧ Entered d l above ∧
          (∃ e, d.get? (l ++ (above ++ [name])) = some e) ∧ Appears d root name q status := by
    intro l hroot status
    have hl : d.get? (l ++ []) = some .directory := by
      rw [List.append_nil]
      obtain ⟨k, hleads⟩ := Disk.leads_of_resolve_directory hroot
      exact hleads.directory hd rfl
    have hmem : (q, status) ∈ scan d root (d.entries.length + 1) (l ++ []) (Text.join [slash] []) ↔
        _ := mem_scan_iff hd hroot hl
    simp only [List.append_nil, List.nil_append] at hmem
    refine hmem.trans ?_
    constructor
    · rintro ⟨above, name, -, rfl, hentered, ⟨e, he⟩, happears⟩
      refine ⟨above, name, ?_, hentered, ⟨e, he⟩, happears⟩
      exact Text.splitOn_join (by simp) fun x hx => (hd.names he x hx).no_slash
    · rintro ⟨above, name, hsplit, hentered, ⟨e, he⟩, happears⟩
      -- a path is no longer than there are entries, so the fuel is enough
      have hlen := hd.length_le he
      rw [List.length_append, List.length_singleton] at hlen
      refine ⟨above, name, by omega, ?_, hentered, ⟨e, he⟩, happears⟩
      rw [← hsplit, Text.join_splitOn]
  unfold ofDirectory
  split
  · next l hroot =>
    constructor
    · intro h
      obtain ⟨above, name, hlisted⟩ := (hscan hroot).mp (mem_of_get?_ofEntries h)
      exact ⟨l, above, name, hroot, hlisted⟩
    · rintro ⟨l', above, name, hroot', hsplit, hentered, hthere, happears⟩
      rw [hroot] at hroot'
      cases hroot'
      refine get?_ofEntries ((hscan hroot).mpr ⟨above, name, hsplit, hentered, hthere, happears⟩) ?_
      intro status' hstatus'
      obtain ⟨above', name', hsplit', -, -, happears'⟩ := (hscan hroot).mp hstatus'
      -- the path has one last name
      obtain ⟨-, rfl⟩ := List.append_inj' (hsplit.symm.trans hsplit') rfl |>.imp id
        List.singleton_inj.mp
      exact happears.unique happears'
  · next hnot =>
    constructor
    · intro h
      cases h
    · rintro ⟨l, -, -, hroot, -⟩
      exact absurd hroot (hnot l)

/-- The paths of the snapshot are relative to the root of the scan: each is a name behind the
    relative path of the directory to which the names on the way lead. -/
theorem get?_ofDirectory_relative (hd : d.WellFormed) (cwd : Text)
    (h : (ofDirectory d root).get? q = some status) :
    ∃ l above name, d.resolve true root = .ok (l, some .directory) ∧ Entered d l above ∧
      q = below (Path.relative cwd (above.foldl Path.join root) root) name := by
  obtain ⟨l, above, name, hroot, hsplit, hentered, ⟨e, he⟩, -⟩ := (get?_ofDirectory_iff hd).mp h
  have hvalid : ∀ c ∈ above, Disk.ValidName c := fun c hc =>
    hd.names he c (List.mem_append_left _ hc)
  refine ⟨l, above, name, hroot, hentered, ?_⟩
  rw [← behind_eq_below cwd root fun c hc => (hvalid c hc).toProper, behind_join hvalid, ← hsplit,
    Text.join_splitOn]

/-- The snapshot of a directory can be taken. -/
theorem take_of_resolve (hroot : d.resolve true root = .ok (l, some .directory)) :
    take d root = .ok (ofDirectory d root) := by
  rw [take, Disk.good_of_resolve hroot]

/-- What holds an entry of the snapshot is the root or an entry, too. -/
theorem get?_holder (hd : d.WellFormed) (h : (ofDirectory d root).get? q = some status)
    {dir : Text} (hdir : Path.holder? q = some dir) :
    (ofDirectory d root).get? dir = some .directory := by
  obtain ⟨l, above, name, hroot, hsplit, hentered, -, -⟩ := (get?_ofDirectory_iff hd).mp h
  obtain rfl | ⟨init, last, rfl⟩ := List.eq_nil_or_concat above
  · simp [Path.holder?, hsplit] at hdir
  · -- the way to the entry was entered at its last directory, too
    rw [List.concat_eq_append] at hsplit hentered
    have hholder := Path.holder?_eq hsplit (by simp)
    obtain rfl := Option.some.inj (hdir.symm.trans hholder)
    obtain ⟨hlast, hkept⟩ := hentered init last (List.prefix_refl _)
    refine (get?_ofDirectory_iff hd).mpr ⟨l, init, last, hroot,
      Path.splitOn_holder hsplit (by simp), ?_, ⟨_, hlast⟩, .inl ⟨?_, hkept, rfl⟩⟩
    · exact fun before x hpre => hentered before x (hpre.trans (List.prefix_append _ _))
    · exact Disk.stat?_join_of_directory hd hroot (by simp) hlast

/-- The snapshot of a directory holds paths whose components are names, and with a path the
    directory that holds it.  The path of a directory that holds anything is good. -/
theorem ofDirectory_spec (hd : d.WellFormed) (h : (ofDirectory d root).get? q = some status) :
    (∀ x ∈ q.splitOn slash, Disk.ValidName x) ∧ (ofDirectory d root).tree.Holds q ∧
      Disk.badName? root = none := by
  obtain ⟨l, above, name, hroot, hsplit, -, ⟨e, he⟩, -⟩ := (get?_ofDirectory_iff hd).mp h
  refine ⟨?_, fun dir hdir => tree_eq_some (get?_holder hd h hdir), Disk.good_of_resolve hroot⟩
  rw [hsplit]
  exact hd.names he

/-- The snapshot of a directory is rooted. -/
theorem rooted_ofDirectory (hd : d.WellFormed) (root : Text) : (ofDirectory d root).Rooted :=
  fun _ _ h => (ofDirectory_spec hd h).2.1

/-- The snapshot of a directory has an entry for a path exactly if every directory before its last
    name is a real one that is not skipped, and the path, links followed, is a directory whose
    name is not skipped, which is then noted as a directory, or a file, which is noted with its
    size and modification time.  So what holds an entry is the root or a directory entry.  Of a
    path that does not lead to a directory the snapshot is empty. -/
theorem ofDirectory_exact (hd : d.WellFormed) (root : Text) :
    let snapshot := ofDirectory d root
    (∀ p status, snapshot.get? p = some status ↔
      ∃ l above name, d.resolve true root = .ok (l, some .directory) ∧
        p.splitOn slash = above ++ [name] ∧ Entered d l above ∧
        (∃ e, d.get? (l ++ (above ++ [name])) = some e) ∧ Appears d root name p status) ∧
    ∀ p status dir, snapshot.get? p = some status → Path.holder? p = some dir →
      snapshot.get? dir = some .directory :=
  ⟨fun _ _ => get?_ofDirectory_iff hd, fun _ _ _ h hdir => get?_holder hd h hdir⟩

/-- A disk with links to a directory, to a file, to nothing and in place of a directory that is
    skipped, and with a file and a directory that have skipped names. -/
def linked : Disk :=
  ⟨[(["r"], .directory), (["r", "lib"], .directory), (["r", "lib", "b.js"], .file [59] .zero),
    (["r", "lib", ".git"], .file [49, 50] .zero), (["r", ".git"], .directory),
    (["r", ".git", "c.js"], .file [59] .zero), (["r", "out"], .link "lib"),
    (["r", "a.js"], .link "lib/b.js"), (["r", "gone"], .link "nowhere"),
    (["r", ".cache"], .link "lib")]⟩

theorem ofDirectory_exact_linked :
    linked.WellFormed ∧
    (ofDirectory linked "/r").table.keys =
      (["lib", "out", "a.js", "lib/.git", "lib/b.js"] : List Text) ∧
    (ofDirectory linked "/r").get? "lib/.git" = some (.file 2 .zero) ∧
    (ofDirectory linked "/r").get? "out" = some .directory ∧
    ∀ status, (ofDirectory linked "/r").get? "out/b.js" ≠ some status := by
  have hd : linked.WellFormed := by decide +kernel
  have hroot : linked.resolve true "/r" = .ok ((["r"] : List Text), some .directory) := by cbv
  obtain ⟨hexact, -⟩ := ofDirectory_exact hd "/r"
  refine ⟨hd, by cbv, ?_, ?_, ?_⟩
  · refine (hexact _ _).mpr ⟨_, ["lib"], ".git", hroot, by decide, ?_, ?_, ?_⟩
    · exact entered_cons.mpr ⟨by decide, entered_nil⟩
    · exact ⟨.file [49, 50] .zero, by decide⟩
    · exact .inr ⟨[49, 50], .zero, by decide, rfl⟩
  · refine (hexact _ _).mpr ⟨_, [], "out", hroot, by decide, entered_nil, ?_, ?_⟩
    · exact ⟨.link "lib", by decide⟩
    · exact .inl ⟨by decide, by decide, rfl⟩
  · -- the way leads through a link
    intro status h
    obtain ⟨l, above, name, hroot', hsplit, hentered, -, -⟩ := (hexact _ _).mp h
    rw [hroot] at hroot'
    cases hroot'
    have hnames : Text.splitOn slash "out/b.js" = (["out"] ++ ["b.js"] : List Text) := by decide
    obtain ⟨rfl, -⟩ := List.append_inj' (hnames.symm.trans hsplit) rfl
    exact absurd (hentered [] "out" (by simp)).1 (by decide)

end ImportScan.Snapshot
