import ImportScan.Disk.Calls
import ImportScan.Proofs.Disk.Resolve
import ImportScan.Proofs.Fault

/-! # Directories that a path stands for

    * `Disk.Absent`       : a path does not lead to anything.
    * `Disk.Stands`       : a path leads to a directory, without passing through it.
    * `makeDirs_of_stands`, `standsEmpty_of_makeDirs` : making a directory that is there does
      nothing, and making one that is not there makes an empty one.
    * `Disk.Ensured`      : what an attempt to make a directory and those above it leaves.
    * `free_of_hangs`     : a directory that was removed can be made again.
-/

namespace ImportScan.Disk

variable {d d' : Disk} {n k : Nat} {path : Text} {cs init : List Text} {c : Text}
variable {here there home : Location} {r : Except Fault Unit}

/-- The path does not lead to anything, not even to a link. -/
def Absent (d : Disk) (path : Text) : Prop := ∀ l e, d.resolve false path ≠ .ok (l, some e)

/-- The path leads to nothing, and a directory can be made there. -/
def Free (d : Disk) (path : Text) : Prop := d.Absent path ∧ ∃ d', d.makeDirs path = .ok d'

/-- The path leads to a directory of a well-formed disk. -/
structure Stands (d : Disk) (path : Text) (home : Location) : Prop where
  wellFormed : d.WellFormed
  hangs : Hangs d path home
  directory : d.get? home = some .directory

/-! ## Resolved paths -/

/-- The empty components at the start of a path do not matter. -/
theorem leads_start {start : List Text} (hstart : ∀ x ∈ start, x = []) :
    Leads d n here (start ++ cs) k there ↔ Leads d n here cs k there := by
  induction start with
  | nil => rfl
  | cons x start ih =>
    obtain ⟨rfl, hrest⟩ := List.forall_mem_cons.mp hstart
    rw [List.cons_append, ← ih hrest]
    constructor
    · rintro (_ | ⟨_, h⟩ | _ | ⟨hc, _, _⟩ | ⟨hc, _, _⟩)
      · exact h
      · exact absurd rfl hc.nonempty
      · exact absurd rfl hc.nonempty
    · exact .stay (.inl rfl)

/-- A resolved path is resolved from where the way to its last name ends. -/
theorem resolve_name (hpath : Path.Resolved path (init ++ [c])) (hgood : badName? path = none)
    (hleads : Leads d 40 [] init k there) (last : Bool) :
    d.resolve last path = descend d last (follow d last k) there [c] := by
  obtain ⟨start, hstart, hsplit⟩ := hpath.splitOn
  rw [resolve_of_good hgood, hsplit, ← List.append_assoc,
    descend_leads ((leads_start hstart).mpr hleads) last (by simp)]

/-- The way to the last name of a resolved path. -/
theorem Hangs.init_leads (h : Hangs d path home) (hpath : Path.Resolved path (init ++ [c])) :
    ∃ k there, Leads d 40 [] init k there ∧ home = there ++ [c] := by
  obtain ⟨cs, c', k, there, hsplit, -, hhome, hleads⟩ := h.leads
  obtain ⟨start, hstart, hsplit'⟩ := hpath.splitOn
  rw [hsplit', ← List.append_assoc] at hsplit
  obtain ⟨rfl, heq⟩ := List.append_inj' hsplit rfl
  cases heq
  exact ⟨k, there, (leads_start hstart).mp hleads, hhome⟩

theorem Stands.leads (h : Stands d path home) (hpath : Path.Resolved path (init ++ [c])) :
    ∃ k, Leads d 40 [] (init ++ [c]) k home := by
  obtain ⟨k, there, hleads, rfl⟩ := h.hangs.init_leads hpath
  have hc := (hpath.proper c (by simp)).toNamed
  exact ⟨k, hleads.append (.down hc h.directory .nil)⟩

/-- With all links followed, a resolved path leads where its names lead. -/
theorem resolve_leads (hpath : Path.Resolved path cs) (hgood : badName? path = none)
    (hleads : Leads d 40 [] cs k there) : d.resolve true path = .ok (there, d.get? there) := by
  obtain ⟨start, hstart, hsplit⟩ := hpath.splitOn
  rw [resolve_of_good hgood, hsplit]
  exact descend_leads_true ((leads_start hstart).mpr hleads)

theorem exists?_leads (hd : d.WellFormed) (hpath : Path.Resolved path cs)
    (hgood : badName? path = none) (hleads : Leads d 40 [] cs k there) : d.exists? path = true := by
  simp [exists?, stat?, resolve_leads hpath hgood hleads, hleads.directory hd rfl]

/-- The directory of a path exists if there is a way to the last name of the path. -/
theorem exists?_parent (hd : d.WellFormed) (hpath : Path.Resolved path (init ++ [c]))
    (hgood : badName? path = none) (hleads : Leads d 40 [] init k there) :
    d.exists? (Path.parent path) = true := by
  refine exists?_leads hd hpath.parent ((badName?_resolved hpath.parent).mpr fun c' hc' => ?_) hleads
  exact (badName?_resolved hpath).mp hgood c' (List.mem_append_left _ hc')

theorem Stands.resolve (h : Stands d path home) :
    d.resolve false path = .ok (home, some .directory) := by
  rw [h.hangs.resolve, h.directory]

theorem Stands.isDirectory (h : Stands d path home) : d.isDirectory path = true := by
  obtain ⟨cs, c, k, there, hsplit, hc, rfl, hleads⟩ := h.hangs.leads
  have hway := hleads.append (.down hc h.directory .nil)
  have hresolve : d.resolve true path = .ok (there ++ [c], d.get? (there ++ [c])) := by
    rw [resolve_of_good h.hangs.good, hsplit]
    exact descend_leads_true hway
  simp [Disk.isDirectory, stat?, hresolve, h.directory]

theorem Stands.removeTree (h : Stands d path home) : d.removeTree path = .ok (d.eraseTree home) := by
  unfold Disk.removeTree locate
  rw [h.resolve]
  rfl

/-! ## Making links -/

/-- A link to a target that can be named is made where nothing is. -/
theorem symlink_of_resolve {target : Text} {l : Location} {e : Option Entry}
    (hgood : badName? target = none) (hne : target ≠ [])
    (h : d.resolve false path = .ok (l, e)) :
    d.symlink target path = e.elim (.ok (d.insert l (.link target)))
      fun _ => .error (.disk .taken target (some path)) := by
  have hlink : badLink? target path = none := by
    rw [badLink?, hgood, good_of_resolve h]
    simp [hne]
  rw [symlink, hlink]
  simp only [h]
  cases e with
  | none => rfl
  | some e => rfl

/-- A link that is made is put where its path leads, and nothing was there. -/
theorem of_symlink {target : Text} (h : d.symlink target path = .ok d') :
    ∃ l, d.resolve false path = .ok (l, none) ∧ d' = d.insert l (.link target) := by
  unfold symlink at h
  split at h
  · cases h
  · split at h
    · cases h
    · cases h
    · next l hresolve =>
      cases h
      exact ⟨l, hresolve, rfl⟩

/-! ## Making directories -/

/-- A directory is made where nothing is, in a directory. -/
theorem mkdir_eq_ok (hpath : Path.Resolved path (init ++ [c])) :
    d.mkdir path = .ok d' ↔
      ∃ l, d.resolve false path = .ok (l, none) ∧ d' = d.insert l .directory := by
  unfold mkdir
  rw [hpath.trimSlashes]
  rcases d.resolve false path with cause | ⟨l, _ | e⟩
  · simp
  · simp [eq_comm]
  · simp

/-- Making directories gives what is left of the attempt, if nothing stopped it. -/
theorem makeDirs_eq_ok :
    d.makeDirs path = .ok d' ↔ d.pave (path.length + 1) path = (.ok (), d') := by
  unfold makeDirs paved
  rcases d.pave (path.length + 1) path with ⟨cause | ⟨⟩, d₁⟩
  · simp
  · simp

/-- Where the directory above is there, only the last one is made. -/
theorem pave_of_parent (hparent : d.exists? (Path.parent path) = true) :
    d.pave (n + 1) path = d.ensure path := by
  unfold pave
  simp only [hparent, Bool.or_true, if_true]

/-- Where the directory above is missing, the last one is made once that is, or if something
    took its place. -/
theorem pave_cases (h : d.pave (n + 1) path = (r, d')) :
    d.ensure path = (r, d') ∨
    (d.exists? (Path.parent path) = false ∧ ∃ r₁ d₁, d.pave n (Path.parent path) = (r₁, d₁) ∧
      (d₁.ensure path = (r, d') ∨ (∃ cause, r₁ = .error cause ∧ r = .error cause ∧ d' = d₁))) := by
  unfold pave at h
  simp only at h
  split at h
  · exact .inl h
  · next hmissing =>
    rw [Bool.not_eq_true, Bool.or_eq_false_iff] at hmissing
    refine .inr ⟨hmissing.2, ?_⟩
    split at h
    · next d₁ habove => exact ⟨_, d₁, habove, .inl h⟩
    · next d₁ habove => exact ⟨_, d₁, habove, .inl h⟩
    · next cause d₁ _ habove =>
      cases h
      exact ⟨_, _, habove, .inr ⟨cause, rfl, rfl, rfl⟩⟩

/-- A directory that is there is left alone. -/
theorem makeDirs_of_stands (h : Stands d path home) (hpath : Path.Resolved path (init ++ [c])) :
    d.makeDirs path = .ok d := by
  obtain ⟨k, there, hleads, -⟩ := h.hangs.init_leads hpath
  rw [makeDirs_eq_ok, pave_of_parent (exists?_parent h.wellFormed hpath h.hangs.good hleads),
    ensure]
  cases hmk : d.mkdir path with
  | error cause => simp [h.isDirectory]
  | ok d' =>
    obtain ⟨l, hresolve, -⟩ := (mkdir_eq_ok hpath).mp hmk
    rw [h.resolve] at hresolve
    cases hresolve

/-- A directory can be made where its path hangs and nothing is. -/
theorem free_of_hangs (hd : d.WellFormed) (h : Hangs d path home) (hnone : d.get? home = none)
    (hpath : Path.Resolved path (init ++ [c])) : Free d path := by
  obtain ⟨k, there, hleads, -⟩ := h.init_leads hpath
  have hresolve := h.resolve
  rw [hnone] at hresolve
  refine ⟨fun l e heq => ?_, d.insert home .directory, ?_⟩
  · rw [hresolve] at heq
    cases heq
  · rw [makeDirs_eq_ok, pave_of_parent (exists?_parent hd hpath h.good hleads), ensure,
      (mkdir_eq_ok hpath).mpr ⟨home, hresolve, rfl⟩]

/-- A directory that was removed can be made again. -/
theorem Stands.free_eraseTree (h : Stands d path home) (hpath : Path.Resolved path (init ++ [c])) :
    Free (d.eraseTree home) path := by
  have hne := h.hangs.ne_nil
  have hhangs : Hangs (d.eraseTree home) path home :=
    h.hangs.congr fun l hl => by rw [get?_eraseTree _ hne, if_neg hl]
  refine free_of_hangs (h.wellFormed.eraseTree hne) hhangs ?_ hpath
  rw [get?_eraseTree _ hne, if_pos (List.prefix_refl _)]

/-- A path stands for a directory that holds nothing. -/
structure StandsEmpty (d : Disk) (path : Text) (home : Location) : Prop
    extends Stands d path home where
  empty : ∀ r, r ≠ [] → d.get? (home ++ r) = none

/-- A directory that was made holds nothing. -/
theorem standsEmpty_of_mkdir (hd : d.WellFormed) (hpath : Path.Resolved path (init ++ [c]))
    (h : d.mkdir path = .ok d') : ∃ home, StandsEmpty d' path home := by
  obtain ⟨home, hresolve, rfl⟩ := (mkdir_eq_ok hpath).mp h
  obtain ⟨hhangs, hnone⟩ := hangs_of_none hd hresolve
  have hne := hhangs.ne_nil
  obtain ⟨k, there, hleads, rfl⟩ := hhangs.init_leads hpath
  have hget := d.get?_insert hne .directory
  have hvalid : ValidName c :=
    ⟨hpath.proper c (by simp), (badName?_resolved hpath).mp hhangs.good c (by simp)⟩
  -- the new directory does not change the way to it, and below it there was nothing
  refine ⟨there ++ [c], ⟨hd.insert hvalid (hleads.directory hd rfl) hnone _, ?_, ?_⟩, ?_⟩
  · refine hhangs.congr fun l hl => ?_
    rw [hget, if_neg]
    rintro rfl
    exact hl (List.prefix_refl _)
  · rw [hget, if_pos rfl]
  · intro r hr
    rw [hget, if_neg (by simpa using hr), hd.below hr (by rw [hnone]; simp)]

/-- In an empty directory no name leads to anything. -/
theorem StandsEmpty.not_isDirectory {home : Location}
    (h : StandsEmpty d (Path.parent path) home) (hpath : Path.Resolved path (init ++ [c]))
    (hinit : init ≠ []) : d.isDirectory path = false := by
  obtain ⟨init, m, rfl⟩ := (List.eq_nil_or_concat init).resolve_left hinit
  rw [List.concat_eq_append] at hpath
  cases hgood : badName? path with
  | some cause => simp [Disk.isDirectory, stat?, Disk.resolve, hgood]
  | none =>
    obtain ⟨k, hleads⟩ := h.toStands.leads hpath.parent
    have hc := (hpath.proper c (by simp)).toNamed
    have hresolve := resolve_name hpath hgood hleads true
    rw [descend_named _ _ hc, h.empty [c] (by simp)] at hresolve
    simp [Disk.isDirectory, stat?, hresolve]

/-- A directory stands in a directory. -/
theorem isDirectory_parent (hd : d.WellFormed) (hpath : Path.Resolved path (init ++ [c]))
    (h : d.isDirectory path = true) : d.isDirectory (Path.parent path) = true := by
  cases hgood : badName? path with
  | some cause => simp [Disk.isDirectory, stat?, Disk.resolve, hgood] at h
  | none =>
    have hgood' : badName? (Path.parent path) = none := (badName?_resolved hpath.parent).mpr
      fun n hn => (badName?_resolved hpath).mp hgood n (List.mem_append_left _ hn)
    obtain ⟨start, hstart, hsplit⟩ := hpath.splitOn
    simp only [Disk.isDirectory, stat?, resolve_of_good hgood, hsplit, ← List.append_assoc] at h
    split at h
    · next heq =>
      -- the names before the last one lead to a directory, which is what the parent leads to
      obtain ⟨k, there, hleads, -⟩ := leads_of_descend heq
      have hway := (leads_start hstart).mp hleads
      have hresolve := resolve_leads hpath.parent hgood' hway
      simp [Disk.isDirectory, stat?, hresolve, hway.directory hd rfl]
    · cases h

/-- What an attempt to make a directory and those above it leaves: the directory was there, or
    it is new and empty, or something stopped the attempt and it is not there. -/
inductive Ensured (d : Disk) (path : Text) : Except Fault Unit → Disk → Prop where
  | there (hd : d.WellFormed) (hdir : d.isDirectory path = true) : Ensured d path (.ok ()) d
  | made {d' : Disk} {home : Location} (h : StandsEmpty d' path home) : Ensured d path (.ok ()) d'
  | stopped {d' : Disk} {e : Fault} (hd : d'.WellFormed) (h : d'.isDirectory path = false) :
      Ensured d path (.error e) d'

theorem Ensured.wellFormed (h : Ensured d path r d') : d'.WellFormed := by
  cases h with
  | there hd _ => exact hd
  | made h => exact h.wellFormed
  | stopped hd _ => exact hd

/-- Making the last directory of a path: it was there, or it is new. -/
theorem ensured_of_ensure (hd : d.WellFormed)
    (hpath : Path.Resolved path (init ++ [c])) (h : d.ensure path = (r, d')) :
    Ensured d path r d' := by
  unfold ensure at h
  split at h
  · next hmk =>
    cases h
    obtain ⟨home, hempty⟩ := standsEmpty_of_mkdir hd hpath hmk
    exact .made hempty
  · cases hdir : d.isDirectory path with
    | true =>
      rw [hdir, if_pos rfl] at h
      cases h
      exact .there hd hdir
    | false =>
      rw [hdir, if_neg Bool.false_ne_true] at h
      cases h
      exact .stopped hd hdir

/-- Making a directory and those above it that are missing: it was there, or it is new, or an
    attempt was stopped. -/
theorem ensured_of_pave (hd : d.WellFormed)
    (hpath : Path.Resolved path (init ++ [c])) (hn : init.length < n)
    (h : d.pave n path = (r, d')) : Ensured d path r d' := by
  induction n generalizing path init c r d' with
  | zero => exact absurd hn (by omega)
  | succ n ih =>
    obtain hlast | ⟨hmissing, r₁, d₁, habove, hlast⟩ := pave_cases h
    · -- the directory above is there
      exact ensured_of_ensure hd hpath hlast
    · -- the root is never missing
      obtain rfl | ⟨init, m, rfl⟩ := List.eq_nil_or_concat init
      · have hroot : d.exists? (Path.parent path) = true :=
          exists?_leads hd hpath.parent ((badName?_resolved hpath.parent).mpr (by simp)) .nil
        rw [hroot] at hmissing
        cases hmissing
      · rw [List.concat_eq_append] at hpath hn
        have hparent := ih hpath.parent (by simp at hn; omega) habove
        -- the last directory is not there yet, whatever became of the one above
        have hnone : d₁.isDirectory path = false := by
          cases hparent with
          | there _ hdir =>
            have hstat : d.stat? (Path.parent path) = some .directory := by
              simpa [Disk.isDirectory] using hdir
            rw [exists?, hstat] at hmissing
            cases hmissing
          | made hempty => exact hempty.not_isDirectory hpath (by simp)
          | stopped hd₁ hno =>
            rw [Bool.eq_false_iff]
            intro hdir
            rw [isDirectory_parent hd₁ hpath hdir] at hno
            cases hno
        obtain hlast | ⟨cause, -, rfl, rfl⟩ := hlast
        · have hensured := ensured_of_ensure hparent.wellFormed hpath hlast
          cases hensured with
          | there _ hdir =>
            rw [hnone] at hdir
            cases hdir
          | made hempty => exact .made hempty
          | stopped hd' hno => exact .stopped hd' hno
        · exact .stopped hparent.wellFormed hnone

/-! ## Paths that lead nowhere -/

/-- A path that leads to nothing does not lead to a directory. -/
theorem Absent.not_isDirectory (h : d.Absent path) (hpath : Path.Resolved path (init ++ [c])) :
    d.isDirectory path = false := by
  rw [← Bool.not_eq_true]
  intro hdir
  cases hgood : badName? path with
  | some cause => simp [Disk.isDirectory, stat?, Disk.resolve, hgood] at hdir
  | none =>
    obtain ⟨start, hstart, hsplit⟩ := hpath.splitOn
    have hc := (hpath.proper c (by simp)).toNamed
    simp only [Disk.isDirectory, stat?, resolve_of_good hgood, hsplit, ← List.append_assoc] at hdir
    split at hdir
    · next heq =>
      obtain ⟨k, there, hleads, hlast⟩ := leads_of_descend heq
      have hresolve := resolve_name hpath hgood ((leads_start hstart).mp hleads) false
      rw [descend_last _ hc] at hresolve
      -- the last name has an entry, or it would not lead to one
      cases hget : d.get? (there ++ [c]) with
      | none =>
        rw [descend_named _ _ hc, hget] at hlast
        cases hlast
        cases hdir
      | some e =>
        rw [hget] at hresolve
        exact h _ _ hresolve
    · cases hdir

/-- Where nothing is, an empty directory is made. -/
theorem standsEmpty_of_makeDirs (hd : d.WellFormed) (habsent : d.Absent path)
    (hpath : Path.Resolved path (init ++ [c])) (h : d.makeDirs path = .ok d') :
    ∃ home, StandsEmpty d' path home := by
  have hlength : init.length < path.length + 1 := by
    obtain ⟨start, -, hsplit⟩ := hpath.splitOn
    have hle := Text.length_splitOn_le Path.slash path
    simp only [hsplit, List.length_append, List.length_singleton] at hle
    omega
  cases ensured_of_pave hd hpath hlength (makeDirs_eq_ok.mp h) with
  | there _ hdir =>
    rw [habsent.not_isDirectory hpath] at hdir
    cases hdir
  | made hempty => exact ⟨_, hempty⟩

/-- The root is always there. -/
theorem Absent.ne_root (h : d.Absent path) (hpath : Path.Resolved path cs) : cs ≠ [] := by
  rintro rfl
  rcases hpath.spelled with rfl | rfl
  · exact h [] .directory rfl
  · exact h [] .directory rfl

end ImportScan.Disk
