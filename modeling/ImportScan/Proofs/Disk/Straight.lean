import ImportScan.Proofs.Disk.Calls

/-! # Paths that no link diverts

    Where no link stands on the way, a path leads to the location that its components spell, or
    nowhere.  So a call on such a path changes that location alone.

    * `Disk.Straight`  : no link stands at a location or above it.
    * `Path.Spells`    : a path from the root spells components, all of them names.
    * `resolve_spelled` : where such a path leads, its last component left alone.
    * `of_resolve_true` : where it leads when a link at its end is followed.
    * `makeDirs_spec`  : making directories along a straight way adds only directories.
-/

namespace ImportScan

open ImportScan.Path (slash)

/-! ## Spelled paths -/

/-- A path from the root spells components, which are names. -/
structure Path.Spells (path : Text) (cs : List Text) : Prop where
  proper : ∀ c ∈ cs, Path.Proper c
  split : ∃ start, (∀ x ∈ start, x = []) ∧ path.splitOn slash = start ++ cs

theorem Path.Resolved.spells {path : Text} {cs : List Text} (h : Path.Resolved path cs) :
    Path.Spells path cs :=
  ⟨h.proper, h.splitOn⟩

/-- A path behind another spells the components of both. -/
theorem Path.Spells.append {path p : Text} {cs : List Text} (h : Path.Spells path cs)
    (hp : ∀ c ∈ p.splitOn slash, Path.Proper c) :
    Path.Spells (path ++ slash :: p) (cs ++ p.splitOn slash) := by
  obtain ⟨start, hstart, hsplit⟩ := h.split
  refine ⟨fun c hc => ?_, start, hstart, ?_⟩
  · rcases List.mem_append.mp hc with hc | hc
    · exact h.proper c hc
    · exact hp c hc
  · rw [Text.splitOn_append, hsplit, List.append_assoc]

namespace Disk

variable {d d' : Disk} {n k : Nat} {here there l : Location} {c : Text} {cs : List Text}
variable {path : Text} {last : Bool} {place : Place} {e : Option Entry} {r : Except Fault Unit}

/-! ## Straight ways -/

/-- No link stands at a location. -/
def Unlinked (d : Disk) (l : Location) : Prop := ∀ target, d.get? l ≠ some (.link target)

/-- No link stands at a location or above it. -/
def Straight (d : Disk) (l : Location) : Prop := ∀ r, r <+: l → d.Unlinked r

theorem Straight.of_prefix {r : Location} (h : d.Straight l) (hr : r <+: l) : d.Straight r :=
  fun _ hq => h _ (hq.trans hr)

/-- Below a directory the way is as straight as to it. -/
theorem WellFormed.straight_of_directory (hd : d.WellFormed) (h : d.get? l = some .directory) :
    d.Straight l := by
  intro r hr target hlink
  have hdir := hd.directories (l := []) (r := l) h r hr
  rw [List.nil_append, hlink] at hdir
  cases hdir

/-- A way without links leads down its components. -/
theorem Leads.straight (h : Leads d n here cs k there) (hnamed : ∀ c ∈ cs, Path.Named c)
    (hlinks : ∀ r, r ≠ [] → r <+: cs → d.Unlinked (here ++ r)) : k = n ∧ there = here ++ cs := by
  induction h with
  | nil => exact ⟨rfl, by simp⟩
  | stay hc =>
    have hname := hnamed _ List.mem_cons_self
    rcases hc with rfl | rfl
    · exact absurd rfl hname.nonempty
    · exact absurd rfl hname.not_here
  | up => exact absurd rfl (hnamed _ List.mem_cons_self).not_up
  | @down n k here there c cs _ _ _ ih =>
    obtain ⟨hk, hthere⟩ := ih (fun c' hc' => hnamed c' (List.mem_cons_of_mem _ hc')) fun r hr hpre => by
      rw [List.append_assoc, List.singleton_append]
      exact hlinks (c :: r) (by simp) (by simpa using hpre)
    exact ⟨hk, by rw [hthere, List.append_assoc, List.singleton_append]⟩
  | @link _ _ here _ c target cs _ hlink =>
    exact absurd hlink (hlinks [c] (by simp) (by simp) target)

/-- What a path with a straight way leads to is found in the directory before its last
    component. -/
theorem descend_of_resolve (hd : d.WellFormed) (hpath : Path.Spells path (cs ++ [c]))
    (hway : d.Straight cs) (h : d.resolve last path = .ok place) :
    badName? path = none ∧ d.get? cs = some .directory ∧
      descend d last (follow d last 40) cs [c] = .ok place := by
  have hgood := good_of_resolve h
  obtain ⟨start, hstart, hsplit⟩ := hpath.split
  rw [resolve_of_good hgood, hsplit, ← List.append_assoc] at h
  obtain ⟨k, there, hleads, hplace⟩ := leads_of_descend h
  have hleads := (leads_start hstart).mp hleads
  obtain ⟨rfl, rfl⟩ := hleads.straight
    (fun c' hc' => (hpath.proper c' (List.mem_append_left _ hc')).toNamed)
    fun r _ hr => by simpa using hway r hr
  exact ⟨hgood, hleads.directory hd rfl, hplace⟩

/-- The components of a good path are good. -/
theorem badName?_component (hgood : badName? path = none) (hpath : Path.Spells path cs) :
    ∀ c ∈ cs, ValidName c := by
  obtain ⟨start, -, hsplit⟩ := hpath.split
  intro c hc
  rw [← Text.join_splitOn slash path] at hgood
  refine ⟨hpath.proper c hc, badName?_join.mp hgood c ?_⟩
  rw [hsplit]
  exact List.mem_append_right _ hc

/-- Left alone at its end, a path leads to the location that it spells, in a directory. -/
theorem resolve_spelled (hd : d.WellFormed) (hpath : Path.Spells path (cs ++ [c]))
    (hway : d.Straight cs) (h : d.resolve false path = .ok (l, e)) :
    l = cs ++ [c] ∧ e = d.get? (cs ++ [c]) ∧ d.get? cs = some .directory ∧ ValidName c := by
  obtain ⟨hgood, hdir, hplace⟩ := descend_of_resolve hd hpath hway h
  have hvalid := badName?_component hgood hpath c (by simp)
  rw [descend_last _ hvalid.toNamed] at hplace
  cases hplace
  exact ⟨rfl, rfl, hdir, hvalid⟩

/-! ## Links at the end -/

/-- What is resolved stays so when more can be resolved behind links. -/
theorem descend_mono {again again' : Location → List Text → Except DiskFault Place}
    (hagain : ∀ start cs place, again start cs = .ok place → again' start cs = .ok place)
    (h : descend d last again here cs = .ok place) : descend d last again' here cs = .ok place := by
  induction cs generalizing here with
  | nil => exact h
  | cons c cs ih =>
    obtain hstay | rfl | hnamed := named_or c
    · rw [descend_stay _ _ hstay] at h ⊢
      exact ih h
    · rw [descend_up] at h ⊢
      exact ih h
    · rw [descend_named _ _ hnamed] at h ⊢
      cases hget : d.get? (here ++ [c]) with
      | none => simpa [hget] using h
      | some entry =>
        rw [hget] at h
        cases entry with
        | directory => exact ih h
        | file => exact h
        | link target =>
          simp only at h ⊢
          split at h
          · next hlast => rwa [if_pos hlast]
          · next hlast =>
            rw [if_neg hlast]
            exact hagain _ _ _ h

theorem follow_succ (h : follow d last n here cs = .ok place) :
    follow d last (n + 1) here cs = .ok place := by
  induction n generalizing here cs place with
  | zero => cases h
  | succ n ih => exact descend_mono (fun _ _ _ h' => ih h') h

/-- With a link at its end followed, a path leads to the location that it spells, where no link
    is, or where the target of the link leads. -/
theorem of_resolve_true (hd : d.WellFormed) (hpath : Path.Spells path (cs ++ [c]))
    (hway : d.Straight cs) (h : d.resolve true path = .ok (l, e)) :
    (l = cs ++ [c] ∧ e = d.get? (cs ++ [c]) ∧ d.Unlinked (cs ++ [c]) ∧
      d.get? cs = some .directory ∧ ValidName c) ∨
    ∃ target, d.get? (cs ++ [c]) = some (.link target) ∧
      (badName? target = none → Path.isAbsolute target = true →
        d.resolve true target = .ok (l, e)) := by
  obtain ⟨hgood, hdir, hplace⟩ := descend_of_resolve hd hpath hway h
  have hvalid := badName?_component hgood hpath c (by simp)
  rw [descend_named _ _ hvalid.toNamed] at hplace
  split at hplace
  · next hget =>
    cases hplace
    exact .inl ⟨rfl, hget.symm, by simp [Unlinked, hget], hdir, hvalid⟩
  · next hget =>
    cases hplace
    exact .inl ⟨rfl, rfl, by simp [Unlinked, hget], hdir, hvalid⟩
  · next hget =>
    cases hplace
    exact .inl ⟨rfl, hget.symm, by simp [Unlinked, hget], hdir, hvalid⟩
  · next target hget =>
    refine .inr ⟨target, hget, fun htarget habs => ?_⟩
    simp only [linkStart, habs, if_true, List.append_nil, Bool.not_true, Bool.and_false,
      Bool.false_eq_true, if_false] at hplace
    rw [resolve, htarget]
    -- behind the link one fewer can be followed than from the start
    exact follow_succ hplace

/-- A path below another leads somewhere only if the other leads to a directory. -/
theorem directory_of_resolve_below (hd : d.WellFormed)
    (h : d.resolve true (path ++ slash :: c) = .ok place) (hslash : slash ∉ c) :
    ∃ dir, d.resolve true path = .ok (dir, some .directory) := by
  have hgood := good_of_resolve h
  have hbefore : badName? path = none := (badName?_append.mp hgood).1
  rw [resolve_of_good hgood, Text.splitOn_append, Text.splitOn_of_notMem hslash] at h
  obtain ⟨k, there, hleads, -⟩ := leads_of_descend h
  refine ⟨there, ?_⟩
  rw [resolve_of_good hbefore, descend_leads_true hleads, hleads.directory hd rfl]

/-! ## Changes -/

/-- What is not a directory may be replaced. -/
theorem WellFormed.overwrite (hd : d.WellFormed) {e₀ : Entry} (hget : d.get? l = some e₀)
    (hdir : e₀ ≠ .directory) (e : Entry) : (d.insert l e).WellFormed := by
  have hl : l ≠ [] := by
    rintro rfl
    cases hget
    exact hdir rfl
  have hgets := d.get?_insert hl e
  constructor
  · intro k m e' h
    rw [hgets] at h
    split at h
    · next heq =>
      rw [← heq] at hget
      exact hd.name hget
    · exact hd.name h
  · intro k m e' h
    have hk : d.get? k = some .directory := by
      rw [hgets] at h
      split at h
      · next heq =>
        rw [← heq] at hget
        exact hd.dir hget
      · exact hd.dir h
    rw [hgets, if_neg, hk]
    rintro rfl
    rw [hget] at hk
    cases hk
    exact hdir rfl

theorem locate_eq_ok : d.locate last path = .ok place ↔ d.resolve last path = .ok place := by
  unfold locate
  cases d.resolve last path with
  | ok found => simp
  | error cause => simp

theorem isDirectory_iff :
    d.isDirectory path = true ↔ ∃ l, d.resolve true path = .ok (l, some .directory) := by
  unfold isDirectory stat?
  rcases d.resolve true path with cause | ⟨l, e⟩
  · simp
  · simp

/-- A copy that succeeds writes a file, which is not the source, where its target leads. -/
theorem copy_eq_ok {source target : Text} (h : d.copy source target = .ok d') :
    ∃ content mtime dir l e, d.resolve true source = .ok (dir, some (.file content mtime)) ∧
      d.resolve true (if d.isDirectory target then Path.join target (Path.base source)
        else target) = .ok (l, e) ∧
      e ≠ some .directory ∧ (e.isSome = true → l ≠ dir) ∧
      d' = d.insert l (.file content mtime) := by
  unfold copy at h
  simp only at h
  generalize hplace : (if d.isDirectory target then Path.join target (Path.base source)
    else target) = target' at h ⊢
  split at h
  · cases h
  · next hsame =>
    obtain ⟨⟨dir, found⟩, hsource, h⟩ := bind_eq_ok.mp h
    have hsource := locate_eq_ok.mp hsource
    split at h
    · next heq =>
      cases heq
      obtain ⟨⟨l, e⟩, htarget, h⟩ := bind_eq_ok.mp h
      have htarget := locate_eq_ok.mp htarget
      rw [sameEntry, hsource, htarget] at hsame
      split at h
      · cases h
      · next hdir heq =>
        cases heq
        cases h
        refine ⟨_, _, _, _, _, hsource, htarget, hdir, fun he => ?_, rfl⟩
        cases e with
        | none => cases he
        | some entry =>
          rintro rfl
          simp at hsame
    · cases h
    · cases h

/-! ## Making directories -/

/-- Only directories were added, on the way to a location. -/
structure Paved (d d' : Disk) (cs : Location) : Prop where
  wellFormed : d'.WellFormed
  entry : ∀ l, d'.get? l = d.get? l ∨ l <+: cs ∧ d'.get? l = some .directory

theorem Paved.straight (h : Paved d d' cs) (hway : d.Straight cs) : d'.Straight cs := by
  intro r hr target hlink
  rcases h.entry r with heq | ⟨-, hdir⟩
  · exact hway r hr target (heq ▸ hlink)
  · rw [hlink] at hdir
    cases hdir

theorem Paved.trans {d'' : Disk} (h : Paved d d' cs) (h' : Paved d' d'' cs) : Paved d d'' cs := by
  refine ⟨h'.wellFormed, fun l => ?_⟩
  rcases h'.entry l with heq | hadded
  · rw [heq]
    exact h.entry l
  · exact .inr hadded

theorem Paved.of_prefix {r : Location} (h : Paved d d' r) (hr : r <+: cs) : Paved d d' cs :=
  ⟨h.wellFormed, fun l => (h.entry l).imp id fun ⟨hl, hdir⟩ => ⟨hl.trans hr, hdir⟩⟩

theorem paved_refl (hd : d.WellFormed) (cs : Location) : Paved d d cs := ⟨hd, fun _ => .inl rfl⟩

/-- A directory that is made along a straight way is the one that its path spells. -/
theorem paved_of_mkdir {init : List Text} (hd : d.WellFormed)
    (hpath : Path.Resolved path (init ++ [c])) (hway : d.Straight init)
    (h : d.mkdir path = .ok d') : Paved d d' (init ++ [c]) := by
  obtain ⟨l, hresolve, rfl⟩ := (mkdir_eq_ok hpath).mp h
  obtain ⟨rfl, hnone, hdir, hvalid⟩ := resolve_spelled hd hpath.spells hway hresolve
  refine ⟨hd.insert hvalid hdir hnone.symm _, fun k => ?_⟩
  rw [get?_insert _ (by simp)]
  split
  · next heq => exact .inr ⟨heq ▸ List.prefix_refl _, rfl⟩
  · exact .inl rfl

/-- Once the way to it is paved, an attempt to make the last directory adds at most that. -/
theorem Paved.complete {init : List Text} {d₁ : Disk} (hpaved : Paved d d₁ init)
    (hpath : Path.Resolved path (init ++ [c])) (hway : d.Straight init)
    (h : d₁.ensure path = (r, d')) : Paved d d' (init ++ [c]) := by
  have hbefore : Paved d d₁ (init ++ [c]) := hpaved.of_prefix (List.prefix_append _ _)
  unfold ensure at h
  split at h
  · next hmk =>
    cases h
    exact hbefore.trans (paved_of_mkdir hpaved.wellFormed hpath (hpaved.straight hway) hmk)
  · cases h
    exact hbefore

theorem paved_of_pave {init : List Text} (hd : d.WellFormed)
    (hpath : Path.Resolved path (init ++ [c])) (hway : d.Straight init)
    (h : d.pave n path = (r, d')) : Paved d d' (init ++ [c]) := by
  induction n generalizing path init c r d' with
  | zero =>
    cases h
    exact paved_refl hd _
  | succ n ih =>
    obtain hlast | ⟨hmissing, r₁, d₁, habove, hlast⟩ := pave_cases h
    · -- the directory above is there
      exact (paved_refl hd init).complete hpath hway hlast
    · -- the root is never missing
      obtain rfl | ⟨init, m, rfl⟩ := List.eq_nil_or_concat init
      · have hroot : d.exists? (Path.parent path) = true :=
          exists?_leads hd hpath.parent ((badName?_resolved hpath.parent).mpr (by simp)) .nil
        rw [hroot] at hmissing
        cases hmissing
      · rw [List.concat_eq_append] at hpath hway ⊢
        have hpaved := ih hpath.parent (hway.of_prefix (List.prefix_append _ _)) habove
        obtain hlast | ⟨cause, -, -, rfl⟩ := hlast
        · exact hpaved.complete hpath hway hlast
        · exact hpaved.of_prefix (List.prefix_append _ _)

/-- An attempt to make a directory along a straight way adds directories on that way, and
    nothing else, whether it is stopped or not. -/
theorem paved_spec {init : List Text} (hd : d.WellFormed)
    (hpath : Path.Resolved path (init ++ [c])) (hway : d.Straight init) :
    Paved d (d.paved path) (init ++ [c]) :=
  paved_of_pave hd hpath hway rfl

/-- Making a directory along a straight way adds directories on that way, and nothing else. -/
theorem makeDirs_spec {init : List Text} (hd : d.WellFormed)
    (hpath : Path.Resolved path (init ++ [c])) (hway : d.Straight init)
    (h : d.makeDirs path = .ok d') : Paved d d' (init ++ [c]) :=
  paved_of_pave hd hpath hway (makeDirs_eq_ok.mp h)

/-- A directory that its path spells can always be opened. -/
theorem stands_of_directory {init : List Text} (hd : d.WellFormed)
    (hpath : Path.Resolved path (init ++ [c])) (hdir : d.get? (init ++ [c]) = some .directory) :
    Stands d path (init ++ [c]) := by
  have hnames := hd.names (l := []) (r := init ++ [c]) hdir
  have hgood : badName? path = none := (badName?_resolved hpath).mpr fun n hn => (hnames n hn).good
  obtain ⟨start, hstart, hsplit⟩ := hpath.splitOn
  -- the directories above are not below the place
  have habove : ∀ r, r <+: init → (d.eraseTree (init ++ [c])).get? ([] ++ r) = some .directory := by
    intro r hr
    have hshort : ¬ init ++ [c] <+: r := fun h => by
      have hle := (h.trans hr).length_le
      simp only [List.length_append, List.length_singleton] at hle
      omega
    rw [List.nil_append, get?_eraseTree _ (by simp), if_neg hshort]
    exact hd.directories (l := []) hdir r (hr.trans (List.prefix_append _ _))
  have hway := leads_down (n := 40)
    (fun n hn => (hnames n (List.mem_append_left _ hn)).toNamed) habove
  refine ⟨hd, ⟨hgood, start ++ init, c, 40, init, ?_, (hnames c (by simp)).toNamed, rfl, ?_⟩, hdir⟩
  · rw [hsplit, List.append_assoc]
  · exact (leads_start hstart).mpr hway

end Disk

end ImportScan
