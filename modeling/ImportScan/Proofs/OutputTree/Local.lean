import ImportScan.Proofs.Disk.Straight
import ImportScan.Proofs.OutputTree

/-! # Calls that stay in the output tree

    The calls on an output tree go through paths below the output directory.  As long as the
    links there are its own and no directory on the way to a path is a link, a call on the path
    changes nothing but what is at and below its place.  A link at the end of the path is
    never written through, for it leads to the file that would be written.

    * `Tree.Rooted` : every path of a tree is held by the root or by a directory.
    * `Tidy`        : disks whose links below the output directory are those of an output tree.
    * `Local`       : what a call on a path of the output tree may do.
    * `Way`         : no link diverts the way to a path.
    * `Way.unlink`, `Way.rmdir`, `Way.remove`, `Way.mkdir`, `Way.link` : every call is local.
-/

namespace ImportScan

open ImportScan.Path (slash)

/-! ## Rooted trees -/

namespace Tree

variable {t t' : Tree} {p : Text}

/-- Every path is held by the root or by a directory. -/
def Rooted (t : Tree) : Prop := ∀ p k, t p = some k → t.Holds p

/-- A path that is free, or was a file, or a directory that held nothing, holds nothing. -/
theorem Rooted.update (h : t.Rooted) (hempty : ∀ q, Path.holder? q = some p → t q = none)
    {k : Option Kind} (hk : k = none ∨ t.Holds p) : Rooted (Function.update t p k) := by
  intro q k' hq dir hdir
  have hne : dir ≠ q := (Snapshot.le_of_holder hdir).2
  by_cases hqp : q = p
  · subst hqp
    rw [Function.update_self] at hq
    rcases hk with rfl | hholds
    · cases hq
    · rw [Function.update_of_ne hne]
      exact hholds dir hdir
  · rw [Function.update_of_ne hqp] at hq
    have hdp : dir ≠ p := by
      rintro rfl
      rw [hempty q hdir] at hq
      cases hq
    rw [Function.update_of_ne hdp]
    exact h q k' hq dir hdir

/-- What is not a directory holds nothing. -/
theorem Rooted.empty (h : t.Rooted) (hp : t p ≠ some .directory) :
    ∀ q, Path.holder? q = some p → t q = none := by
  intro q hq
  cases hget : t q with
  | none => rfl
  | some k => exact absurd (h q k hget p hq) hp

theorem Step.rooted {o : Operation × Text} (h : t.Rooted) (hstep : Step t o t') : t'.Rooted := by
  cases hstep with
  | unlink hp => exact h.update (h.empty (by rw [hp]; simp)) (.inl rfl)
  | rmdir hp hempty => exact h.update hempty (.inl rfl)
  | mkdir hp hholds => exact h.update (h.empty (by rw [hp]; simp)) (.inr hholds)
  | create hp hholds => exact h.update (h.empty (by rw [hp]; simp)) (.inr hholds)
  | change hp => exact h

/-- The directory of the path of an operation is there. -/
theorem Step.holds {op : Operation} (h : t.Rooted) (hstep : Step t (op, p) t') : t.Holds p := by
  cases hstep with
  | unlink hp => exact h p _ hp
  | rmdir hp _ => exact h p _ hp
  | mkdir _ hholds => exact hholds
  | create _ hholds => exact hholds
  | change hp => exact h p _ hp

/-- All components before the last lead to directories. -/
theorem Rooted.above (h : t.Rooted) {rs : List Text} (hslash : ∀ n ∈ rs, slash ∉ n)
    (hrs : rs ≠ [] → t (Text.join [slash] rs) = some .directory) :
    ∀ r, r ≠ [] → r <+: rs → t (Text.join [slash] r) = some .directory := by
  induction rs using List.reverseRecOn with
  | nil => exact fun r hr hpre => absurd (List.prefix_nil.mp hpre) hr
  | append_singleton rs m ih =>
    intro r hr hpre
    have hwhole := hrs (by simp)
    rcases List.prefix_concat_iff.mp hpre with rfl | hpre
    · exact hwhole
    · refine ih (fun n hn => hslash n (List.mem_append_left _ hn)) (fun hne => ?_) r hr hpre
      -- the directory is held by the one before it
      have hsplit := Text.splitOn_join (List.concat_ne_nil m rs) hslash
      exact h _ _ hwhole _ (Path.holder?_eq hsplit hne)

end Tree

/-! ## Calls on an output tree -/

namespace OutputTree

variable {t : OutputTree} {input : Text} {d d' d'' : Disk} {home : Location} {p : Text}

/-- A disk where no link diverts the way to the output directory, and the links below it are
    those that an output tree makes. -/
structure Tidy (input : Text) (home : Location) (d : Disk) : Prop where
  wellFormed : d.WellFormed
  straight : d.Straight home
  links : ∀ l target, home <+: l → d.get? l = some (.link target) →
    ∃ p, l = home ++ p.splitOn slash ∧ target = Path.join input p

/-- What a call on a path of the output tree may do: it changes the disk at and below the place
    of the path, and adds no link but the one that belongs there. -/
structure Local (input : Text) (home : Location) (p : Text) (d d' : Disk) : Prop where
  wellFormed : d'.WellFormed
  elsewhere : ∀ l, ¬ home ++ p.splitOn slash <+: l → d'.get? l = d.get? l
  links : ∀ l target, d'.get? l = some (.link target) → d.get? l = some (.link target) ∨
    l = home ++ p.splitOn slash ∧ target = Path.join input p

theorem local_refl (hd : d.WellFormed) : Local input home p d d :=
  ⟨hd, fun _ _ => rfl, fun _ _ h => .inl h⟩

theorem Local.trans (h : Local input home p d d') (h' : Local input home p d' d'') :
    Local input home p d d'' where
  wellFormed := h'.wellFormed
  elsewhere l hl := (h'.elsewhere l hl).trans (h.elsewhere l hl)
  links l target hlink := (h'.links l target hlink).elim (h.links l target) .inr

/-- The place of a path is below the output directory, not at it or above it. -/
theorem not_prefix_home {r : Location} (hr : r <+: home ++ (p.splitOn slash).dropLast) :
    ¬ home ++ p.splitOn slash <+: r := by
  intro h
  have hle := (h.trans hr).length_le
  have hpos := List.length_pos_of_ne_nil (Text.splitOn_ne_nil slash p)
  simp only [List.length_append, List.length_dropLast] at hle
  omega

theorem Local.straight {r : Location} (h : Local input home p d d')
    (hr : r <+: home ++ (p.splitOn slash).dropLast) (hway : d.Straight r) : d'.Straight r := by
  intro q hq target hlink
  rw [h.elsewhere q (not_prefix_home (hq.trans hr))] at hlink
  exact hway q hq target hlink

/-- Such a call keeps the disk tidy. -/
theorem Local.tidy (h : Local input home p d d') (hd : Tidy input home d) :
    Tidy input home d' where
  wellFormed := h.wellFormed
  straight := h.straight (List.prefix_append _ _) hd.straight
  links l target hl hlink := by
    rcases h.links l target hlink with hlink | ⟨rfl, rfl⟩
    · exact hd.links l target hl hlink
    · exact ⟨p, rfl, rfl⟩

/-- The output directory of a tree has a path with a last name, and the input directory one
    from the root. -/
structure Based (t : OutputTree) (home : Location) : Prop where
  absolute : Path.isAbsolute t.input = true
  resolved : ∃ init c, home = init ++ [c] ∧ Path.Resolved t.output (init ++ [c])

/-- Where the calls on a path of the output tree go: no link diverts the way to it. -/
structure Way (t : OutputTree) (d : Disk) (home : Location) (p : Text) : Prop
    extends Tidy t.input home d, Based t home where
  proper : ∀ n ∈ p.splitOn slash, Path.Proper n
  way : d.Straight (home ++ (p.splitOn slash).dropLast)

/-- A call keeps the way to its path. -/
theorem Way.after (h : Way t d home p) (hlocal : Local t.input home p d d') : Way t d' home p where
  toTidy := hlocal.tidy h.toTidy
  toBased := h.toBased
  proper := h.proper
  way := hlocal.straight (List.prefix_refl _) h.way

theorem Way.outputPath (h : Way t d home p) : t.outputPath p = t.output ++ slash :: p := by
  obtain ⟨init, c, -, hresolved⟩ := h.resolved
  exact hresolved.join (Path.isAbsolute_eq_false h.proper)

/-- A path of the output tree spells the place of its components. -/
theorem Way.spells (h : Way t d home p) :
    ∃ rs m, p.splitOn slash = rs ++ [m] ∧ Path.Spells (t.outputPath p) (home ++ rs ++ [m]) ∧
      d.Straight (home ++ rs) := by
  obtain ⟨init, c, rfl, hresolved⟩ := h.resolved
  obtain ⟨rs, m, hsplit⟩ := exists_splitOn p
  have hspells := hresolved.spells.append h.proper
  have hway := h.way
  rw [← h.outputPath, hsplit, ← List.append_assoc] at hspells
  rw [hsplit, List.dropLast_concat] at hway
  exact ⟨rs, m, hsplit, hspells, hway⟩

/-- Where a path of the output tree leads, if anywhere. -/
theorem Way.resolve (h : Way t d home p) {l : Location} {e : Option Entry}
    (hresolve : d.resolve false (t.outputPath p) = .ok (l, e)) :
    l = home ++ p.splitOn slash ∧ e = d.get? (home ++ p.splitOn slash) ∧
      ∃ rs m, p.splitOn slash = rs ++ [m] ∧ d.get? (home ++ rs) = some .directory ∧
        Disk.ValidName m := by
  obtain ⟨rs, m, hsplit, hspells, hway⟩ := h.spells
  obtain ⟨rfl, rfl, hdir, hvalid⟩ := Disk.resolve_spelled h.wellFormed hspells hway hresolve
  rw [hsplit, ← List.append_assoc]
  exact ⟨rfl, rfl, rs, m, rfl, hdir, hvalid⟩

theorem place_ne_nil (home : Location) (p : Text) : home ++ p.splitOn slash ≠ [] := by
  simp [Text.splitOn_ne_nil slash p]

theorem local_erase (hd : d.WellFormed)
    (hempty : ∀ n, d.get? (home ++ p.splitOn slash ++ [n]) = none) :
    Local input home p d (d.erase (home ++ p.splitOn slash)) := by
  have hget := d.get?_erase (place_ne_nil home p)
  refine ⟨hd.erase (place_ne_nil home p) hempty, fun l hl => ?_, fun l target hlink => .inl ?_⟩
  · rw [hget, if_neg]
    rintro rfl
    exact hl (List.prefix_refl _)
  · rw [hget] at hlink
    split at hlink
    · cases hlink
    · exact hlink

theorem local_eraseTree (hd : d.WellFormed) :
    Local input home p d (d.eraseTree (home ++ p.splitOn slash)) := by
  have hget := d.get?_eraseTree (place_ne_nil home p)
  refine ⟨hd.eraseTree (place_ne_nil home p), fun l hl => ?_, fun l target hlink => .inl ?_⟩
  · rw [hget, if_neg hl]
  · rw [hget] at hlink
    split at hlink
    · cases hlink
    · exact hlink

/-- An entry that is put at or below the place of a path, and is no link unless it is the one
    that belongs there. -/
theorem local_insert {l : Location} {e : Entry} (hwf : (d.insert l e).WellFormed)
    (hl : home ++ p.splitOn slash <+: l)
    (hlink : ∀ target, e = .link target → l = home ++ p.splitOn slash ∧ target = Path.join input p) :
    Local input home p d (d.insert l e) := by
  have hne : l ≠ [] := by
    rintro rfl
    exact place_ne_nil home p (List.prefix_nil.mp hl)
  have hget := d.get?_insert hne e
  refine ⟨hwf, fun k hk => ?_, fun k target hk => ?_⟩
  · rw [hget, if_neg]
    rintro rfl
    exact hk hl
  · rw [hget] at hk
    split at hk
    · next heq =>
      cases hk
      rw [heq]
      exact .inr (hlink target rfl)
    · exact .inl hk

theorem Way.unlink (h : Way t d home p) (hcall : t.unlink p d = .ok d') :
    Local t.input home p d d' := by
  obtain ⟨⟨l, e⟩, hlocate, hcall⟩ := bind_eq_ok.mp hcall
  obtain ⟨rfl, rfl, -⟩ := h.resolve (Disk.locate_eq_ok.mp hlocate)
  split at hcall
  · cases hcall
  · cases hcall
  · next entry hnot heq =>
    cases hcall
    obtain ⟨rfl, hget⟩ := Prod.mk.inj heq
    refine local_erase h.wellFormed fun n => h.wellFormed.below (by simp) ?_
    rw [hget]
    exact fun hdir => hnot (Option.some.inj hdir)

theorem Way.rmdir (h : Way t d home p) (hcall : t.rmdir p d = .ok d') :
    Local t.input home p d d' := by
  obtain ⟨⟨l, e⟩, hlocate, hcall⟩ := bind_eq_ok.mp hcall
  obtain ⟨rfl, rfl, -⟩ := h.resolve (Disk.locate_eq_ok.mp hlocate)
  split at hcall
  · cases hcall
  · next heq =>
    obtain ⟨rfl, -⟩ := Prod.mk.inj heq
    split at hcall
    · next hnames =>
      cases hcall
      refine local_erase h.wellFormed fun n => ?_
      cases hget : d.get? (home ++ p.splitOn slash ++ [n]) with
      | none => rfl
      | some e =>
        have hmem := Disk.mem_names.mpr ⟨e, hget⟩
        simp [List.isEmpty_iff.mp hnames] at hmem
    · cases hcall
  · cases hcall

theorem Way.removeTree (h : Way t d home p) (hcall : d.removeTree (t.outputPath p) = .ok d') :
    Local t.input home p d d' := by
  obtain ⟨⟨l, e⟩, hlocate, hcall⟩ := bind_eq_ok.mp hcall
  obtain ⟨rfl, rfl, -⟩ := h.resolve (Disk.locate_eq_ok.mp hlocate)
  split at hcall
  · cases hcall
  · next heq =>
    obtain ⟨rfl, -⟩ := Prod.mk.inj heq
    cases hcall
    exact local_eraseTree h.wellFormed
  · cases hcall
  · cases hcall

theorem Way.remove (h : Way t d home p) (hcall : t.remove p d = .ok d') :
    Local t.input home p d d' := by
  unfold OutputTree.remove at hcall
  simp only at hcall
  split at hcall
  · exact h.unlink hcall
  · split at hcall
    · exact h.removeTree hcall
    · cases hcall
      exact local_refl h.wellFormed

/-- What a path without a slash at its end ends with. -/
theorem Way.exists_append (h : Way t d home p) :
    ∃ x m, Path.Proper m ∧ t.outputPath p = x ++ m := by
  obtain ⟨rs, m, hsplit⟩ := exists_splitOn p
  obtain ⟨x, hx, -⟩ := Path.join_names_concat rs m
  have hp := Text.join_splitOn slash p
  rw [hsplit, hx] at hp
  refine ⟨t.output ++ slash :: x, m, h.proper m (by simp [hsplit]), ?_⟩
  rw [h.outputPath, ← hp]
  simp

/-- A directory that is made is no link. -/
theorem Way.mkdir (h : Way t d home p) (hcall : t.mkdir p d = .ok d') :
    Local t.input home p d d' ∧ d'.Unlinked (home ++ p.splitOn slash) := by
  obtain ⟨x, m, hm, hpath⟩ := h.exists_append
  have htrim : Path.trimSlashes (t.outputPath p) = t.outputPath p := by
    rw [hpath]
    exact Path.trimEnd_append hm x
  unfold OutputTree.mkdir Disk.mkdir at hcall
  rw [htrim] at hcall
  split at hcall
  · cases hcall
  · cases hcall
  · next l hresolve =>
    cases hcall
    obtain ⟨rfl, hnone, rs, m, hsplit, hdir, hvalid⟩ := h.resolve hresolve
    have hwf : (d.insert (home ++ p.splitOn slash) .directory).WellFormed := by
      rw [hsplit, ← List.append_assoc] at hnone ⊢
      exact h.wellFormed.insert hvalid hdir hnone.symm _
    refine ⟨local_insert hwf (List.prefix_refl _) (fun _ heq => nomatch heq), ?_⟩
    intro target hlink
    rw [Disk.get?_insert _ (place_ne_nil home p), if_pos rfl] at hlink
    cases hlink

/-! ## Links and copies -/

/-- A relative path that is not empty is put behind a path, with a slash between them. -/
theorem exists_join {a q : Text} (ha : Path.isAbsolute a = true) (hq : Path.isAbsolute q = false) :
    ∃ x, Path.join a q = x ++ slash :: q := by
  unfold Path.join
  rw [hq]
  simp only [Bool.false_eq_true, if_false]
  split
  · next hend =>
    rcases Bool.or_eq_true_iff.mp hend with hnil | hlast
    · simp [Path.isAbsolute, List.isEmpty_iff.mp hnil] at ha
    · obtain ⟨init, heq⟩ := List.getLast?_eq_some_iff.mp (by simpa using hlast)
      exact ⟨init, by rw [heq]; simp⟩
  · exact ⟨a, rfl⟩

theorem isAbsolute_join {a q : Text} (ha : Path.isAbsolute a = true)
    (hq : Path.isAbsolute q = false) : Path.isAbsolute (Path.join a q) = true := by
  cases a with
  | nil => cases ha
  | cons x rest =>
    have hx : x = slash := by simpa [Path.isAbsolute] using ha
    unfold Path.join
    rw [hq]
    simp only [Bool.false_eq_true, if_false]
    split <;> simp [Path.isAbsolute, hx]

/-- A name behind a path with components stays behind it in another directory. -/
theorem join_append {a q n : Text} (hq : q ≠ []) (hrel : Path.isAbsolute q = false) :
    Path.join a (q ++ slash :: n) = Path.join a q ++ slash :: n := by
  have hrel' : Path.isAbsolute (q ++ slash :: n) = false := by
    cases q with
    | nil => exact absurd rfl hq
    | cons => exact hrel
  unfold Path.join
  rw [hrel, hrel']
  simp only [Bool.false_eq_true, if_false]
  split <;> simp

theorem base_append {x n : Text} (hn : slash ∉ n) : Path.base (x ++ slash :: n) = n := by
  unfold Path.base
  have htake : (n.reverse ++ slash :: x.reverse).takeWhile (· != slash) = n.reverse := by
    rw [List.takeWhile_append_of_pos, List.takeWhile_cons]
    · simp
    · intro y hy
      simp only [bne_iff_ne]
      rintro rfl
      exact hn (List.mem_reverse.mp hy)
  rw [List.reverse_append, List.reverse_cons, List.append_assoc, List.singleton_append, htake,
    List.reverse_reverse]

/-- The last component of the input path of a path is that of the path. -/
theorem base_inputPath {rs : List Text} {m : Text} (habs : Path.isAbsolute t.input = true)
    (hproper : ∀ n ∈ p.splitOn slash, Path.Proper n) (hsplit : p.splitOn slash = rs ++ [m]) :
    Path.base (t.inputPath p) = m := by
  obtain ⟨x, hx⟩ := exists_join habs (Path.isAbsolute_eq_false hproper)
  have hm : slash ∉ m := (hproper m (by simp [hsplit])).no_slash
  have hp := Text.join_splitOn slash p
  unfold OutputTree.inputPath
  rw [hx, ← hp, hsplit]
  by_cases hrs : rs = []
  · subst hrs
    exact base_append hm
  · rw [Text.join_snoc hrs]
    have heq : x ++ slash :: (Text.join [slash] rs ++ [slash] ++ m) =
        x ++ slash :: Text.join [slash] rs ++ slash :: m := by simp
    rw [heq]
    exact base_append hm

/-- A file may be put where no directory is, into a directory. -/
theorem wellFormed_put {dir : Location} {n : Text} (hd : d.WellFormed)
    (hdir : d.get? dir = some .directory) (hn : Disk.ValidName n)
    (hnot : d.get? (dir ++ [n]) ≠ some .directory) (e : Entry) :
    (d.insert (dir ++ [n]) e).WellFormed := by
  cases hget : d.get? (dir ++ [n]) with
  | none => exact hd.insert hn hdir hget e
  | some old => exact hd.overwrite hget (fun heq => hnot (by rw [hget, heq])) e

/-- The link at the place of a path leads where the path leads in the input directory. -/
theorem Way.resolve_link (h : Way t d home p) {target : Text} {l : Location} {e : Option Entry}
    (hlink : d.get? (home ++ p.splitOn slash) = some (.link target))
    (hgood : Disk.badName? (t.inputPath p) = none)
    (hresolve : Disk.badName? target = none → Path.isAbsolute target = true →
      d.resolve true target = .ok (l, e)) : d.resolve true (t.inputPath p) = .ok (l, e) := by
  obtain ⟨q, hplace, rfl⟩ := h.links _ _ (List.prefix_append _ _) hlink
  cases place_inj hplace
  exact hresolve hgood (isAbsolute_join h.absolute (Path.isAbsolute_eq_false h.proper))

/-- A name in the place of a path that is a directory. -/
theorem Way.inside (h : Way t d home p) {rs : List Text} {m : Text}
    (hsplit : p.splitOn slash = rs ++ [m])
    (hdir : d.get? (home ++ p.splitOn slash) = some .directory) :
    (p ++ slash :: m).splitOn slash = p.splitOn slash ++ [m] ∧ Way t d home (p ++ slash :: m) := by
  have hm := h.proper m (by simp [hsplit])
  have hsplit' : (p ++ slash :: m).splitOn slash = p.splitOn slash ++ [m] := by
    rw [Text.splitOn_append, Text.splitOn_of_notMem hm.no_slash]
  refine ⟨hsplit', h.toTidy, h.toBased, fun n hn => ?_, ?_⟩
  · rw [hsplit'] at hn
    rcases List.mem_append.mp hn with hn | hn
    · exact h.proper n hn
    · cases List.mem_singleton.mp hn
      exact hm
  · rw [hsplit', List.dropLast_concat]
    exact h.wellFormed.straight_of_directory hdir

theorem ne_nil_of_proper (hproper : ∀ n ∈ p.splitOn slash, Path.Proper n) : p ≠ [] := by
  rintro rfl
  exact (hproper [] (by simp [Text.splitOn])).nonempty rfl

/-- The last name of a path, put behind its place in the output tree. -/
theorem Way.join_name (h : Way t d home p) {rs : List Text} {m : Text}
    (hsplit : p.splitOn slash = rs ++ [m]) :
    Path.join (t.outputPath p) m = t.outputPath (p ++ slash :: m) := by
  have hm := h.proper m (by simp [hsplit])
  have hbelow : t.outputPath (p ++ slash :: m) = t.outputPath p ++ slash :: m :=
    join_append (ne_nil_of_proper h.proper) (Path.isAbsolute_eq_false h.proper)
  have hrel : Path.isAbsolute m = false := by
    refine Path.isAbsolute_eq_false fun n hn => ?_
    rw [Text.splitOn_of_notMem hm.no_slash] at hn
    cases List.mem_singleton.mp hn
    exact hm
  obtain ⟨x, n, hn, hpath⟩ := h.exists_append
  have hlast : n.getLast? ≠ some slash := fun heq => hn.no_slash (List.mem_of_getLast? heq)
  rw [hbelow, hpath]
  simp [Path.join, hrel, hn.nonempty, hlast]

/-- A file is not copied through a link in the directory at the place of its path: the link
    leads below the source, which is no directory. -/
theorem Way.no_link_inside (h : Way t d home p) {rs : List Text} {m target : Text} {dir : Location}
    {content : Bytes} {mtime : Binary64} {place : Disk.Place}
    (hsource : d.resolve true (t.inputPath p) = .ok (dir, some (.file content mtime)))
    (hsplit : p.splitOn slash = rs ++ [m])
    (hdir : d.get? (home ++ p.splitOn slash) = some .directory) (hm : Disk.ValidName m)
    (hlink : d.get? (home ++ p.splitOn slash ++ [m]) = some (.link target)) :
    ¬ (Disk.badName? target = none → Path.isAbsolute target = true →
      d.resolve true target = .ok place) := by
  intro hresolve
  obtain ⟨hsplit', hinside⟩ := h.inside hsplit hdir
  have hgood := Disk.good_of_resolve hsource
  have hpath : t.inputPath (p ++ slash :: m) = t.inputPath p ++ slash :: m :=
    join_append (ne_nil_of_proper h.proper) (Path.isAbsolute_eq_false h.proper)
  have hgood' : Disk.badName? (t.inputPath (p ++ slash :: m)) = none := by
    rw [hpath, ← List.singleton_append]
    exact Disk.badName?_append.mpr ⟨hgood, Disk.badName?_append.mpr ⟨by decide, hm.good⟩⟩
  rw [List.append_assoc, ← hsplit'] at hlink
  have hbelow := hinside.resolve_link hlink hgood' hresolve
  rw [hpath] at hbelow
  obtain ⟨dir', hclash⟩ := Disk.directory_of_resolve_below h.wellFormed hbelow hm.no_slash
  rw [hsource] at hclash
  cases hclash

/-- A copy onto the place of a path writes there, or into the directory there; a link is never
    written through, for it leads to the source. -/
theorem Way.copy (h : Way t d home p)
    (hcall : d.copy (t.inputPath p) (t.outputPath p) = .ok d') : Local t.input home p d d' := by
  obtain ⟨content, mtime, dir, l, e, hsource, htarget, hnot, hother, rfl⟩ := Disk.copy_eq_ok hcall
  have hgood := Disk.good_of_resolve hsource
  obtain ⟨rs, m, hsplit, hspells, hway⟩ := h.spells
  have hplace : home ++ p.splitOn slash = home ++ rs ++ [m] := by rw [hsplit, List.append_assoc]
  split at htarget
  · next hisdir =>
    -- the target is a directory, so the file goes into it
    obtain ⟨l₀, hl₀⟩ := Disk.isDirectory_iff.mp hisdir
    rcases Disk.of_resolve_true h.wellFormed hspells hway hl₀ with
      ⟨rfl, hdir, -, -, hm⟩ | ⟨target, hlink, hresolve⟩
    · rw [← hplace] at hdir
      obtain ⟨hsplit', hinside⟩ := h.inside hsplit hdir.symm
      rw [base_inputPath h.absolute h.proper hsplit, h.join_name hsplit] at htarget
      obtain ⟨rs', m', heq, hspells', hway'⟩ := hinside.spells
      obtain ⟨rfl, hm'⟩ := List.append_inj' (hsplit'.symm.trans heq) rfl
      cases hm'
      rcases Disk.of_resolve_true h.wellFormed hspells' hway' htarget with
        ⟨rfl, rfl, -, hdir', hvalid⟩ | ⟨target, hlink, hresolve⟩
      · have hwf := wellFormed_put h.wellFormed hdir' hvalid hnot (.file content mtime)
        exact local_insert hwf (List.prefix_append _ _) fun _ heq => nomatch heq
      · exact absurd hresolve (h.no_link_inside hsource hsplit hdir.symm hm hlink)
    · -- a link at the place would lead to the source, which is no directory
      rw [← hplace] at hlink
      have hsame := h.resolve_link hlink hgood hresolve
      rw [hsource] at hsame
      cases hsame
  · rcases Disk.of_resolve_true h.wellFormed hspells hway htarget with
      ⟨rfl, rfl, -, hdir, hvalid⟩ | ⟨target, hlink, hresolve⟩
    · have hwf := wellFormed_put h.wellFormed hdir hvalid hnot (.file content mtime)
      rw [← hplace] at hwf ⊢
      exact local_insert hwf (List.prefix_refl _) fun _ heq => nomatch heq
    · -- the link leads to the source, which is not copied onto itself
      rw [← hplace] at hlink
      have hsame := h.resolve_link hlink hgood hresolve
      rw [hsource] at hsame
      cases hsame
      exact absurd rfl (hother rfl)

theorem Way.link (h : Way t d home p) (hcall : (t.link p d).1 = .ok d') :
    Local t.input home p d d' := by
  unfold OutputTree.link at hcall
  simp only at hcall
  split at hcall
  · split at hcall
    · next hsymlink =>
      cases hcall
      obtain ⟨l, hresolve, rfl⟩ := Disk.of_symlink hsymlink
      obtain ⟨rfl, hnone, rs, m, hsplit, hdir, hvalid⟩ := h.resolve hresolve
      have hwf : (d.insert (home ++ p.splitOn slash) (.link (t.inputPath p))).WellFormed := by
        rw [hsplit, ← List.append_assoc] at hnone ⊢
        exact h.wellFormed.insert hvalid hdir hnone.symm _
      refine local_insert hwf (List.prefix_refl _) fun target heq => ⟨rfl, ?_⟩
      cases heq
      rfl
    · -- a link that is refused is made good by a copy
      split at hcall
      · exact h.copy hcall
      · cases hcall
  · exact h.copy hcall

end OutputTree

end ImportScan
