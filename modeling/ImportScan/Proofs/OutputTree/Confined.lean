import ImportScan.Proofs.OutputTree.Local

/-! # Calls that stay below the output directory

    A call on an output tree changes nothing outside of the output directory, as long as the
    directories that hold its path there are real ones.  There is one exception: where a link
    cannot be made the file is copied, and a copy goes through a link that stands in its way.

    * `Enclosed`     : a path that real directories hold below the output directory.
    * `Outside`      : a location that is not below the output directory.
    * `Call`         : the calls on an output tree.
    * `Overwritten`  : a location where a copy ends up that goes through a link.
    * `call_confined` : what a call may change outside of the output directory.
-/

namespace ImportScan

open ImportScan.Path (slash)

/-! ## Components -/

namespace Path

variable {a b : Text} {ys : List Text}

/-- Whether a component leads on: it is neither empty nor a dot. -/
def isStep (c : Text) : Bool := !(c.isEmpty || c == Text.ofString ".")

theorem isStep_iff {c : Text} : isStep c = true ↔ ¬ (c = [] ∨ c = Text.ofString ".") := by
  simp [isStep]

theorem Named.isStep {c : Text} (h : Named c) : Path.isStep c = true :=
  isStep_iff.mpr fun hstay => hstay.elim h.nonempty h.not_here

/-- The names of the directories that hold what a relative path leads to. -/
def holders (p : Text) : List Text := (p.splitOn slash).dropLast.filter isStep

/-- Components of a path, but for an empty one at its end. -/
def Behind (a : Text) (ys : List Text) : Prop :=
  a.splitOn slash = ys ++ [[]] ∨ a.splitOn slash = ys

/-- The components of a path that is put behind another. -/
theorem exists_behind_join (a : Text) (hb : isAbsolute b = false) :
    ∃ ys, Behind a ys ∧ (join a b).splitOn slash = ys ++ b.splitOn slash := by
  have hjoin : join a b =
      if a.isEmpty || a.getLast? == some slash then a ++ b else a ++ slash :: b := by
    rw [join, hb]
    rfl
  obtain rfl | ⟨init, c, rfl⟩ := List.eq_nil_or_concat a
  · exact ⟨[], .inl rfl, by rw [hjoin]; rfl⟩
  · rw [List.concat_eq_append] at hjoin ⊢
    by_cases hc : c = slash
    · subst hc
      refine ⟨Text.splitOn slash init, .inl (Text.splitOn_append slash init []), ?_⟩
      rw [hjoin, if_pos (by simp), List.append_assoc]
      exact Text.splitOn_append slash init b
    · refine ⟨_, .inr rfl, ?_⟩
      rw [hjoin, if_neg (by simp [hc]), Text.splitOn_append]

/-- Without an empty component at its end a path has the same steps. -/
theorem Behind.steps {c : Text} {xs zs : List Text} (h : Behind a zs)
    (hsplit : a.splitOn slash = ys ++ (xs ++ [c])) :
    ∃ ws, zs = ys ++ ws ∧ ws.filter isStep = (xs ++ [c]).filter isStep ∧ ws ⊆ xs ++ [c] := by
  rcases h with h | h
  · rw [hsplit, ← List.append_assoc] at h
    obtain ⟨rfl, hc⟩ := List.append_inj' h rfl
    obtain rfl := List.singleton_inj.mp hc
    exact ⟨xs, rfl, by simp [isStep], List.subset_append_left _ _⟩
  · exact ⟨xs ++ [c], h.symm.trans hsplit, rfl, List.Subset.refl _⟩

/-- The last component of a path is its base name. -/
theorem base_eq {m : Text} (h : a.splitOn slash = ys ++ [m]) : base a = m := by
  have hm : slash ∉ m := Text.notMem_of_mem_splitOn (t := a) (by simp [h])
  have ha := Text.join_splitOn slash a
  rw [h] at ha
  by_cases hys : ys = []
  · subst hys
    rw [← ha]
    have htake : (m.reverse ++ []).takeWhile (· != slash) = m.reverse ++ [] := by
      refine List.takeWhile_append_of_pos fun x hx => ?_
      simp only [bne_iff_ne]
      rintro rfl
      exact hm (List.mem_reverse.mp hx)
    rw [List.append_nil] at htake
    change (m.reverse.takeWhile (· != slash)).reverse = m
    rw [htake, List.reverse_reverse]
  · rw [Text.join_snoc hys, List.append_assoc] at ha
    rw [← ha]
    exact OutputTree.base_append hm

theorem isAbsolute_of_notMem (h : slash ∉ a) : isAbsolute a = false := by
  cases a with
  | nil => rfl
  | cons x rest =>
    have hx : x ≠ slash := fun heq => h (by simp [heq])
    simpa [isAbsolute] using hx

/-- The slashes at the end of a path are empty components. -/
theorem splitOn_trimSlashes (a : Text) :
    ∃ tail, (∀ x ∈ tail, x = []) ∧ a.splitOn slash = (trimSlashes a).splitOn slash ++ tail := by
  induction a using List.reverseRecOn with
  | nil => exact ⟨[], by simp, rfl⟩
  | append_singleton a c ih =>
    by_cases hc : c = slash
    · subst hc
      obtain ⟨tail, htail, hsplit⟩ := ih
      have htrim : trimSlashes (a ++ [slash]) = trimSlashes a := by
        simp [trimSlashes, Text.trimEnd]
      refine ⟨tail ++ [[]], List.forall_mem_append.mpr ⟨htail, by simp⟩, ?_⟩
      rw [htrim, Text.splitOn_append slash a [], hsplit, List.append_assoc]
      rfl
    · have htrim : trimSlashes (a ++ [c]) = a ++ [c] := by
        simp [trimSlashes, Text.trimEnd, hc]
      exact ⟨[], by simp, by rw [htrim, List.append_nil]⟩

end Path

/-! ## Ways -/

namespace Disk

open ImportScan.Path (isStep)

variable {d : Disk} {n k : Nat} {here there : Location} {as bs cs : List Text}

/-- A way along components leads past the end of the first ones. -/
theorem Leads.split (h : Leads d n here (as ++ bs) k there) :
    ∃ j mid, Leads d n here as j mid ∧ Leads d j mid bs k there := by
  generalize hcs : as ++ bs = cs at h
  induction h generalizing as with
  | nil =>
    obtain ⟨rfl, rfl⟩ := List.append_eq_nil_iff.mp hcs
    exact ⟨_, _, .nil, .nil⟩
  | stay hc hrest ih =>
    obtain ⟨rfl, rfl⟩ | ⟨as, rfl, rfl⟩ := List.append_eq_cons_iff.mp hcs
    · exact ⟨_, _, .nil, .stay hc hrest⟩
    · obtain ⟨j, mid, hfirst, hlast⟩ := ih rfl
      exact ⟨j, mid, .stay hc hfirst, hlast⟩
  | up hrest ih =>
    obtain ⟨rfl, rfl⟩ | ⟨as, rfl, rfl⟩ := List.append_eq_cons_iff.mp hcs
    · exact ⟨_, _, .nil, .up hrest⟩
    · obtain ⟨j, mid, hfirst, hlast⟩ := ih rfl
      exact ⟨j, mid, .up hfirst, hlast⟩
  | down hc hdir hrest ih =>
    obtain ⟨rfl, rfl⟩ | ⟨as, rfl, rfl⟩ := List.append_eq_cons_iff.mp hcs
    · exact ⟨_, _, .nil, .down hc hdir hrest⟩
    · obtain ⟨j, mid, hfirst, hlast⟩ := ih rfl
      exact ⟨j, mid, .down hc hdir hfirst, hlast⟩
  | link hc hlink hrest ih =>
    obtain ⟨rfl, rfl⟩ | ⟨as, rfl, rfl⟩ := List.append_eq_cons_iff.mp hcs
    · exact ⟨_, _, .nil, .link hc hlink hrest⟩
    · -- the components behind a link come behind its target
      obtain ⟨j, mid, hfirst, hlast⟩ := ih (List.append_assoc _ _ _)
      exact ⟨j, mid, .link hc hlink hfirst, hlast⟩

/-- A way to a real directory leads down its steps. -/
theorem Leads.steps (h : Leads d n here cs k there) (hd : d.WellFormed)
    (hup : Text.ofString ".." ∉ cs)
    (hdir : d.get? (here ++ cs.filter isStep) = some .directory) :
    k = n ∧ there = here ++ cs.filter isStep := by
  induction h with
  | nil => exact ⟨rfl, by simp⟩
  | @stay _ _ _ _ c _ hc _ ih =>
    have hskip : ¬ isStep c = true := fun hstep => Path.isStep_iff.mp hstep hc
    rw [List.filter_cons_of_neg hskip] at hdir ⊢
    exact ih (fun hmem => hup (List.mem_cons_of_mem _ hmem)) hdir
  | up => exact absurd List.mem_cons_self hup
  | @down _ _ here _ c cs hc _ _ ih =>
    rw [List.filter_cons_of_pos hc.isStep, ← List.singleton_append, ← List.append_assoc] at hdir ⊢
    exact ih (fun hmem => hup (List.mem_cons_of_mem _ hmem)) hdir
  | @link _ _ here _ c target cs hc hlink _ _ =>
    -- the directories on the way are no links
    rw [List.filter_cons_of_pos hc.isStep] at hdir
    have hfirst := hd.directories hdir [c] (by simp)
    rw [hlink] at hfirst
    cases hfirst

theorem get?_insert_of_ne {l r : Location} (d : Disk) (h : l ≠ r) (e : Entry) :
    (d.insert r e).get? l = d.get? l := by
  by_cases hr : r = []
  · subst hr
    have hne : (([] : Location) == l) = false := by simpa using fun heq : [] = l => h heq.symm
    have hkeep : (l != []) = true := by simpa using h
    have hrest : (⟨d.entries.filter (·.1 != [])⟩ : Disk).get? l = d.get? l := by
      rw [get?_filter d (· != []) h, if_pos hkeep]
    rw [← hrest, get?_of_ne_nil h, get?_of_ne_nil h, insert, List.find?_cons, hne]
  · rw [get?_insert d hr, if_neg h]

/-- The components of a good path are good. -/
theorem badName?_of_mem {path c : Text} (h : badName? path = none) (hc : c ∈ path.splitOn slash) :
    badName? c = none := by
  rw [← Text.join_splitOn slash path] at h
  exact badName?_join.mp h c hc

/-- A path is good if its components are those of a good one. -/
theorem Behind.good {a path : Text} {ys zs : List Text} (ha : Path.Behind a ys)
    (h : badName? path = none) (hsplit : path.splitOn slash = ys ++ zs) : badName? a = none := by
  have hys : ∀ c ∈ ys, badName? c = none := fun c hc =>
    badName?_of_mem h (by rw [hsplit]; exact List.mem_append_left _ hc)
  rw [← Text.join_splitOn slash a]
  refine badName?_join.mpr ?_
  rcases ha with ha | ha
  · rw [ha]
    exact List.forall_mem_append.mpr ⟨hys, List.forall_mem_singleton.mpr rfl⟩
  · rw [ha]
    exact hys

/-- A way along the components of a path is a way to where the path leads. -/
theorem Leads.resolve {a : Text} {ys : List Text} {k : Nat} {home : Location}
    (h : Leads d 40 [] ys k home) (hd : d.WellFormed) (ha : Path.Behind a ys)
    (hgood : badName? a = none) : d.resolve true a = .ok (home, some .directory) := by
  have hway : Leads d 40 [] (a.splitOn slash) k home := by
    rcases ha with ha | ha
    · rw [ha]
      exact h.append (.stay (.inl rfl) .nil)
    · rwa [ha]
  rw [resolve_of_good hgood, descend_leads_true hway, hway.directory hd rfl]

end Disk

/-! ## Paths below the output directory -/

namespace OutputTree

open ImportScan.Path (isStep)

variable {t : OutputTree} {d d' : Disk} {p q c : Text} {home l : Location}
variable {place : Disk.Place} {last : Bool} {xs ys : List Text}

/-- A relative path that stays below the output directory: it does not go up, and the directories
    that hold it there are real ones. -/
structure Enclosed (t : OutputTree) (d : Disk) (p : Text) : Prop where
  wellFormed : d.WellFormed
  resolved : ∃ cs, Path.Resolved t.output cs
  relative : Path.isAbsolute p = false
  inward : Text.ofString ".." ∉ p.splitOn slash
  held : ∀ home, d.resolve true t.output = .ok (home, some .directory) →
    d.get? (home ++ Path.holders p) = some .directory

/-- A location that is neither that of the output directory nor below it. -/
def Outside (t : OutputTree) (d : Disk) (l : Location) : Prop :=
  ∀ home e, d.resolve true t.output = .ok (home, e) → ¬ home <+: l

/-- What leads somewhere through the output directory and through real directories below it
    leads down its steps, unless a link stands at its end. -/
theorem place_cases (hd : d.WellFormed) (hys : Path.Behind t.output ys)
    (hsplit : q.splitOn slash = ys ++ (xs ++ [c])) (hup : Text.ofString ".." ∉ xs ++ [c])
    (hheld : ∀ home, d.resolve true t.output = .ok (home, some .directory) →
      d.get? (home ++ xs.filter isStep) = some .directory)
    (hresolve : d.resolve last q = .ok place) :
    ∃ home, d.resolve true t.output = .ok (home, some .directory) ∧
      (place = (home ++ (xs ++ [c]).filter isStep, d.get? (home ++ (xs ++ [c]).filter isStep))
        ∨ last = true ∧ d.isLink q = true) := by
  have hgood := Disk.good_of_resolve hresolve
  have hsplit' : q.splitOn slash = (ys ++ xs) ++ [c] := by rw [hsplit, List.append_assoc]
  have hdescend := hresolve
  rw [Disk.resolve_of_good hgood, hsplit'] at hdescend
  obtain ⟨k, there, hleads, hplace⟩ := Disk.leads_of_descend hdescend
  -- the way goes through the output directory, and from there down real directories
  obtain ⟨j, home, houter, hinner⟩ := hleads.split
  have hout := houter.resolve hd hys (Disk.Behind.good hys hgood hsplit)
  have hdir := hheld home hout
  rw [List.mem_append, not_or] at hup
  obtain ⟨rfl, rfl⟩ := hinner.steps hd hup.1 hdir
  refine ⟨home, hout, ?_⟩
  obtain hstay | rfl | hnamed := Disk.named_or c
  · rw [Disk.descend_stay _ _ hstay] at hplace
    have hskip : ¬ isStep c = true := fun hstep => Path.isStep_iff.mp hstep hstay
    rw [List.filter_append, List.filter_cons_of_neg hskip]
    left
    simpa [Disk.descend] using hplace.symm
  · exact absurd (List.mem_singleton.mpr rfl) hup.2
  · rw [List.filter_append, List.filter_cons_of_pos hnamed.isStep, List.filter_nil,
      ← List.append_assoc]
    rw [Disk.descend_named _ _ hnamed] at hplace
    split at hplace
    · next hget =>
      cases hplace
      exact .inl (by rw [hget])
    · next hget =>
      cases hplace
      exact .inl rfl
    · next hget =>
      cases hplace
      exact .inl (by rw [hget])
    · next target hget =>
      cases last with
      | false =>
        cases hplace
        exact .inl (by rw [hget])
      | true =>
        -- the link that stands at the end is seen when it is not followed
        refine .inr ⟨rfl, ?_⟩
        rw [Disk.isLink, Disk.resolve_of_good hgood, hsplit',
          Disk.descend_leads hleads false (by simp), Disk.descend_last _ hnamed, hget]

/-- Where a path below the output directory leads, a link at its end left alone. -/
theorem Enclosed.leads (h : Enclosed t d p)
    (hresolve : d.resolve false (t.outputPath p) = .ok place) :
    ∃ home, d.resolve true t.output = .ok (home, some .directory) ∧ home <+: place.1 := by
  obtain ⟨rs, m, hsplit⟩ := exists_splitOn p
  obtain ⟨ys, hys, hjoin⟩ := Path.exists_behind_join t.output h.relative
  have hheld := h.held
  have hinward := h.inward
  rw [Path.holders, hsplit, List.dropLast_concat] at hheld
  rw [hsplit] at hjoin hinward
  obtain ⟨home, hout, rfl | ⟨hlast, -⟩⟩ :=
    place_cases h.wellFormed hys hjoin hinward hheld hresolve
  · exact ⟨home, hout, List.prefix_append _ _⟩
  · cases hlast

/-! ## Calls -/

/-- What is put below the output directory or taken away there is not seen outside. -/
theorem Outside.ne {e : Option Entry} (hl : Outside t d l)
    (hout : d.resolve true t.output = .ok (home, e)) {r : Location} (hr : home <+: r) :
    r ≠ [] ∧ ¬ r <+: l := by
  have hhome := hl home e hout
  constructor
  · rintro rfl
    rw [List.prefix_nil.mp hr] at hhome
    exact hhome (List.nil_prefix)
  · exact fun hrl => hhome (hr.trans hrl)

theorem Outside.get?_insert {e : Option Entry} (hl : Outside t d l)
    (hout : d.resolve true t.output = .ok (home, e)) {r : Location} (hr : home <+: r)
    (entry : Entry) : (d.insert r entry).get? l = d.get? l := by
  obtain ⟨hne, hnot⟩ := hl.ne hout hr
  rw [Disk.get?_insert d hne, if_neg]
  rintro rfl
  exact hnot (List.prefix_refl _)

theorem Outside.get?_erase {e : Option Entry} (hl : Outside t d l)
    (hout : d.resolve true t.output = .ok (home, e)) {r : Location} (hr : home <+: r) :
    (d.erase r).get? l = d.get? l := by
  obtain ⟨hne, hnot⟩ := hl.ne hout hr
  rw [Disk.get?_erase d hne, if_neg]
  rintro rfl
  exact hnot (List.prefix_refl _)

theorem Outside.get?_eraseTree {e : Option Entry} (hl : Outside t d l)
    (hout : d.resolve true t.output = .ok (home, e)) {r : Location} (hr : home <+: r) :
    (d.eraseTree r).get? l = d.get? l := by
  obtain ⟨hne, hnot⟩ := hl.ne hout hr
  rw [Disk.get?_eraseTree d hne, if_neg hnot]

theorem Enclosed.unlink (h : Enclosed t d p) (hl : Outside t d l)
    (hcall : t.unlink p d = .ok d') : d'.get? l = d.get? l := by
  obtain ⟨⟨r, e⟩, hlocate, hcall⟩ := bind_eq_ok.mp hcall
  obtain ⟨home, hout, hr⟩ := h.leads (Disk.locate_eq_ok.mp hlocate)
  split at hcall
  · cases hcall
  · cases hcall
  · next heq =>
    cases heq
    cases hcall
    exact hl.get?_erase hout hr

theorem Enclosed.rmdir (h : Enclosed t d p) (hl : Outside t d l)
    (hcall : t.rmdir p d = .ok d') : d'.get? l = d.get? l := by
  obtain ⟨⟨r, e⟩, hlocate, hcall⟩ := bind_eq_ok.mp hcall
  obtain ⟨home, hout, hr⟩ := h.leads (Disk.locate_eq_ok.mp hlocate)
  split at hcall
  · cases hcall
  · next heq =>
    cases heq
    split at hcall
    · cases hcall
      exact hl.get?_erase hout hr
    · cases hcall
  · cases hcall

theorem Enclosed.removeTree (h : Enclosed t d p) (hl : Outside t d l)
    (hcall : d.removeTree (t.outputPath p) = .ok d') : d'.get? l = d.get? l := by
  obtain ⟨⟨r, e⟩, hlocate, hcall⟩ := bind_eq_ok.mp hcall
  obtain ⟨home, hout, hr⟩ := h.leads (Disk.locate_eq_ok.mp hlocate)
  split at hcall
  · cases hcall
  · next heq =>
    cases heq
    cases hcall
    exact hl.get?_eraseTree hout hr
  · cases hcall
  · cases hcall

theorem Enclosed.remove (h : Enclosed t d p) (hl : Outside t d l)
    (hcall : t.remove p d = .ok d') : d'.get? l = d.get? l := by
  unfold OutputTree.remove at hcall
  simp only at hcall
  split at hcall
  · exact h.unlink hl hcall
  · split at hcall
    · exact h.removeTree hl hcall
    · cases hcall
      rfl

/-- A resolved path does not end with an empty component, unless it has no other. -/
theorem eq_of_empty_tail {cs init tail : List Text} (h : Path.Resolved t.output cs)
    (hsplit : t.output.splitOn slash = init ++ [c] ++ tail) (hc : c ≠ [])
    (htail : ∀ x ∈ tail, x = []) : tail = [] := by
  obtain ⟨start, hstart, hsplit'⟩ := h.splitOn
  obtain rfl | ⟨tail, x, rfl⟩ := List.eq_nil_or_concat tail
  · rfl
  · rw [List.concat_eq_append] at hsplit htail
    obtain rfl : x = [] := htail x (by simp)
    rw [hsplit'] at hsplit
    obtain rfl | ⟨names, n, rfl⟩ := List.eq_nil_or_concat cs
    · -- without names there are empty components only
      rw [List.append_nil] at hsplit
      exact absurd (hstart c (by rw [hsplit]; simp)) hc
    · rw [List.concat_eq_append, ← List.append_assoc, ← List.append_assoc] at hsplit
      obtain ⟨-, hlast⟩ := List.append_inj' hsplit rfl
      cases hlast
      exact absurd rfl (h.proper [] (by simp)).nonempty

/-- A path of which the slashes at the end are dropped leads below the output directory, or to
    the output directory, if nothing is there. -/
theorem Enclosed.leads_trimmed (h : Enclosed t d p)
    (hresolve : d.resolve false (Path.trimSlashes (t.outputPath p)) = .ok (l, none)) :
    ∃ home e, d.resolve true t.output = .ok (home, e) ∧ home <+: l := by
  obtain ⟨hgood, hnone, zs, c, k, there, hzs, hc, rfl, hleads⟩ :=
    Disk.leads_of_resolve_none h.wellFormed hresolve
  obtain ⟨cs, hresolved⟩ := h.resolved
  obtain ⟨ys, hys, hjoin⟩ := Path.exists_behind_join t.output h.relative
  obtain ⟨tail, htail, htrim⟩ := Path.splitOn_trimSlashes (t.outputPath p)
  have heq : ys ++ p.splitOn slash = zs ++ [c] ++ tail := by
    rw [← hjoin, ← hzs]
    exact htrim
  -- either the last name is the one of the output directory, or it comes after that
  have hroot : ∀ more, (∀ x ∈ more, x = []) → ys = zs ++ [c] ++ more →
      ∃ home e, d.resolve true t.output = .ok (home, e) ∧ home <+: there ++ [c] := by
    rintro more hmore rfl
    have hsplit : t.output.splitOn slash = zs ++ [c] := by
      rcases hys with hys | hys
      · rw [List.append_assoc] at hys
        have hempty := eq_of_empty_tail hresolved hys hc.nonempty
          (List.forall_mem_append.mpr ⟨hmore, by simp⟩)
        simp at hempty
      · rw [hys, eq_of_empty_tail hresolved hys hc.nonempty hmore, List.append_nil]
    rw [← splitOn_injective (hsplit.trans hzs.symm)] at hgood
    refine ⟨there ++ [c], none, ?_, List.prefix_refl _⟩
    rw [Disk.resolve_of_good hgood, hsplit, Disk.descend_leads hleads true (by simp),
      Disk.descend_named _ _ hc, hnone]
    rfl
  rcases List.append_eq_append_iff.mp heq with ⟨inner, hinner, hp⟩ | ⟨more, hmore, htail'⟩
  · obtain rfl | ⟨xs, c', rfl⟩ := List.eq_nil_or_concat inner
    · exact hroot [] (by simp) (by rw [hinner]; simp)
    · rw [List.concat_eq_append, ← List.append_assoc] at hinner
      -- the name comes after that of the output directory, which the way goes through
      obtain ⟨rfl, hc'⟩ := List.append_inj' hinner rfl
      obtain ⟨j, home, houter, hway⟩ := hleads.split
      rw [List.append_assoc] at hzs
      have hout := houter.resolve h.wellFormed hys (Disk.Behind.good hys hgood hzs)
      have hheld := h.held home hout
      have hinward := h.inward
      rw [List.concat_eq_append, List.append_assoc] at hp
      rw [Path.holders, hp, List.dropLast_append_of_ne_nil (by simp), List.filter_append] at hheld
      rw [hp, List.mem_append, not_or] at hinward
      have hdir := h.wellFormed.directories hheld _ (List.prefix_append _ _)
      obtain ⟨-, rfl⟩ := hway.steps h.wellFormed hinward.1 hdir
      refine ⟨home, _, hout, ?_⟩
      rw [List.append_assoc]
      exact List.prefix_append _ _
  · refine hroot more (fun x hx => htail x ?_) hmore
    rw [htail']
    exact List.mem_append_left _ hx

theorem Enclosed.mkdir (h : Enclosed t d p) (hl : Outside t d l)
    (hcall : t.mkdir p d = .ok d') : d'.get? l = d.get? l := by
  unfold OutputTree.mkdir Disk.mkdir at hcall
  split at hcall
  · cases hcall
  · cases hcall
  · next hresolve =>
    cases hcall
    obtain ⟨home, e, hout, hr⟩ := h.leads_trimmed hresolve
    exact hl.get?_insert hout hr _

/-! ## Copies -/

/-- The name of a file in the directory at the place of its path. -/
def inside (t : OutputTree) (p : Text) : Text :=
  Path.join (t.outputPath p) (Path.base (t.inputPath p))

/-- Where a copy of a file is written: a copy onto a directory goes into it. -/
def copyPath (t : OutputTree) (d : Disk) (p : Text) : Text :=
  if d.isDirectory (t.outputPath p) then t.inside p else t.outputPath p

/-- A location that a file was copied to through a link: the link stands at the place of the
    path, or under the name of the file in the directory there. -/
structure Overwritten (t : OutputTree) (d d' : Disk) (p : Text) (l : Location) : Prop where
  link : d.isLink (t.outputPath p) = true ∨
    d.isDirectory (t.outputPath p) = true ∧ d.isLink (t.inside p) = true
  leads : ∃ e, d.resolve true (t.copyPath d p) = .ok (l, e)
  copied : ∃ content mtime, d.stat? (t.inputPath p) = some (.file content mtime)
    ∧ d'.get? l = some (.file content mtime)

/-- A file is copied below the output directory, unless a link diverts it. -/
theorem Enclosed.copy_place (h : Enclosed t d p) {e : Option Entry}
    (hresolve : d.resolve true (t.copyPath d p) = .ok (l, e)) :
    (∃ home, d.resolve true t.output = .ok (home, some .directory) ∧ home <+: l) ∨
      d.isLink (t.outputPath p) = true ∨
      d.isDirectory (t.outputPath p) = true ∧ d.isLink (t.inside p) = true := by
  obtain ⟨rs, m, hsplit⟩ := exists_splitOn p
  obtain ⟨ys, hys, hjoin⟩ := Path.exists_behind_join t.output h.relative
  obtain ⟨is, -, hinput⟩ := Path.exists_behind_join t.input h.relative
  have hheld := h.held
  have hinward := h.inward
  rw [Path.holders, hsplit, List.dropLast_concat] at hheld
  rw [hsplit] at hjoin hinward
  rw [hsplit, ← List.append_assoc] at hinput
  -- the file has the name that the path ends with, so the copy goes by no other
  have hbase : Path.base (t.inputPath p) = m := Path.base_eq hinput
  unfold copyPath at hresolve
  split at hresolve
  · next hisdir =>
    obtain ⟨r, hr⟩ := Disk.isDirectory_iff.mp hisdir
    obtain ⟨home, hout, hplace | ⟨-, hlink⟩⟩ :=
      place_cases h.wellFormed hys hjoin hinward hheld hr
    · -- the file goes into a real directory below the output directory
      obtain ⟨rfl, hdir⟩ := Prod.mk.inj hplace
      have hslash : slash ∉ m := Text.notMem_of_mem_splitOn (t := p) (by simp [hsplit])
      obtain ⟨zs, hzs, hinside⟩ :=
        Path.exists_behind_join (t.outputPath p) (Path.isAbsolute_of_notMem hslash)
      obtain ⟨ws, rfl, hsteps, hws⟩ := hzs.steps hjoin
      rw [Text.splitOn_of_notMem hslash, List.append_assoc, ← hbase] at hinside
      have hup : Text.ofString ".." ∉ ws ++ [Path.base (t.inputPath p)] := by
        rw [hbase]
        exact fun hmem => hinward (List.append_subset.mpr ⟨hws, by simp⟩ hmem)
      have hheld' : ∀ home', d.resolve true t.output = .ok (home', some .directory) →
          d.get? (home' ++ ws.filter isStep) = some .directory := by
        intro home' hout'
        rw [hout] at hout'
        cases hout'
        rw [hsteps]
        exact hdir.symm
      obtain ⟨home', hout', hplace | ⟨-, hlink⟩⟩ :=
        place_cases h.wellFormed hys hinside hup hheld' hresolve
      · obtain ⟨rfl, -⟩ := Prod.mk.inj hplace
        exact .inl ⟨home', hout', List.prefix_append _ _⟩
      · exact .inr (.inr ⟨hisdir, hlink⟩)
    · exact .inr (.inl hlink)
  · obtain ⟨home, hout, hplace | ⟨-, hlink⟩⟩ :=
      place_cases h.wellFormed hys hjoin hinward hheld hresolve
    · obtain ⟨rfl, -⟩ := Prod.mk.inj hplace
      exact .inl ⟨home, hout, List.prefix_append _ _⟩
    · exact .inr (.inl hlink)

/-- A copy changes nothing outside of the output directory but what it writes through a link. -/
theorem Enclosed.copy (h : Enclosed t d p) (hl : Outside t d l)
    (hcall : d.copy (t.inputPath p) (t.outputPath p) = .ok d') :
    d'.get? l = d.get? l ∨ Overwritten t d d' p l := by
  obtain ⟨content, mtime, source, r, e, hsource, htarget, -, -, rfl⟩ := Disk.copy_eq_ok hcall
  change d.resolve true (t.copyPath d p) = .ok (r, e) at htarget
  rcases h.copy_place htarget with ⟨home, hout, hr⟩ | hlink
  · exact .inl (hl.get?_insert hout hr _)
  · by_cases hrl : l = r
    · subst hrl
      by_cases hroot : l = []
      · rw [hroot]
        exact .inl rfl
      · refine .inr ⟨hlink, ⟨e, htarget⟩, content, mtime, ?_, ?_⟩
        · rw [Disk.stat?, hsource]
        · rw [Disk.get?_insert d hroot, if_pos rfl]
    · exact .inl (d.get?_insert_of_ne hrl _)

theorem Enclosed.link (h : Enclosed t d p) (hl : Outside t d l)
    (hcall : (t.link p d).1 = .ok d') : d'.get? l = d.get? l ∨ Overwritten t d d' p l := by
  unfold OutputTree.link at hcall
  simp only at hcall
  split at hcall
  · split at hcall
    · next hsymlink =>
      cases hcall
      obtain ⟨l', hresolve, rfl⟩ := Disk.of_symlink hsymlink
      obtain ⟨home, hout, hr⟩ := h.leads hresolve
      exact .inl (hl.get?_insert hout hr _)
    · -- a link that is refused is made good by a copy
      split at hcall
      · exact h.copy hl hcall
      · cases hcall
  · exact h.copy hl hcall

/-- The calls on an output tree. -/
inductive Call where
  | link
  | unlink
  | remove
  | rmdir
  | mkdir
deriving Repr, DecidableEq

namespace Call

/-- What a call on a path gives. -/
def run (t : OutputTree) (p : Text) (d : Disk) : Call → Except Fault Disk
  | .link => (t.link p d).1
  | .unlink => t.unlink p d
  | .remove => t.remove p d
  | .rmdir => t.rmdir p d
  | .mkdir => t.mkdir p d

/-- The disk after a call, which is the same as before if the call is refused. -/
def after (t : OutputTree) (p : Text) (d : Disk) (call : Call) : Disk :=
  (call.run t p d).toOption.getD d

end Call

/-- The calls on a path below the output directory leave everything outside of it as it was,
    whether they succeed or are refused and whatever stands at the path, but for one: making
    a file available overwrites the file that a link at its place leads to, or a link under its
    name in the directory at its place, with the file. -/
theorem call_confined (h : Enclosed t d p) (hl : Outside t d l) (call : Call) :
    (call.after t p d).get? l = d.get? l
      ∨ call = .link ∧ Overwritten t d (call.after t p d) p l := by
  unfold Call.after
  cases hrun : call.run t p d with
  | error => exact .inl rfl
  | ok d' =>
    change d'.get? l = d.get? l ∨ call = .link ∧ Overwritten t d d' p l
    cases call with
    | link => exact (h.link hl hrun).imp id fun hover => ⟨rfl, hover⟩
    | unlink => exact .inl (h.unlink hl hrun)
    | remove => exact .inl (h.remove hl hrun)
    | rmdir => exact .inl (h.rmdir hl hrun)
    | mkdir => exact .inl (h.mkdir hl hrun)

/-! A directory of two files and an output directory next to it, in which a link under the name
    of the first file leads to the second. -/

namespace Stray

def tree : OutputTree := ⟨"/in", "/out", true⟩

def disk : Disk :=
  ⟨[(["in"], .directory), (["in", "a.js"], .file [97] .zero), (["in", "b.js"], .file [98] .zero),
    (["out"], .directory), (["out", "a.js"], .link "/in/b.js")]⟩

theorem resolve_output : disk.resolve true tree.output = .ok (["out"], some .directory) := by
  decide +kernel

theorem enclosed : Enclosed tree disk "a.js" where
  wellFormed := by decide +kernel
  resolved := ⟨["out"], by decide, .inl rfl⟩
  relative := rfl
  inward := by decide
  held home hout := by
    rw [resolve_output] at hout
    cases hout
    rfl

theorem outside : Outside tree disk ["in", "b.js"] := by
  intro home e hout
  rw [resolve_output] at hout
  cases hout
  decide

end Stray

theorem call_confined_stray :
    (Call.remove.after Stray.tree "a.js" Stray.disk).get? ["in", "b.js"] = some (.file [98] .zero)
      ∧ (Call.remove.after Stray.tree "a.js" Stray.disk).get? ["out", "a.js"] = none := by
  refine ⟨?_, by decide +kernel⟩
  rcases call_confined Stray.enclosed Stray.outside .remove with heq | ⟨hlink, -⟩
  · exact heq
  · cases hlink

/-- The link is written through: the second file has the octets of the first, whether links are
    made or copies. -/
theorem link_overwrites :
    (Enclosed Stray.tree Stray.disk "a.js" ∧ Outside Stray.tree Stray.disk ["in", "b.js"])
      ∧ Stray.disk.get? ["in", "b.js"] = some (.file [98] .zero)
      ∧ (Call.link.after Stray.tree "a.js" Stray.disk).get? ["in", "b.js"]
          = some (.file [97] .zero)
      ∧ (Call.link.after { Stray.tree with links := false } "a.js" Stray.disk).get? ["in", "b.js"]
          = some (.file [97] .zero) :=
  ⟨⟨Stray.enclosed, Stray.outside⟩, rfl, by decide +kernel, by decide +kernel⟩

end OutputTree

end ImportScan
