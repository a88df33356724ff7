import ImportScan.Proofs.Disk.Entries
import ImportScan.Proofs.Path.Components

/-! # Where paths lead

    A path is followed component by component, through directories and links.  The last
    component is different: it need not exist, and a link that it names may be left alone.  So
    a path is resolved in two parts, the way to its last component and that component.

    * `Disk.Leads`       : the way from a location along components, all links followed.
    * `descend_leads`    : components behind such a way are resolved from its end.
    * `leads_of_descend` : what is resolved has such a way to its last component.
    * `Disk.Hangs`       : a path leads to a place without passing through it.
    * `stat?_join_of_directory` : what is joined to the path of a directory leads below it.
-/

namespace ImportScan.Disk

variable {d d' : Disk} {n k : Nat} {here there : Location} {c : Text} {cs rest : List Text}

/-! ## Ways -/

/-- Where a link goes on: from the root, or from the directory that it stands in. -/
def linkStart (here : Location) (target : Text) : Location :=
  if Path.isAbsolute target then [] else here

/-- The way from a location along components, where every component is there and is or
    leads to a directory.  The numbers count the links that may still be followed, before
    and after. -/
inductive Leads (d : Disk) : Nat → Location → List Text → Nat → Location → Prop where
  | nil {n : Nat} {here : Location} : Leads d n here [] n here
  | stay {n k : Nat} {here there : Location} {c : Text} {cs : List Text} :
      c = [] ∨ c = Text.ofString "." → Leads d n here cs k there → Leads d n here (c :: cs) k there
  | up {n k : Nat} {here there : Location} {cs : List Text} :
      Leads d n here.dropLast cs k there → Leads d n here (Text.ofString ".." :: cs) k there
  | down {n k : Nat} {here there : Location} {c : Text} {cs : List Text} :
      Path.Named c → d.get? (here ++ [c]) = some .directory →
      Leads d n (here ++ [c]) cs k there → Leads d n here (c :: cs) k there
  | link {n k : Nat} {here there : Location} {c target : Text} {cs : List Text} :
      Path.Named c → d.get? (here ++ [c]) = some (.link target) →
      Leads d n (linkStart here target) (target.splitOn Path.slash ++ cs) k there →
      Leads d (n + 1) here (c :: cs) k there

/-- A way stays open when entries are added. -/
theorem Leads.mono (h : Leads d n here cs k there)
    (hd : ∀ l e, d.get? l = some e → d'.get? l = some e) : Leads d' n here cs k there := by
  induction h with
  | nil => exact .nil
  | stay hc _ ih => exact .stay hc ih
  | up _ ih => exact .up ih
  | down hc hdir _ ih => exact .down hc (hd _ _ hdir) ih
  | link hc hlink _ ih => exact .link hc (hd _ _ hlink) ih

theorem Leads.append {cs' : List Text} {k' : Nat} {there' : Location}
    (h : Leads d n here cs k there) (h' : Leads d k there cs' k' there') :
    Leads d n here (cs ++ cs') k' there' := by
  induction h with
  | nil => exact h'
  | stay hc _ ih => exact .stay hc (ih h')
  | up _ ih => exact .up (ih h')
  | down hc hdir _ ih => exact .down hc hdir (ih h')
  | link hc hlink _ ih =>
    -- what comes behind the first way comes behind the target, too
    rw [List.cons_append]
    refine .link hc hlink ?_
    rw [← List.append_assoc]
    exact ih h'

/-- No links are gained on a way. -/
theorem Leads.le (h : Leads d n here cs k there) : k ≤ n := by
  induction h with
  | nil => exact Nat.le_refl _
  | stay _ _ ih => exact ih
  | up _ ih => exact ih
  | down _ _ _ ih => exact ih
  | link _ _ _ ih => exact Nat.le_succ_of_le ih

/-- A way ends in a directory if it starts in one. -/
theorem Leads.directory (h : Leads d n here cs k there) (hd : d.WellFormed)
    (hhere : d.get? here = some .directory) : d.get? there = some .directory := by
  induction h with
  | nil => exact hhere
  | stay _ _ ih => exact ih hhere
  | @up n k here there cs _ ih =>
    apply ih
    obtain rfl | ⟨init, last, rfl⟩ := List.eq_nil_or_concat here
    · exact hhere
    · rw [List.concat_eq_append, List.dropLast_concat]
      rw [List.concat_eq_append] at hhere
      exact hd.dir hhere
  | down _ hdir _ ih => exact ih hdir
  | @link n k here there c target cs _ _ _ ih =>
    apply ih
    -- a link goes on from the root or from the directory that it stands in
    unfold linkStart
    split
    · rfl
    · exact hhere

/-! ## One component -/

theorem descend_stay (last : Bool) (again : Location → List Text → Except DiskFault Place)
    (hc : c = [] ∨ c = Text.ofString ".") :
    descend d last again here (c :: rest) = descend d last again here rest := by
  rw [descend, if_pos]
  rcases hc with rfl | rfl <;> simp

theorem descend_up (last : Bool) (again : Location → List Text → Except DiskFault Place) :
    descend d last again here (Text.ofString ".." :: rest) =
      descend d last again here.dropLast rest := by
  rw [descend, if_neg, if_pos]
  · simp
  · decide

theorem descend_named (last : Bool) (again : Location → List Text → Except DiskFault Place)
    (hc : Path.Named c) :
    descend d last again here (c :: rest) =
      match d.get? (here ++ [c]) with
      | none => if rest.isEmpty then .ok (here ++ [c], none) else .error .missing
      | some .directory => descend d last again (here ++ [c]) rest
      | some (.file content mtime) =>
        if rest.isEmpty then .ok (here ++ [c], some (.file content mtime))
        else .error .notDirectory
      | some (.link target) =>
        if rest.isEmpty && !last then .ok (here ++ [c], some (.link target))
        else again (linkStart here target) (target.splitOn Path.slash ++ rest) := by
  have hskip : (c.isEmpty || c == Text.ofString ".") = false := by
    simp [hc.nonempty, hc.not_here]
  have hup : (c == Text.ofString "..") = false := by simp [hc.not_up]
  rw [descend, hskip, hup]
  rfl

/-- A last component is looked up where the way to it ends; a link there may be left alone. -/
theorem descend_last (again : Location → List Text → Except DiskFault Place)
    (hc : Path.Named c) :
    descend d false again here [c] = .ok (here ++ [c], d.get? (here ++ [c])) := by
  rw [descend_named false again hc]
  cases hget : d.get? (here ++ [c]) with
  | none => rfl
  | some e =>
    cases e with
    | directory =>
      show Except.ok (here ++ [c], d.get? (here ++ [c])) = _
      rw [hget]
    | file => rfl
    | link => rfl

/-! ## Ways and resolution -/

/-- Components behind a way are resolved from where it ends. -/
theorem descend_leads (h : Leads d n here cs k there) (last : Bool) (hrest : rest ≠ []) :
    descend d last (follow d last n) here (cs ++ rest) =
      descend d last (follow d last k) there rest := by
  induction h with
  | nil => rfl
  | stay hc _ ih => rw [List.cons_append, descend_stay _ _ hc, ih]
  | up _ ih => rw [List.cons_append, descend_up, ih]
  | down hc hdir _ ih =>
    rw [List.cons_append, descend_named _ _ hc, hdir]
    exact ih
  | @link n k here there c target cs hc hlink _ ih =>
    have hmore : (cs ++ rest).isEmpty = false := by simp [hrest]
    rw [List.cons_append, descend_named _ _ hc, hlink]
    simp only [hmore, Bool.false_and, Bool.false_eq_true, if_false]
    rw [← List.append_assoc]
    exact ih

/-- With all links followed, a way leads to its end. -/
theorem descend_leads_true (h : Leads d n here cs k there) :
    descend d true (follow d true n) here cs = .ok (there, d.get? there) := by
  induction h with
  | nil => rfl
  | stay hc _ ih => rw [descend_stay _ _ hc, ih]
  | up _ ih => rw [descend_up, ih]
  | down hc hdir _ ih =>
    rw [descend_named _ _ hc, hdir]
    exact ih
  | link hc hlink _ ih =>
    rw [descend_named _ _ hc, hlink]
    simp only [Bool.not_true, Bool.and_false, Bool.false_eq_true, if_false]
    exact ih

/-- A component names something, or stands for the directory it stands in or the one above. -/
theorem named_or (c : Text) :
    (c = [] ∨ c = Text.ofString ".") ∨ c = Text.ofString ".." ∨ Path.Named c := by
  by_cases hstay : c = [] ∨ c = Text.ofString "."
  · exact .inl hstay
  · by_cases hup : c = Text.ofString ".."
    · exact .inr (.inl hup)
    · exact .inr (.inr ⟨fun h => hstay (.inl h), fun h => hstay (.inr h), hup⟩)

/-- What is resolved has a way to its last component, if that is so behind every link. -/
theorem leads_of_descend_of_links {last : Bool} {place : Place}
    (hlinks : ∀ start cs, follow d last n start (cs ++ [c]) = .ok place →
      ∃ m k there, n = m + 1 ∧ Leads d m start cs k there ∧
        descend d last (follow d last k) there [c] = .ok place)
    (h : descend d last (follow d last n) here (cs ++ [c]) = .ok place) :
    ∃ k there, Leads d n here cs k there ∧
      descend d last (follow d last k) there [c] = .ok place := by
  induction cs generalizing here with
  | nil => exact ⟨n, here, .nil, h⟩
  | cons c' cs ih =>
    rw [List.cons_append] at h
    obtain hstay | rfl | hnamed := named_or c'
    · rw [descend_stay _ _ hstay] at h
      obtain ⟨k, there, hleads, hplace⟩ := ih h
      exact ⟨k, there, .stay hstay hleads, hplace⟩
    · rw [descend_up] at h
      obtain ⟨k, there, hleads, hplace⟩ := ih h
      exact ⟨k, there, .up hleads, hplace⟩
    · have hmore : (cs ++ [c]).isEmpty = false := by simp
      rw [descend_named _ _ hnamed] at h
      simp only [hmore, Bool.false_and, Bool.false_eq_true, if_false] at h
      split at h
      · cases h
      · next hdir =>
        obtain ⟨k, there, hleads, hplace⟩ := ih h
        exact ⟨k, there, .down hnamed hdir hleads, hplace⟩
      · cases h
      · next target hlink =>
        rw [← List.append_assoc] at h
        obtain ⟨m, k, there, rfl, hleads, hplace⟩ := hlinks _ _ h
        exact ⟨k, there, .link hnamed hlink hleads, hplace⟩

/-- What is resolved has a way to its last component. -/
theorem leads_of_descend {last : Bool} {place : Place}
    (h : descend d last (follow d last n) here (cs ++ [c]) = .ok place) :
    ∃ k there, Leads d n here cs k there ∧
      descend d last (follow d last k) there [c] = .ok place := by
  -- behind a link one fewer may be followed
  induction n generalizing here cs with
  | zero => exact leads_of_descend_of_links (fun _ _ h => by cases h) h
  | succ n ih =>
    refine leads_of_descend_of_links (fun start cs' h' => ?_) h
    obtain ⟨k, there, hleads, hplace⟩ := ih h'
    exact ⟨n, k, there, rfl, hleads, hplace⟩

/-- With all links followed, what is resolved to a directory has a way there. -/
theorem leads_of_descend_directory {l : Location}
    (h : descend d true (follow d true n) here cs = .ok (l, some .directory)) :
    ∃ k, Leads d n here cs k l := by
  have hend : ∀ {here again}, descend d true again here [] = .ok (l, some .directory) →
      l = here := fun h => (congrArg Prod.fst (Except.ok.inj h)).symm
  induction n using Nat.strongRecOn generalizing here cs with
  | ind n ih =>
    obtain rfl | ⟨init, c, rfl⟩ := List.eq_nil_or_concat cs
    · obtain rfl := hend h
      exact ⟨n, .nil⟩
    · rw [List.concat_eq_append] at h ⊢
      obtain ⟨k, there, hleads, hplace⟩ := leads_of_descend h
      -- there is a way to the last component; a link there goes on with one fewer
      suffices hlast : ∃ k', Leads d k there [c] k' l by
        obtain ⟨k', hlast⟩ := hlast
        exact ⟨k', hleads.append hlast⟩
      obtain hstay | rfl | hnamed := named_or c
      · rw [descend_stay _ _ hstay] at hplace
        obtain rfl := hend hplace
        exact ⟨k, .stay hstay .nil⟩
      · rw [descend_up] at hplace
        obtain rfl := hend hplace
        exact ⟨k, .up .nil⟩
      · rw [descend_named _ _ hnamed] at hplace
        split at hplace
        · cases hplace
        · next hdir =>
          obtain rfl := hend hplace
          exact ⟨k, .down hnamed hdir .nil⟩
        · cases hplace
        · next target hlink =>
          cases k with
          | zero => cases hplace
          | succ m =>
            have hm : m < n := hleads.le
            obtain ⟨k', hmore⟩ := ih m hm hplace
            exact ⟨k', .link hnamed hlink hmore⟩

/-! ## Places that paths hang on -/

/-- A path leads to a place, in a directory, and the way there would be open without the
    place and everything below it. -/
structure Hangs (d : Disk) (path : Text) (home : Location) : Prop where
  good : badName? path = none
  way : ∃ cs c k there, path.splitOn Path.slash = cs ++ [c] ∧ Path.Named c ∧
    home = there ++ [c] ∧ Leads (d.eraseTree home) 40 [] cs k there

variable {path : Text} {home : Location}

theorem Hangs.ne_nil (h : Hangs d path home) : home ≠ [] := by
  obtain ⟨_, c, _, there, -, -, rfl, -⟩ := h.way
  simp

/-- A path still hangs on a place when entries are added elsewhere. -/
theorem Hangs.mono (h : Hangs d path home)
    (hd : ∀ l e, ¬ home <+: l → d.get? l = some e → d'.get? l = some e) : Hangs d' path home := by
  have hne := h.ne_nil
  obtain ⟨cs, c, k, there, hsplit, hc, hhome, hleads⟩ := h.way
  refine ⟨h.good, cs, c, k, there, hsplit, hc, hhome, hleads.mono fun l e hl => ?_⟩
  rw [get?_eraseTree _ hne] at hl ⊢
  split at hl
  · cases hl
  · next hnot => rw [if_neg hnot, hd l e hnot hl]

/-- Whether a path hangs on a place does not depend on what is at or below the place. -/
theorem Hangs.congr (h : Hangs d path home) (hd : ∀ l, ¬ home <+: l → d'.get? l = d.get? l) :
    Hangs d' path home :=
  h.mono fun l _ hl hget => (hd l hl).trans hget

/-- The way is open with the place, too. -/
theorem Hangs.leads (h : Hangs d path home) :
    ∃ cs c k there, path.splitOn Path.slash = cs ++ [c] ∧ Path.Named c ∧ home = there ++ [c] ∧
      Leads d 40 [] cs k there := by
  have hne := h.ne_nil
  obtain ⟨cs, c, k, there, hsplit, hc, hhome, hleads⟩ := h.way
  refine ⟨cs, c, k, there, hsplit, hc, hhome, hleads.mono fun l e hl => ?_⟩
  rw [get?_eraseTree _ hne] at hl
  split at hl
  · cases hl
  · exact hl

theorem resolve_of_good (hgood : badName? path = none) (last : Bool) :
    d.resolve last path = descend d last (follow d last 40) [] (path.splitOn Path.slash) := by
  rw [resolve, hgood]
  rfl

theorem good_of_resolve {last : Bool} {place : Place} (h : d.resolve last path = .ok place) :
    badName? path = none := by
  cases hbad : badName? path with
  | none => rfl
  | some cause => simp [Disk.resolve, hbad] at h

theorem Hangs.resolve (h : Hangs d path home) : d.resolve false path = .ok (home, d.get? home) := by
  obtain ⟨cs, c, k, there, hsplit, hc, rfl, hleads⟩ := h.leads
  rw [resolve_of_good h.good, hsplit, descend_leads hleads false (by simp), descend_last _ hc]

/-- A path that leads to a place where nothing is has a way to its last component, which
    names something. -/
theorem leads_of_resolve_none (hd : d.WellFormed) (h : d.resolve false path = .ok (home, none)) :
    badName? path = none ∧ d.get? home = none ∧
      ∃ cs c k there, path.splitOn Path.slash = cs ++ [c] ∧ Path.Named c ∧
        home = there ++ [c] ∧ Leads d 40 [] cs k there := by
  have hgood := good_of_resolve h
  refine ⟨hgood, ?_⟩
  obtain ⟨cs, c, hsplit⟩ := (List.eq_nil_or_concat _).resolve_left
    (Text.splitOn_ne_nil Path.slash path)
  rw [List.concat_eq_append] at hsplit
  rw [resolve_of_good hgood, hsplit] at h
  obtain ⟨k, there, hleads, hlast⟩ := leads_of_descend h
  -- a way to a directory cannot end where nothing is
  have hclash : ∀ {k' there'}, Leads d k there [c] k' there' →
      .ok (there', d.get? there') ≠ (.ok (home, none) : Except DiskFault Place) := by
    intro k' there' hway heq
    have hdir := (hleads.append hway).directory hd rfl
    rw [hdir] at heq
    cases heq
  obtain hstay | rfl | hc := named_or c
  · rw [descend_stay _ _ hstay] at hlast
    exact absurd hlast (hclash (.stay hstay .nil))
  · rw [descend_up] at hlast
    exact absurd hlast (hclash (.up .nil))
  · rw [descend_last _ hc] at hlast
    simp only [Except.ok.injEq, Prod.mk.injEq] at hlast
    obtain ⟨rfl, hnone⟩ := hlast
    exact ⟨hnone, cs, c, k, there, hsplit, hc, rfl, hleads⟩

/-- A path hangs on the place that it leads to without the place. -/
theorem hangs_of_resolve (hd : d.WellFormed) (hhome : home ≠ [])
    (h : (d.eraseTree home).resolve false path = .ok (home, none)) : Hangs d path home :=
  have ⟨hgood, _, hway⟩ := leads_of_resolve_none (hd.eraseTree hhome) h
  ⟨hgood, hway⟩

/-- A path hangs on the place that it leads to if there is nothing. -/
theorem hangs_of_none (hd : d.WellFormed) (h : d.resolve false path = .ok (home, none)) :
    Hangs d path home ∧ d.get? home = none := by
  obtain ⟨hgood, hnone, cs, c, k, there, hsplit, hc, hhome, hleads⟩ := leads_of_resolve_none hd h
  have hne : home ≠ [] := by simp [hhome]
  -- nothing is at or below the place, so the way does not need it
  refine ⟨⟨hgood, cs, c, k, there, hsplit, hc, hhome, hleads.mono fun l e hl => ?_⟩, hnone⟩
  rw [get?_eraseTree _ hne, if_neg, hl]
  rintro ⟨r, rfl⟩
  by_cases hr : r = []
  · rw [hr, List.append_nil, hnone] at hl
    cases hl
  · rw [hd.below hr (by rw [hnone]; simp)] at hl
    cases hl

/-! ## Below a place -/

/-- Through directories, components lead down one by one. -/
theorem leads_down (hcs : ∀ c ∈ cs, Path.Named c)
    (hdirs : ∀ r, r <+: cs → d.get? (here ++ r) = some .directory) :
    Leads d n here cs n (here ++ cs) := by
  induction cs generalizing here with
  | nil => simpa using Leads.nil
  | cons c cs ih =>
    obtain ⟨hc, hcs⟩ := List.forall_mem_cons.mp hcs
    refine .down hc (hdirs [c] (by simp)) ?_
    have h : Leads d n (here ++ [c]) cs n (here ++ [c] ++ cs) := ih hcs fun r hr => by
      rw [List.append_assoc]
      exact hdirs (c :: r) (by simpa using hr)
    simpa using h

/-- In a well-formed disk, what is above a directory are directories. -/
theorem WellFormed.directories (hd : d.WellFormed) {l r : Location}
    (h : d.get? (l ++ r) = some .directory) : ∀ q, q <+: r → d.get? (l ++ q) = some .directory := by
  rintro q ⟨t, rfl⟩
  by_cases ht : t = []
  · simpa [ht] using h
  · rw [← List.append_assoc] at h
    exact hd.above ht h

theorem badName?_eq_none {t : Text} :
    badName? t = none ↔
      (t.any fun c => c.isSurrogate && !(0xDC80 ≤ c.val && c.val ≤ 0xDCFF)) = false ∧
        t.any (·.val == 0) = false := by
  unfold badName?
  cases t.any fun c => c.isSurrogate && !(0xDC80 ≤ c.val && c.val ≤ 0xDCFF) with
  | true => simp
  | false => cases t.any (·.val == 0) <;> simp

theorem badName?_append {a b : Text} :
    badName? (a ++ b) = none ↔ badName? a = none ∧ badName? b = none := by
  simp only [badName?_eq_none, List.any_append, Bool.or_eq_false_iff]
  exact ⟨fun ⟨⟨h₁, h₂⟩, h₃, h₄⟩ => ⟨⟨h₁, h₃⟩, h₂, h₄⟩, fun ⟨⟨h₁, h₃⟩, h₂, h₄⟩ => ⟨⟨h₁, h₂⟩, h₃, h₄⟩⟩

theorem badName?_join {ns : List Text} :
    badName? (Text.join [Path.slash] ns) = none ↔ ∀ n ∈ ns, badName? n = none := by
  have hslash : badName? [Path.slash] = none := by decide
  induction ns with
  | nil => exact iff_of_true rfl (by simp)
  | cons n ns ih =>
    cases ns with
    | nil => simp [Text.join]
    | cons m ms =>
      show badName? (n ++ [Path.slash] ++ Text.join [Path.slash] (m :: ms)) = none ↔ _
      simp only [badName?_append, hslash, and_true, ih, List.forall_mem_cons]

/-- A resolved path is good if its names are. -/
theorem badName?_resolved {path : Text} {cs : List Text} (h : Path.Resolved path cs) :
    badName? path = none ↔ ∀ c ∈ cs, badName? c = none := by
  have hslash : badName? [Path.slash] = none := by decide
  have hcons : ∀ t : Text, badName? (Path.slash :: t) = none ↔ badName? t = none := by
    intro t
    rw [← List.singleton_append, badName?_append]
    simp [hslash]
  rcases h.spelled with rfl | rfl
  · rw [hcons, badName?_join]
  · rw [hcons, hcons, badName?_join]

/-- A path below another, through directories, leads below the place of the other. -/
theorem Hangs.resolve_below (h : Hangs d path home) (hd : d.WellFormed) {rs : List Text}
    {m : Text} (hdir : d.get? (home ++ rs) = some .directory)
    (hvalid : ∀ n ∈ rs ++ [m], ValidName n) :
    d.resolve false (path ++ Path.slash :: Text.join [Path.slash] (rs ++ [m])) =
      .ok (home ++ (rs ++ [m]), d.get? (home ++ (rs ++ [m]))) := by
  obtain ⟨cs, c, k, there, hsplit, hc, rfl, hleads⟩ := h.leads
  have hnamed : ∀ n ∈ rs, Path.Named n :=
    fun n hn => (hvalid n (List.mem_append_left _ hn)).toNamed
  have hm : Path.Named m := (hvalid m (by simp)).toNamed
  have hgood : badName? (path ++ Path.slash :: Text.join [Path.slash] (rs ++ [m])) = none := by
    have hjoin := badName?_join.mpr fun n hn => (hvalid n hn).good
    rw [← List.singleton_append]
    exact badName?_append.mpr ⟨h.good, badName?_append.mpr ⟨by decide, hjoin⟩⟩
  have hsplit' : (path ++ Path.slash :: Text.join [Path.slash] (rs ++ [m])).splitOn Path.slash =
      (cs ++ [c] ++ rs) ++ [m] := by
    rw [Text.splitOn_append, hsplit,
      Text.splitOn_join (by simp) fun n hn => (hvalid n hn).no_slash, ← List.append_assoc]
  -- the way to the place goes on through the place and the directories below it
  have hdirs := hd.directories hdir
  have hway : Leads d 40 [] (cs ++ [c] ++ rs) k (there ++ [c] ++ rs) :=
    (hleads.append (.down hc (by simpa using hdirs [] (by simp)) .nil)).append
      (leads_down hnamed hdirs)
  rw [resolve_of_good hgood, hsplit', descend_leads hway false (by simp), descend_last _ hm]
  simp only [List.append_assoc]

/-! ## Below a directory -/

section Below

variable {root p : Text} {l : Location}

/-- A path that leads to a directory has a way there. -/
theorem leads_of_resolve_directory (h : d.resolve true root = .ok (l, some .directory)) :
    ∃ k, Leads d 40 [] (root.splitOn Path.slash) k l := by
  rw [resolve_of_good (good_of_resolve h)] at h
  exact leads_of_descend_directory h

/-- The way to a directory, and the components of a path that is joined to the directory's. -/
theorem exists_leads_join (h : d.resolve true root = .ok (l, some .directory))
    (hp : Path.isAbsolute p = false) :
    ∃ cs k, (Path.join root p).splitOn Path.slash = cs ++ p.splitOn Path.slash ∧
      Leads d 40 [] cs k l := by
  have hdescend := h
  rw [resolve_of_good (good_of_resolve h)] at hdescend
  have hjoin : Path.join root p =
      if root.isEmpty || root.getLast? == some Path.slash then root ++ p
      else root ++ Path.slash :: p := by
    rw [Path.join, hp]
    rfl
  obtain rfl | ⟨init, c, rfl⟩ := List.eq_nil_or_concat root
  · rw [show Text.splitOn Path.slash [] = [[]] from rfl] at hdescend
    rw [descend_stay _ _ (.inl rfl)] at hdescend
    cases hdescend
    exact ⟨[], 40, hjoin ▸ rfl, .nil⟩
  · rw [List.concat_eq_append] at hjoin hdescend ⊢
    by_cases hc : c = Path.slash
    · -- behind a slash at the end there is an empty component, which leads nowhere else
      subst hc
      have hsplit : Text.splitOn Path.slash (init ++ [Path.slash]) =
          Text.splitOn Path.slash init ++ [[]] := Text.splitOn_append _ init []
      rw [hsplit] at hdescend
      obtain ⟨k, there, hleads, hplace⟩ := leads_of_descend hdescend
      rw [descend_stay _ _ (.inl rfl)] at hplace
      simp only [descend, Except.ok.injEq, Prod.mk.injEq] at hplace
      obtain ⟨rfl, -⟩ := hplace
      refine ⟨_, k, ?_, hleads⟩
      rw [hjoin, if_pos (by simp), List.append_assoc]
      exact Text.splitOn_append _ init p
    · rw [List.concat_eq_append] at h
      obtain ⟨k, hleads⟩ := leads_of_resolve_directory h
      refine ⟨_, k, ?_, hleads⟩
      rw [hjoin, if_neg (by simp [hc]), Text.splitOn_append]

/-- The path of a directory below another, joined to the path of that one, leads there. -/
theorem stat?_join_of_directory (hd : d.WellFormed)
    (h : d.resolve true root = .ok (l, some .directory)) (hcs : cs ≠ [])
    (hdir : d.get? (l ++ cs) = some .directory) :
    d.stat? (Path.join root (Text.join [Path.slash] cs)) = some .directory := by
  have hvalid := hd.names hdir
  have hsplit : Text.splitOn Path.slash (Text.join [Path.slash] cs) = cs :=
    Text.splitOn_join hcs fun c hc => (hvalid c hc).no_slash
  have hproper : ∀ n ∈ Text.splitOn Path.slash (Text.join [Path.slash] cs), Path.Proper n := by
    rw [hsplit]
    exact fun c hc => (hvalid c hc).toProper
  obtain ⟨start, k, hjoin, hleads⟩ := exists_leads_join h (Path.isAbsolute_eq_false hproper)
  have hgood : badName? (Path.join root (Text.join [Path.slash] cs)) = none := by
    have hpath := badName?_join.mpr fun c hc => (hvalid c hc).good
    have hroot := good_of_resolve h
    unfold Path.join
    split
    · exact hpath
    · split
      · exact badName?_append.mpr ⟨hroot, hpath⟩
      · rw [← List.singleton_append]
        exact badName?_append.mpr ⟨hroot, badName?_append.mpr ⟨by decide, hpath⟩⟩
  have hway := hleads.append
    (leads_down (fun c hc => (hvalid c hc).toNamed) (hd.directories hdir))
  rw [stat?, resolve_of_good hgood, hjoin, hsplit, descend_leads_true hway]
  exact hdir

end Below

end ImportScan.Disk
