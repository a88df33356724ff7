import Mathlib.Data.List.Induction
import Mathlib.Data.List.Perm.Subperm
import ImportScan.Disk.Basic
import ImportScan.Proofs.Path.Components
import ImportScan.Proofs.Text.Order

/-! # What a disk holds

    * `get?_insert`, `get?_erase`, `get?_eraseTree` : the entries after an elementary change.
    * `Disk.WellFormed` : entries have names that a path can spell, and stand in directories.
-/

namespace ImportScan

namespace Disk

variable {d : Disk}

/-! ## Elementary changes -/

theorem get?_of_ne_nil {l : Location} (h : l ≠ []) :
    d.get? l = (d.entries.find? (·.1 == l)).map (·.2) := by
  simp [get?, h]

/-- A disk of which only some locations are kept. -/
theorem get?_filter (d : Disk) (keep : Location → Bool) {k : Location} (hk : k ≠ []) :
    (⟨d.entries.filter fun e => keep e.1⟩ : Disk).get? k = if keep k then d.get? k else none := by
  rw [get?_of_ne_nil hk, get?_of_ne_nil hk]
  generalize d.entries = es
  -- the first entry that is listed for a location is the one that is found
  induction es with
  | nil => split <;> rfl
  | cons e rest ih =>
    by_cases he : e.1 = k
    · subst he
      cases hkeep : keep e.1 with
      | true => simp [hkeep]
      | false => simpa [hkeep] using ih
    · have hne : (e.1 == k) = false := by simpa using he
      cases hkeep : keep e.1 with
      | true => simpa [hkeep, hne] using ih
      | false => simpa [hkeep, hne] using ih

theorem get?_erase (d : Disk) {l : Location} (hl : l ≠ []) (k : Location) :
    (d.erase l).get? k = if k = l then none else d.get? k := by
  by_cases hk : k = []
  · subst hk
    rw [if_neg hl.symm]
    rfl
  · have h : (d.erase l).get? k = if (k != l) = true then d.get? k else none :=
      d.get?_filter (· != l) hk
    rw [h]
    by_cases hkl : k = l
    · simp [hkl]
    · simp [hkl]

theorem get?_insert (d : Disk) {l : Location} (hl : l ≠ []) (e : Entry) (k : Location) :
    (d.insert l e).get? k = if k = l then some e else d.get? k := by
  by_cases hk : k = []
  · subst hk
    rw [if_neg hl.symm]
    rfl
  · have herase := d.get?_erase hl k
    by_cases hkl : k = l
    · rw [get?_of_ne_nil hk]
      simp [insert, hkl]
    · have hne : ((l, e).1 == k) = false := by simpa using fun h : l = k => hkl h.symm
      rw [if_neg hkl] at herase ⊢
      rw [← herase, get?_of_ne_nil hk, get?_of_ne_nil hk]
      show (((l, e) :: (d.erase l).entries).find? (·.1 == k)).map (·.2) = _
      rw [List.find?_cons, hne]

theorem get?_eraseTree (d : Disk) {l : Location} (hl : l ≠ []) (k : Location) :
    (d.eraseTree l).get? k = if l <+: k then none else d.get? k := by
  by_cases hk : k = []
  · subst hk
    rw [if_neg fun h => hl (List.prefix_nil.mp h)]
    rfl
  · have h : (d.eraseTree l).get? k = if (!l.isPrefixOf k) = true then d.get? k else none :=
      d.get?_filter (fun k => !l.isPrefixOf k) hk
    by_cases hkl : l <+: k
    · simp [h, hkl, List.isPrefixOf_iff_prefix.mpr hkl]
    · have hnot : l.isPrefixOf k = false := by
        rw [← Bool.not_eq_true, List.isPrefixOf_iff_prefix]
        exact hkl
      simp [h, hkl, hnot]

/-- The names in a directory are those of its entries. -/
theorem mem_names {dir : Location} {n : Text} :
    n ∈ d.names dir ↔ ∃ e, d.get? (dir ++ [n]) = some e := by
  -- only the location of the name itself has the name in the directory
  have hname : ∀ l, nameIn? dir l = some n ↔ l = dir ++ [n] := by
    intro l
    unfold nameIn?
    constructor
    · intro h
      split at h
      · next hcond =>
        simp only [Bool.and_eq_true, List.isPrefixOf_iff_prefix, beq_iff_eq] at hcond
        obtain ⟨⟨t, rfl⟩, hlen⟩ := hcond
        simp only [List.length_append, Nat.add_left_cancel_iff] at hlen
        obtain ⟨m, rfl⟩ := List.length_eq_one_iff.mp hlen
        simpa using h
      · cases h
    · rintro rfl
      simp
  have hne : dir ++ [n] ≠ [] := by simp
  rw [names, Text.mem_sorted, List.mem_filterMap, get?_of_ne_nil hne]
  simp only [hname, Option.map_eq_some_iff]
  constructor
  · rintro ⟨e, he, heq⟩
    cases hfind : d.entries.find? (·.1 == dir ++ [n]) with
    | some f => exact ⟨f.2, f, rfl, rfl⟩
    | none =>
      have := List.find?_eq_none.mp hfind e he
      simp [heq] at this
  · rintro ⟨_, f, hf, -⟩
    exact ⟨f, List.mem_of_find?_eq_some hf, by simpa using List.find?_some hf⟩

/-! ## Well-formed disks -/

/-- A name that an entry may have. -/
structure ValidName (n : Text) : Prop extends Path.Proper n where
  good : badName? n = none

instance (n : Text) : Decidable (ValidName n) :=
  decidable_of_iff (Path.Proper n ∧ badName? n = none)
    ⟨fun ⟨h, h'⟩ => ⟨h, h'⟩, fun h => ⟨h.toProper, h.good⟩⟩

/-- Every entry has a valid name and stands in a directory. -/
structure WellFormed (d : Disk) : Prop where
  name : ∀ {l n e}, d.get? (l ++ [n]) = some e → ValidName n
  dir : ∀ {l n e}, d.get? (l ++ [n]) = some e → d.get? l = some .directory

/-- It is enough to look at the entries that are listed. -/
theorem wellFormed_iff :
    (∀ e ∈ d.entries, ∀ n ∈ e.1.getLast?,
      ValidName n ∧ d.get? e.1.dropLast = some .directory) ↔ d.WellFormed := by
  constructor
  · intro h
    have hentry : ∀ {l n e}, d.get? (l ++ [n]) = some e →
        ValidName n ∧ d.get? l = some .directory := by
      intro l n e hget
      rw [get?_of_ne_nil (by simp)] at hget
      obtain ⟨f, hf, -⟩ := Option.map_eq_some_iff.mp hget
      have hl : f.1 = l ++ [n] := by simpa using List.find?_some hf
      have hspec := h f (List.mem_of_find?_eq_some hf) n (by simp [hl])
      rwa [hl, List.dropLast_concat] at hspec
    exact ⟨fun hget => (hentry hget).1, fun hget => (hentry hget).2⟩
  · intro hd f hf n hn
    have hl : f.1 = f.1.dropLast ++ [n] := (List.dropLast_append_getLast? n hn).symm
    have hfound : ∃ e, d.get? (f.1.dropLast ++ [n]) = some e := by
      rw [← hl, get?_of_ne_nil (by rw [hl]; simp)]
      cases hfind : d.entries.find? (·.1 == f.1) with
      | some g => exact ⟨g.2, rfl⟩
      | none => exact absurd (List.find?_eq_none.mp hfind f hf) (by simp)
    obtain ⟨e, he⟩ := hfound
    exact ⟨hd.name he, hd.dir he⟩

instance (d : Disk) : Decidable d.WellFormed :=
  decidable_of_iff
    (∀ e ∈ d.entries, ∀ n ∈ e.1.getLast?,
      ValidName n ∧ d.get? e.1.dropLast = some .directory) wellFormed_iff

/-- What is above an entry is a directory. -/
theorem WellFormed.above (hd : d.WellFormed) {l r : Location} {e : Entry} (hr : r ≠ [])
    (h : d.get? (l ++ r) = some e) : d.get? l = some .directory := by
  induction r using List.reverseRecOn generalizing e with
  | nil => exact absurd rfl hr
  | append_singleton r n ih =>
    rw [← List.append_assoc] at h
    by_cases hnil : r = []
    · subst hnil
      rw [List.append_nil] at h
      exact hd.dir h
    · exact ih hnil (hd.dir h)

/-- Below what is not a directory there is nothing. -/
theorem WellFormed.below (hd : d.WellFormed) {l r : Location} (hr : r ≠ [])
    (h : d.get? l ≠ some .directory) : d.get? (l ++ r) = none := by
  cases hget : d.get? (l ++ r) with
  | none => rfl
  | some e => exact absurd (hd.above hr hget) h

theorem WellFormed.names (hd : d.WellFormed) {l r : Location} {e : Entry}
    (h : d.get? (l ++ r) = some e) : ∀ n ∈ r, ValidName n := by
  induction r using List.reverseRecOn generalizing e with
  | nil => exact fun n hn => absurd hn (by simp)
  | append_singleton r n ih =>
    rw [← List.append_assoc] at h
    intro m hm
    rcases List.mem_append.mp hm with hm | hm
    · exact ih (hd.dir h) m hm
    · cases List.mem_singleton.mp hm
      exact hd.name h

/-- A location that is not the root has an entry that is listed. -/
theorem mem_of_get? {l : Location} {e : Entry} (hl : l ≠ []) (h : d.get? l = some e) :
    l ∈ d.entries.map (·.1) := by
  rw [get?_of_ne_nil hl] at h
  obtain ⟨f, hf, -⟩ := Option.map_eq_some_iff.mp h
  have hfl : f.1 = l := by simpa using List.find?_some hf
  exact List.mem_map.mpr ⟨f, List.mem_of_find?_eq_some hf, hfl⟩

/-- A location is no deeper than there are entries. -/
theorem WellFormed.length_le (hd : d.WellFormed) {l r : Location} {e : Entry}
    (h : d.get? (l ++ r) = some e) : r.length ≤ d.entries.length := by
  -- the locations on the way down are as many, and each has an entry of its own
  have hway : ∀ q ∈ (List.range r.length).map (fun i => l ++ r.take (i + 1)),
      q ∈ d.entries.map (·.1) := by
    intro q hq
    obtain ⟨i, hi, rfl⟩ := List.mem_map.mp hq
    have hne : l ++ r.take (i + 1) ≠ [] := by
      have hr : r ≠ [] := by
        rintro rfl
        simp at hi
      simp [hr]
    by_cases hrest : r.drop (i + 1) = []
    · rw [List.take_of_length_le (List.drop_eq_nil_iff.mp hrest)] at hne ⊢
      exact mem_of_get? hne h
    · rw [← List.take_append_drop (i + 1) r, ← List.append_assoc] at h
      exact mem_of_get? hne (hd.above hrest h)
  have hnodup : ((List.range r.length).map (fun i => l ++ r.take (i + 1))).Nodup := by
    refine List.Nodup.map_on (fun i hi j hj heq => ?_) List.nodup_range
    have hlen := congrArg List.length (List.append_cancel_left heq)
    simp only [List.length_take, List.mem_range] at hlen hi hj
    omega
  simpa using (hnodup.subperm hway).length_le

/-- An entry may be put where there is none, into a directory. -/
theorem WellFormed.insert (hd : d.WellFormed) {l : Location} {n : Text} (hn : ValidName n)
    (hl : d.get? l = some .directory) (hfree : d.get? (l ++ [n]) = none) (e : Entry) :
    (d.insert (l ++ [n]) e).WellFormed := by
  have hget := d.get?_insert (l := l ++ [n]) (by simp) e
  -- what stood in a directory still does, since the new entry takes no one's place
  have hkeep : ∀ k, d.get? k = some .directory → (d.insert (l ++ [n]) e).get? k = some .directory := by
    intro k hk
    rw [hget, if_neg, hk]
    rintro rfl
    rw [hfree] at hk
    cases hk
  constructor
  · intro k m e' h
    rw [hget] at h
    split at h
    · next heq =>
      obtain ⟨-, rfl⟩ := List.append_inj' heq rfl |>.imp id List.singleton_inj.mp
      exact hn
    · exact hd.name h
  · intro k m e' h
    rw [hget] at h
    split at h
    · next heq =>
      obtain ⟨rfl, -⟩ := List.append_inj' heq rfl
      exact hkeep _ hl
    · exact hkeep _ (hd.dir h)

/-- An entry may be taken away unless something stands in it. -/
theorem WellFormed.erase (hd : d.WellFormed) {l : Location} (hl : l ≠ [])
    (hempty : ∀ n, d.get? (l ++ [n]) = none) : (d.erase l).WellFormed := by
  have hget := d.get?_erase hl
  constructor
  · intro k m e h
    rw [hget] at h
    split at h
    · cases h
    · exact hd.name h
  · intro k m e h
    rw [hget] at h
    split at h
    · cases h
    · rw [hget, if_neg, hd.dir h]
      rintro rfl
      rw [hempty] at h
      cases h

/-- An entry may be taken away with everything below it. -/
theorem WellFormed.eraseTree (hd : d.WellFormed) {l : Location} (hl : l ≠ []) :
    (d.eraseTree l).WellFormed := by
  have hget := d.get?_eraseTree hl
  constructor
  · intro k m e h
    rw [hget] at h
    split at h
    · cases h
    · exact hd.name h
  · intro k m e h
    rw [hget] at h
    split at h
    · cases h
    · next hnot =>
      -- the directory of an entry that stays is not below the location either
      rw [hget, if_neg (fun hpre => hnot (hpre.trans (List.prefix_append _ _))), hd.dir h]

end Disk

end ImportScan
