import Mathlib.Data.List.Nodup
import ImportScan.Table

/-! # Tables as finite maps

    A table is determined, up to the order of its entries, by the value that it has for each
    text.  These are the laws of its operations in terms of that map.
-/

namespace ImportScan.Table

variable {α : Type}

/-- An entry is listed exactly when its value is the one that is found. -/
theorem mem_entries_iff {t : Table α} {key : Text} {value : α} :
    (key, value) ∈ t.entries ↔ t.get? key = some value := by
  obtain ⟨es, hd⟩ := t
  unfold get?
  simp only at hd ⊢
  induction es with
  | nil => simp
  | cons e rest ih =>
    obtain ⟨k, v⟩ := e
    simp only [List.map_cons, List.nodup_cons] at hd
    by_cases hk : k = key
    · subst hk
      have hnot : (k, value) ∉ rest := fun h => hd.1 (List.mem_map.mpr ⟨_, h, rfl⟩)
      simp [hnot, eq_comm]
    · have hk' : key ≠ k := fun h => hk h.symm
      simp [hk, hk', ih hd.2]

theorem mem_keys_iff {t : Table α} {key : Text} :
    key ∈ t.keys ↔ ∃ value, t.get? key = some value := by
  simp only [keys, List.mem_map]
  constructor
  · rintro ⟨⟨k, v⟩, hmem, rfl⟩
    exact ⟨v, mem_entries_iff.mp hmem⟩
  · rintro ⟨v, hv⟩
    exact ⟨(key, v), mem_entries_iff.mpr hv, rfl⟩

theorem mem_set_iff {key k : Text} {value v : α} {es : List (Text × α)}
    (hd : (es.map (·.1)).Nodup) :
    (k, v) ∈ set key value es ↔ if k = key then v = value else (k, v) ∈ es := by
  induction es with
  | nil => by_cases hk : k = key <;> simp [set, hk]
  | cons e rest ih =>
    obtain ⟨k₀, v₀⟩ := e
    simp only [List.map_cons, List.nodup_cons] at hd
    have ih' := ih hd.2
    by_cases h₀ : k₀ = key
    · -- the value goes in the place of the first entry, and the text has no other
      subst h₀
      have hnot : (k₀, v) ∉ rest := fun h => hd.1 (List.mem_map.mpr ⟨_, h, rfl⟩)
      by_cases hk : k = k₀
      · subst hk
        simp [set, hnot]
      · simp [set, hk]
    · by_cases hk : k = key
      · subst hk
        have h₀' : k ≠ k₀ := fun h => h₀ h.symm
        simpa [set, h₀, h₀'] using ih'
      · simp only [hk, if_false] at ih' ⊢
        simp [set, h₀, ih']

/-- Setting a value changes the value of its own text only. -/
theorem get?_put (t : Table α) (key k : Text) (value : α) :
    (t.put key value).get? k = if k = key then some value else t.get? k := by
  apply Option.ext
  intro v
  rw [← mem_entries_iff]
  show (k, v) ∈ set key value t.entries ↔ _
  rw [mem_set_iff t.distinct]
  by_cases hk : k = key
  · simp [hk, eq_comm]
  · simp [hk, mem_entries_iff]

@[simp] theorem get?_put_self (t : Table α) (key : Text) (value : α) :
    (t.put key value).get? key = some value := by
  simp [get?_put]

/-- Erasing a text changes the value of that text only. -/
theorem get?_erase (t : Table α) (key k : Text) :
    (t.erase key).get? k = if k = key then none else t.get? k := by
  apply Option.ext
  intro v
  rw [← mem_entries_iff]
  show (k, v) ∈ t.entries.filter (·.1 != key) ↔ _
  by_cases hk : k = key
  · simp [hk]
  · simp [hk, mem_entries_iff]

/-- Tables that agree as maps have the same entries, possibly in another order. -/
theorem entries_perm {t u : Table α} (h : ∀ key, t.get? key = u.get? key) :
    t.entries.Perm u.entries := by
  have ht : t.entries.Nodup := List.Nodup.of_map _ t.distinct
  have hu : u.entries.Nodup := List.Nodup.of_map _ u.distinct
  refine (List.perm_ext_iff_of_nodup ht hu).mpr ?_
  rintro ⟨k, v⟩
  rw [mem_entries_iff, mem_entries_iff, h]

end ImportScan.Table
