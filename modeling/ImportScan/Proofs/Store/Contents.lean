import ImportScan.Proofs.Table
import ImportScan.Store

/-! # What a store holds

    * `Moves`        : what a call that answers `true`, or `false`, may do to a store.
    * `get?_upsert`, `get?_evict` : the records of each file after a call.
    * `imports_perm` : stores with the same records per file have the same records in all.
-/

namespace ImportScan.Store

variable {s s' : Store}

/-- The step from a store to another that a call answered with a truth value.  The answer
    `true` advances the generation; the answer `false` leaves the generation and the records,
    file after file, as they were. -/
def Moves (answer : Bool) (s s' : Store) : Prop :=
  if answer then s'.generation = s.generation + 1
  else s'.generation = s.generation ∧ s'.imports = s.imports

/-! ## Storing -/

/-- An `upsert` either finds equal records and does nothing, or sets the records. -/
theorem upsert_cases (s : Store) (path : Text) (records : List Import) :
    (∃ old, s.get? path = some old ∧ (old == records) = true ∧
      s.upsert path records = (false, s)) ∨
    s.upsert path records = (true, ⟨s.table.put path records, s.generation + 1⟩) := by
  unfold upsert
  split
  · next old hold =>
    split
    · next heq => exact .inl ⟨old, hold, heq, rfl⟩
    · exact .inr rfl
  · exact .inr rfl

theorem upsert_moves (s : Store) (path : Text) (records : List Import) :
    Moves (s.upsert path records).1 s (s.upsert path records).2 := by
  obtain ⟨_, _, _, h⟩ | h := upsert_cases s path records
  · rw [h]
    exact ⟨rfl, rfl⟩
  · rw [h]
    rfl

/-- Storing records touches no other file. -/
theorem get?_upsert_of_ne {path k : Text} (records : List Import) (hk : k ≠ path) :
    (s.upsert path records).2.get? k = s.get? k := by
  obtain ⟨_, _, _, h⟩ | h := upsert_cases s path records
  · rw [h]
  · rw [h]
    show (s.table.put path records).get? k = s.table.get? k
    rw [Table.get?_put, if_neg hk]

/-- The stored records are the given ones wherever equal records are the same records. -/
theorem get?_upsert_self {path : Text} {records : List Import}
    (hlawful : ∀ old, s.get? path = some old → (old == records) = true → old = records) :
    (s.upsert path records).2.get? path = some records := by
  obtain ⟨old, hold, heq, h⟩ | h := upsert_cases s path records
  · rw [h, ← hlawful old hold heq]
    exact hold
  · rw [h]
    exact Table.get?_put_self _ _ _

/-! ## Forgetting -/

/-- Entries without records add nothing to the list of all records. -/
theorem flatMap_filter_of_nil {es : List (Text × List Import)} {keep : Text × List Import → Bool}
    (h : ∀ e ∈ es, keep e = false → e.2 = []) :
    (es.filter keep).flatMap (·.2) = es.flatMap (·.2) := by
  induction es with
  | nil => rfl
  | cons e rest ih =>
    have ih' := ih fun e' he' => h e' (List.mem_cons_of_mem _ he')
    cases hk : keep e with
    | true => simp [hk, ih']
    | false => simp [hk, ih', h e List.mem_cons_self hk]

/-- Erasing a file without records leaves the list of all records alone. -/
theorem flatMap_erase_of_nil {t : Table (List Import)} {path : Text}
    (h : t.get? path = some []) :
    (t.erase path).entries.flatMap (·.2) = t.entries.flatMap (·.2) := by
  apply flatMap_filter_of_nil
  rintro ⟨k, v⟩ he hk
  have hv := Table.mem_entries_iff.mp he
  have hkey : k = path := by simpa using hk
  rw [hkey, h] at hv
  exact (Option.some.inj hv).symm

/-- An `evict` finds nothing, or drops a file without records, or drops records. -/
theorem evict_cases (s : Store) (path : Text) :
    (s.get? path = none ∧ s.evict path = (false, s)) ∨
    (s.get? path = some [] ∧ s.evict path = (false, { s with table := s.table.erase path })) ∨
    (∃ r rs, s.get? path = some (r :: rs) ∧
      s.evict path = (true, ⟨s.table.erase path, s.generation + 1⟩)) := by
  unfold evict
  split
  · next h => exact .inl ⟨h, rfl⟩
  · next records h =>
    cases records with
    | nil => exact .inr (.inl ⟨h, rfl⟩)
    | cons r rs => exact .inr (.inr ⟨r, rs, h, rfl⟩)

theorem evict_moves (s : Store) (path : Text) :
    Moves (s.evict path).1 s (s.evict path).2 := by
  obtain ⟨_, h⟩ | ⟨hnil, h⟩ | ⟨_, _, _, h⟩ := evict_cases s path
  · rw [h]
    exact ⟨rfl, rfl⟩
  · rw [h]
    exact ⟨rfl, flatMap_erase_of_nil hnil⟩
  · rw [h]
    rfl

/-- Forgetting a file removes that file and no other. -/
theorem get?_evict (s : Store) (path k : Text) :
    (s.evict path).2.get? k = if k = path then none else s.get? k := by
  obtain ⟨hnone, h⟩ | ⟨_, h⟩ | ⟨_, _, _, h⟩ := evict_cases s path
  · rw [h]
    split
    · next hk => rw [hk, hnone]
    · rfl
  · rw [h]
    exact Table.get?_erase _ _ _
  · rw [h]
    exact Table.get?_erase _ _ _

/-! ## All records -/

/-- Stores with the same records for each file have the same records in all, possibly in
    another order. -/
theorem imports_perm (h : ∀ path, s.get? path = s'.get? path) : s.imports.Perm s'.imports :=
  (Table.entries_perm h).flatMap_right _

end ImportScan.Store
