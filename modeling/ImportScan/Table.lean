import ImportScan.Text.Basic

/-! # Tables

    Values by text, in the order in which the texts came in: what is known about the paths of
    a tree, and the records of its files.

    * `Table.get?`  : the value of a text.
    * `Table.put`   : the table with a value set; a text keeps its place.
    * `Table.erase` : the table without a text.
-/

namespace ImportScan

/-- Values by text, each text once. -/
structure Table (α : Type) where
  /-- Texts and their values, in the order in which the texts came in. -/
  entries : List (Text × α) := []
  /-- No text has two values. -/
  distinct : (entries.map (·.1)).Nodup := by exact List.nodup_nil
deriving Repr

namespace Table

variable {α : Type}

/-- The texts that have a value. -/
def keys (t : Table α) : List Text := t.entries.map (·.1)

/-- The value of a text. -/
def get? (t : Table α) (key : Text) : Option α := (t.entries.find? (·.1 == key)).map (·.2)

/-- The entries with the value of a text set: in its old place, or at the end. -/
def set (key : Text) (value : α) : List (Text × α) → List (Text × α)
  | [] => [(key, value)]
  | (k, v) :: rest => if k == key then (k, value) :: rest else (k, v) :: set key value rest

/-- Setting a value adds its text at the end, unless the text is there already. -/
theorem keys_set (key : Text) (value : α) (es : List (Text × α)) :
    (set key value es).map (·.1) =
      if key ∈ es.map (·.1) then es.map (·.1) else es.map (·.1) ++ [key] := by
  induction es with
  | nil => simp [set]
  | cons e rest ih =>
    obtain ⟨k, v⟩ := e
    by_cases h : k = key
    · simp [set, h]
    · have h' : key ≠ k := fun e => h e.symm
      simp only [set, beq_iff_eq, h, if_false, List.map_cons, ih, List.mem_cons, h', false_or]
      split <;> simp

/-- The table with the value of a text set: in its old place, or at the end. -/
def put (t : Table α) (key : Text) (value : α) : Table α where
  entries := set key value t.entries
  distinct := by
    rw [keys_set]
    split
    · exact t.distinct
    · next h =>
      refine List.nodup_append.mpr ⟨t.distinct, by simp, ?_⟩
      intro k hk k' hk' heq
      rw [List.mem_singleton] at hk'
      exact h (hk' ▸ heq ▸ hk)

/-- The table without a text. -/
def erase (t : Table α) (key : Text) : Table α where
  entries := t.entries.filter (·.1 != key)
  distinct := t.distinct.sublist (List.filter_sublist.map _)

end Table

end ImportScan
