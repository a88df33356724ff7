import Mathlib.Data.List.Nodup
import ImportScan.Text.Basic

/-! # Code-point order

    The order of texts is a linear one in which an initial segment comes before its
    extensions, so sorted paths list a directory before what it holds.
-/

namespace ImportScan.Text

theorem le_total (a b : Text) : (le a b || le b a) = true := by
  induction a generalizing b with
  | nil => simp [le]
  | cons c cs ih =>
    cases b with
    | nil => simp [le]
    | cons d ds =>
      simp only [le]
      rcases Nat.lt_trichotomy c.val d.val with h | h | h
      · simp [h]
      · simpa [h] using ih ds
      · simp [h, Nat.lt_asymm h]

theorem le_trans (a b c : Text) (hab : le a b = true) (hbc : le b c = true) : le a c = true := by
  induction a generalizing b c with
  | nil => rfl
  | cons x xs ih =>
    cases b with
    | nil => simp [le] at hab
    | cons y ys =>
      cases c with
      | nil => simp [le] at hbc
      | cons z zs =>
        simp only [le] at hab hbc ⊢
        rcases Nat.lt_trichotomy x.val y.val with hxy | hxy | hxy
        · rcases Nat.lt_trichotomy y.val z.val with hyz | hyz | hyz
          · simp [Nat.lt_trans hxy hyz]
          · simp [← hyz, hxy]
          · simp [hyz, Nat.lt_asymm hyz] at hbc
        · rcases Nat.lt_trichotomy y.val z.val with hyz | hyz | hyz
          · simp [hxy, hyz]
          · simp only [hxy, hyz, Nat.lt_irrefl, if_false] at hab hbc ⊢
            exact ih ys zs hab hbc
          · simp [hyz, Nat.lt_asymm hyz] at hbc
        · simp [hxy, Nat.lt_asymm hxy] at hab

theorem le_antisymm {a b : Text} (hab : le a b = true) (hba : le b a = true) : a = b := by
  induction a generalizing b with
  | nil =>
    cases b with
    | nil => rfl
    | cons d ds => simp [le] at hba
  | cons c cs ih =>
    cases b with
    | nil => simp [le] at hab
    | cons d ds =>
      simp only [le] at hab hba
      rcases Nat.lt_trichotomy c.val d.val with h | h | h
      · simp [h, Nat.lt_asymm h] at hba
      · simp only [h, Nat.lt_irrefl, if_false] at hab hba
        rw [Fin.ext h, ih hab hba]
      · simp [h, Nat.lt_asymm h] at hab

/-- An initial segment comes before its extensions. -/
theorem le_append (a b : Text) : le a (a ++ b) = true := by
  induction a with
  | nil => rfl
  | cons c cs ih => simp [le, ih]

/-! ## Sorted texts -/

theorem mem_sorted {ts : List Text} {t : Text} : t ∈ sorted ts ↔ t ∈ ts := List.mem_mergeSort

/-- Sorted texts ascend. -/
theorem sorted_ascending (ts : List Text) : (sorted ts).Pairwise fun a b => le a b = true :=
  List.pairwise_mergeSort le_trans le_total ts

theorem nodup_sorted {ts : List Text} (h : ts.Nodup) : (sorted ts).Nodup :=
  (List.mergeSort_perm ts le).nodup_iff.mpr h

end ImportScan.Text
