import ImportScan.Import

/-! # Equality of records

    Data, targets and records may count as equal without being the same, but each is equal to
    itself.  So a file that is read again, and has not changed, gives records that are equal to
    the stored ones.
-/

namespace ImportScan

namespace Datum

mutual

theorem same_refl : (d : Datum) → same d d = true
  | .null => rfl
  | .bool b => by simp [same, sameScalar]
  | .int n => by simp [same, sameScalar]
  | .real x => by simp [same, sameScalar]
  | .text t => by simp [same, sameScalar]
  | .moment m => by simp [same, sameScalar]
  | .list xs => by simpa only [same] using sameItems_refl xs
  | .map es => by simp [same, sameEntries_of_subset es es fun _ h => h]

theorem sameItems_refl : (xs : List Datum) → sameItems xs xs = true
  | [] => rfl
  | x :: xs => by simp [sameItems, same_refl x, sameItems_refl xs]

/-- Entries that are all among others have equal ones there. -/
theorem sameEntries_of_subset :
    (es fs : List (Datum × Datum)) → (∀ e ∈ es, e ∈ fs) → sameEntries es fs = true
  | [], _, _ => rfl
  | (k, v) :: rest, fs, h => by
    have hrest := sameEntries_of_subset rest fs fun e he => h e (List.mem_cons_of_mem _ he)
    have hfirst : (fs.any fun f => same k f.1 && same v f.2) = true :=
      List.any_eq_true.mpr
        ⟨(k, v), h _ List.mem_cons_self, by simp [same_refl k, same_refl v]⟩
    simp [sameEntries, hfirst, hrest]

end

instance : ReflBEq Datum := ⟨same_refl _⟩

end Datum

theorem Package.same_refl (p : Package) : p.same p = true := by simp [same]

theorem Target.same_refl (t : Target) : t.same t = true := by
  cases t with
  | literal specifier => simp [same]
  | template first holes =>
    have hpairs : holes.zip holes = holes.map fun hole => (hole, hole) := by
      simpa using List.zip_map' (f := id) (g := id) (l := holes)
    simp only [same, BEq.rfl, Bool.true_and, List.all_eq_true]
    intro pair hpair
    rw [hpairs, List.mem_map] at hpair
    obtain ⟨hole, -, rfl⟩ := hpair
    simp

instance : ReflBEq Target := ⟨Target.same_refl _⟩

namespace Import

theorem same_refl (i : Import) : i.same i = true := by
  have hpackage : (i.package == i.package) = true := i.package.same_refl
  simp [same, hpackage]

instance : ReflBEq Import := ⟨same_refl _⟩

end Import

end ImportScan
