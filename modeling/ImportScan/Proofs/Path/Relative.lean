import ImportScan.Proofs.Path.Components

/-! # Relative paths

    How a path is reached from a directory, when both are resolved from a current directory: up
    to the last directory that they share, and down.  A path that a walk has come to by names is
    reached by these names.

    * `Path.relative`      : the relative path.
    * `Path.relative_walk` : that of a path which a walk has come to.
-/

namespace ImportScan.Path

variable {c : Text} {cs : List Text}

/-- The way from some components to others: up from those that are not shared, and down. -/
def between : List Text → List Text → List Text
  | s :: ss, p :: ps =>
    if s = p then between ss ps else (s :: ss).map (fun _ => Text.ofString "..") ++ p :: ps
  | ss, ps => ss.map (fun _ => Text.ofString "..") ++ ps

/-- The path as it is reached from a directory; a dot if it is the directory itself. -/
def relative (cwd p start : Text) : Text :=
  match between (components (join cwd start)) (components (join cwd p)) with
  | [] => Text.ofString "."
  | cs => Text.join [slash] cs

theorem between_append (ss cs : List Text) : between ss (ss ++ cs) = cs := by
  induction ss with
  | nil => cases cs <;> rfl
  | cons s ss ih => rw [List.cons_append, between, if_pos rfl, ih]

/-! ## Names behind a path -/

theorem Proper.isAbsolute_eq_false (hc : Proper c) : isAbsolute c = false :=
  Path.isAbsolute_eq_false (by rwa [Text.splitOn_of_notMem hc.no_slash, List.forall_mem_singleton])

theorem enter_name (hc : Proper c) (before : List Text) : enter before c = c :: before := by
  simp [enter, hc.nonempty, hc.not_here, hc.not_up]

/-- A slash at the end of a path makes no difference. -/
theorem components_slash (p : Text) : components (p ++ [slash]) = components p := by
  have hsplit := Text.splitOn_append slash p []
  rw [components, hsplit, List.foldl_append]
  rfl

/-- A name behind a path is one more component. -/
theorem components_join (p : Text) (hc : Proper c) : components (join p c) = components p ++ [c] := by
  have hbehind : ∀ q : Text, components (q ++ slash :: c) = components q ++ [c] := by
    intro q
    rw [components, Text.splitOn_append, Text.splitOn_of_notMem hc.no_slash, List.foldl_append,
      List.foldl_cons, List.foldl_nil, enter_name hc, List.reverse_cons, ← components]
  rw [join, if_neg (by simp [hc.isAbsolute_eq_false])]
  split
  · next hend =>
    obtain rfl | ⟨q, x, rfl⟩ := List.eq_nil_or_concat p
    · exact hbehind []
    · -- the slash at the end is the one in front of the name
      rw [List.concat_eq_append] at hend ⊢
      obtain rfl : x = slash := by simpa using hend
      rw [List.append_assoc, List.singleton_append, hbehind, components_slash]
  · exact hbehind p

/-- The slash that is put between a path and what is behind it, if there has to be one. -/
def gap (p : Text) : Text := if p.isEmpty || p.getLast? == some slash then [] else [slash]

theorem join_of_relative (p : Text) (hc : isAbsolute c = false) : join p c = p ++ gap p ++ c := by
  rw [join, if_neg (by simp [hc]), gap]
  split
  · rw [List.append_nil]
  · rw [List.append_assoc, List.singleton_append]

theorem gap_append (a : Text) {b : Text} (hb : b ≠ []) : gap (a ++ b) = gap b := by
  obtain ⟨init, x, rfl⟩ := (List.eq_nil_or_concat b).resolve_left hb
  rw [List.concat_eq_append, ← List.append_assoc]
  simp [gap]

theorem gap_join (p : Text) : gap (p ++ gap p) = [] := by
  by_cases h : (p.isEmpty || p.getLast? == some slash) = true
  · have hnone : gap p = [] := if_pos h
    rw [hnone, List.append_nil, hnone]
  · have hslash : gap p = [slash] := if_neg h
    rw [hslash]
    simp [gap]

/-- A path behind a path that is behind another. -/
theorem join_join (a b : Text) (hc : isAbsolute c = false) :
    join a (join b c) = join (join a b) c := by
  rw [join_of_relative b hc, join_of_relative (join a b) hc]
  by_cases hnil : b = []
  · subst hnil
    have hempty : join a [] = a ++ gap a := by rw [join_of_relative a rfl, List.append_nil]
    rw [hempty, gap_join, List.append_nil]
    exact join_of_relative a hc
  · obtain ⟨x, rest, rfl⟩ := List.exists_cons_of_ne_nil hnil
    have habsolute : isAbsolute (x :: rest ++ gap (x :: rest) ++ c) = isAbsolute (x :: rest) := rfl
    by_cases hb : isAbsolute (x :: rest) = true
    · rw [join, if_pos (habsolute.trans hb), join, if_pos hb]
    · rw [Bool.not_eq_true] at hb
      rw [join_of_relative a (habsolute.trans hb), join_of_relative a hb, gap_append _ hnil]
      simp only [List.append_assoc]

/-- The names that a walk has taken are the last components of the path that it has come to. -/
theorem components_walk (cwd root : Text) (hcs : ∀ c ∈ cs, Proper c) :
    components (join cwd (cs.foldl join root)) = components (join cwd root) ++ cs := by
  induction cs generalizing root with
  | nil => rw [List.foldl_nil, List.append_nil]
  | cons c cs ih =>
    obtain ⟨hc, hcs⟩ := List.forall_mem_cons.mp hcs
    rw [List.foldl_cons, ih _ hcs, join_join cwd root hc.isAbsolute_eq_false, components_join _ hc,
      List.append_assoc, List.singleton_append]

/-- A walk has come to where its names lead from the root. -/
theorem relative_walk (cwd root : Text) (hcs : ∀ c ∈ cs, Proper c) :
    relative cwd (cs.foldl join root) root
      = if cs = [] then Text.ofString "." else Text.join [slash] cs := by
  rw [relative, components_walk cwd root hcs, between_append]
  cases cs with
  | nil => rfl
  | cons c cs => rfl

end ImportScan.Path
