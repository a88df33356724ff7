import ImportScan.Analyzer.Basic
import ImportScan.Proofs.Path.Components

/-! # The guard of the input directory

    An analyzer is not made if its output directory would lie in its input directory.  Paths
    are compared as texts, and that comes to the same as comparing their names one by one, as
    long as both are led by as many slashes.

    * `Path.Encloses`      : the names of one path begin with those of another.
    * `Path.isWithin_iff`  : the comparison of texts as one of names.
    * `Analyzer.make_iff`  : which analyzers are made, and which are refused.
-/

namespace ImportScan

namespace Path

variable {path root : Text} {cs rs : List Text}

/-! ## Resolved paths and their names -/

/-- A resolved path has no other names. -/
theorem Resolved.names_eq (h : Resolved path cs) :
    (path.splitOn slash).filter (fun c => !c.isEmpty) = cs := by
  obtain ⟨start, hstart, hsplit⟩ := h.splitOn
  have hempty : start.filter (fun c => !c.isEmpty) = [] :=
    List.filter_eq_nil_iff.mpr fun c hc => by simp [hstart c hc]
  have hproper : cs.filter (fun c => !c.isEmpty) = cs :=
    List.filter_eq_self.mpr fun c hc => by simp [(h.proper c hc).nonempty]
  rw [hsplit, List.filter_append, hempty, hproper, List.nil_append]

/-- How a path of names is led, whatever comes behind it. -/
theorem lead_append {names : Text} (hne : names ≠ []) (hhead : names.head? ≠ some slash)
    (rest : Text) :
    lead (slash :: (names ++ rest)) = [slash] ∧
      lead (slash :: slash :: (names ++ rest)) = [slash, slash] := by
  cases names with
  | nil => exact absurd rfl hne
  | cons x names =>
    have hx : x ≠ slash := by simpa using hhead
    simp [lead, hx]

theorem join_ne_nil (hcs : ∀ c ∈ cs, Proper c) (hne : cs ≠ []) : Text.join [slash] cs ≠ [] := by
  obtain ⟨init, c, rfl⟩ := (List.eq_nil_or_concat cs).resolve_left hne
  rw [List.concat_eq_append] at hcs ⊢
  obtain ⟨t, ht, -⟩ := join_names_concat init c
  have hc := (hcs c (by simp)).nonempty
  simp [ht, hc]

/-- Behind names, a resolved path is led as without what follows. -/
theorem Resolved.lead_append (h : Resolved root rs) (hne : rs ≠ []) (rest : Text) :
    lead (root ++ rest) = lead root := by
  have hhead := head?_join_ne h.proper
  have hnames := join_ne_nil h.proper hne
  have hlong := Path.lead_append hnames hhead rest
  have hshort := Path.lead_append hnames hhead []
  rw [List.append_nil] at hshort
  rcases h.spelled with rfl | rfl
  · exact hlong.1.trans hshort.1.symm
  · exact hlong.2.trans hshort.2.symm

/-- One resolved path lies within another if its names begin with those of the other and both
    are led by as many slashes, which does not matter if the other has no names. -/
theorem isWithin_iff (hpath : Resolved path cs) (hroot : Resolved root rs) :
    isWithin path root = true ↔ rs <+: cs ∧ (rs = [] ∨ lead root = lead path) := by
  constructor
  · intro h
    rcases Bool.or_eq_true_iff.mp h with heq | hstarts
    · obtain rfl : path = root := by simpa using heq
      have hsame := hpath.names_eq.symm.trans hroot.names_eq
      exact ⟨hsame ▸ List.prefix_refl _, .inr rfl⟩
    · obtain rfl | ⟨init, c, rfl⟩ := List.eq_nil_or_concat rs
      · exact ⟨List.nil_prefix, .inl rfl⟩
      · rw [List.concat_eq_append] at hroot ⊢
        rw [hroot.trimSlashes, Text.startsWith, List.isPrefixOf_iff_prefix] at hstarts
        obtain ⟨rest, rfl⟩ := hstarts
        rw [List.append_assoc] at hpath ⊢
        -- the names of the path are those of the root and those behind the slash
        have hnames := hpath.names_eq
        rw [List.singleton_append, Text.splitOn_append, List.filter_append,
          hroot.names_eq] at hnames
        exact ⟨⟨_, hnames⟩, .inr (hroot.lead_append (by simp) _).symm⟩
  · rintro ⟨hpre, rfl | hlead⟩
    · -- every resolved path starts with a slash
      have htrim : trimSlashes root = [] := by
        rcases hroot.spelled with rfl | rfl <;> rfl
      rw [isWithin, htrim]
      rcases hpath.spelled with rfl | rfl <;> simp [Text.startsWith]
    · exact isWithin_of_prefix hpath hroot hlead.symm hpre

/-! ## Paths before they are resolved -/

/-- The directory of one path holds that of another, or is the same: its names come first in
    the names of the other, and both are led by as many slashes, unless it has no names. -/
def Encloses (outer inner : Text) : Prop :=
  components outer <+: components inner ∧ (components outer = [] ∨ lead outer = lead inner)

instance (outer inner : Text) : Decidable (Encloses outer inner) :=
  inferInstanceAs (Decidable (_ ∧ _))

/-- Resolution keeps the slashes that a path is led by. -/
theorem lead_absolute (cwd p : Text) : lead (absolute cwd p) = lead (join cwd p) := by
  have heq := (resolved_components cwd p).eq_lead
  exact (List.append_cancel_right (by rw [← heq]; rfl)).symm

theorem isWithin_absolute_iff (cwd p root : Text) :
    isWithin (absolute cwd p) (absolute cwd root) = true ↔
      Encloses (join cwd root) (join cwd p) := by
  rw [isWithin_iff (resolved_components cwd p) (resolved_components cwd root), lead_absolute,
    lead_absolute, Encloses]

end Path

namespace Analyzer

/-- Which analyzers are made.  With both directories given, one is refused exactly if the names
    of the input directory come first in those of the output directory, where both paths are
    led by as many slashes or the input directory is the root; any other one is made. -/
theorem make_iff (cwd : Text) (package : Package) {input output : Text} (hinput : input ≠ [])
    (houtput : output ≠ []) :
    (∀ f, make cwd package (some input) (some output) = .error f ↔
        f = .outputInside (Path.absolute cwd output) (Path.absolute cwd input)
          ∧ Path.Encloses (Path.join cwd input) (Path.join cwd output))
      ∧ (∀ a, make cwd package (some input) (some output) = .ok a ↔
        a = { package, input := Path.absolute cwd input,
              output := some (Path.absolute cwd output) }
          ∧ ¬ Path.Encloses (Path.join cwd input) (Path.join cwd output))
      ∧ (Path.lead (Path.join cwd input) = Path.lead (Path.join cwd output) →
        ((∃ f, make cwd package (some input) (some output) = .error f) ↔
          Path.components (Path.join cwd input) <+: Path.components (Path.join cwd output))) := by
  have hmake : make cwd package (some input) (some output) =
      if Path.isWithin (Path.absolute cwd output) (Path.absolute cwd input) then
        .error (.outputInside (Path.absolute cwd output) (Path.absolute cwd input))
      else .ok { package, input := Path.absolute cwd input,
                 output := some (Path.absolute cwd output) } := by
    -- neither text is empty, so both directories are the given ones
    cases input with
    | nil => exact absurd rfl hinput
    | cons =>
      cases output with
      | nil => exact absurd rfl houtput
      | cons => rfl
  rw [hmake]
  by_cases hwithin : Path.isWithin (Path.absolute cwd output) (Path.absolute cwd input) = true
  · have hencloses := (Path.isWithin_absolute_iff cwd output input).mp hwithin
    simp only [hwithin, if_true, hencloses, and_true, not_true, and_false, iff_false]
    exact ⟨fun f => by simp [eq_comm], nofun, fun _ => iff_of_true ⟨_, rfl⟩ hencloses.1⟩
  · have hnot : ¬ Path.Encloses (Path.join cwd input) (Path.join cwd output) :=
      fun h => hwithin ((Path.isWithin_absolute_iff cwd output input).mpr h)
    simp only [hwithin, hnot, and_false, not_false_eq_true, and_true, iff_false]
    refine ⟨nofun, fun a => by simp [eq_comm], fun hlead => iff_of_false nofun fun hpre => ?_⟩
    exact hnot ⟨hpre, .inr hlead⟩

/-- A package without a directory of its own. -/
def guarded : Package :=
  { name := .str "p", root := [], extensions := defaultExtensions, parser := .treeSitter,
    options := .null, version := .null, treeType := none }

/-- A sibling whose name begins like that of the input directory is no part of it, and a way out
    of it and back leads into it. -/
theorem make_iff_spellings :
    make "/w" guarded (some "src/") (some "src-out")
        = .ok { package := guarded, input := "/w/src", output := some "/w/src-out" }
      ∧ make "/w" guarded (some "./src") (some "src/../src//dist/.")
        = .error (.outputInside "/w/src/dist" "/w/src") := by
  have hsrc : ("src/" : Text) ≠ [] ∧ ("src-out" : Text) ≠ [] := by decide
  have hdist : ("./src" : Text) ≠ [] ∧ ("src/../src//dist/." : Text) ≠ [] := by decide
  obtain ⟨-, hmade, -⟩ := make_iff "/w" guarded hsrc.1 hsrc.2
  obtain ⟨hrefused, -, -⟩ := make_iff "/w" guarded hdist.1 hdist.2
  exact ⟨(hmade _).mpr ⟨rfl, by decide +kernel⟩, (hrefused _).mpr ⟨rfl, by decide +kernel⟩⟩

/-- With one slash more in front of its path, an output directory in the input directory is
    taken for one that lies elsewhere. -/
theorem make_slash_slash :
    Path.components (Path.join "/" "/w") <+: Path.components (Path.join "/" "//w/out")
      ∧ make "/" guarded (some "/w") (some "//w/out")
        = .ok { package := guarded, input := "/w", output := some "//w/out" } :=
  ⟨by decide +kernel, rfl⟩

end Analyzer

end ImportScan
