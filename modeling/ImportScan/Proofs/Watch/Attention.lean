import ImportScan.Proofs.Analyzer.Build
import ImportScan.Proofs.Analyzer.Guard
import ImportScan.Proofs.Watch.Debounce

/-! # What a watch hears

    A watch leaves out what happens in its output directory.  That directory never lies in the
    input directory, but nothing keeps the input directory from lying in it, and then every
    event in the input tree is left out.  In any other place the output directory does no harm.

    * `Path.Covers`         : what a directory that is ignored takes along, name by name.
    * `Watch.ignores_iff`   : the comparison of texts as one of names.
    * `Watch.Attends`       : the watches on an analyzer.
    * `Watch.receive_input` : which events in the input tree are noted.
-/

namespace ImportScan

namespace Path

variable {path root : Text} {cs rs : List Text}

/-- A resolved path keeps its names when it is resolved again. -/
theorem Resolved.components_eq (h : Resolved path cs) : components path = cs := by
  obtain ⟨start, hstart, hsplit⟩ := h.splitOn
  -- what is empty is passed over, and every name is kept
  have hempty : start.foldl enter [] = [] := by
    clear hsplit
    induction start with
    | nil => rfl
    | cons c start ih =>
      obtain ⟨hc, hstart⟩ := List.forall_mem_cons.mp hstart
      rw [hc]
      exact ih hstart
  have hnames : ∀ (names before : List Text), (∀ c ∈ names, Proper c) →
      names.foldl enter before = names.reverse ++ before := by
    intro names
    induction names with
    | nil => exact fun _ _ => rfl
    | cons c names ih =>
      intro before hproper
      obtain ⟨hc, hproper⟩ := List.forall_mem_cons.mp hproper
      have henter : enter before c = c :: before := by
        simp [enter, hc.nonempty, hc.not_here, hc.not_up]
      rw [List.foldl_cons, henter, ih _ hproper, List.reverse_cons, List.append_assoc]
      rfl
  rw [components, hsplit, List.foldl_append, hempty, hnames cs [] h.proper]
  simp

/-- A directory that is ignored covers a path: its names come first in those of the path, and
    both are led by as many slashes, or the path by one more if the directory has no names. -/
def Covers (root path : Text) : Prop :=
  components root <+: components path ∧
    lead path = if components root = [] then lead root ++ [slash] else lead root

instance (root path : Text) : Decidable (Covers root path) :=
  inferInstanceAs (Decidable (_ ∧ _))

theorem head_of_names (hcs : ∀ c ∈ cs, Proper c) (hne : cs ≠ []) :
    ∃ x rest, Text.join [slash] cs = x :: rest ∧ x ≠ slash := by
  have hhead := head?_join_ne hcs
  cases hjoin : Text.join [slash] cs with
  | nil => exact absurd hjoin (join_ne_nil hcs hne)
  | cons x rest => exact ⟨x, rest, rfl, by simpa [hjoin] using hhead⟩

/-- Where a directory has no names, only paths with one slash more in front start with it and a
    slash behind it. -/
theorem startsWith_root_iff (hpath : Resolved path cs) (hroot : Resolved root []) (hcs : cs ≠ []) :
    path.startsWith (root ++ [slash]) = true ↔ lead path = lead root ++ [slash] := by
  obtain ⟨x, rest, hjoin, hx⟩ := head_of_names hpath.proper hcs
  have hspelled := hpath.spelled
  rw [hjoin] at hspelled
  have hone : lead (slash :: x :: rest) = [slash] := by simp [lead, hx]
  have htwo : lead (slash :: slash :: x :: rest) = [slash, slash] := by simp [lead, hx]
  have hx' : slash ≠ x := hx.symm
  rw [Text.startsWith, List.isPrefixOf_iff_prefix]
  rcases hroot.spelled with rfl | rfl
  · show [slash, slash] <+: path ↔ lead path = [slash, slash]
    rcases hspelled with rfl | rfl
    · rw [hone, List.cons_prefix_cons, List.cons_prefix_cons]
      exact iff_of_false (fun h => hx' h.2.1) (by decide)
    · rw [htwo]
      exact iff_of_true ⟨x :: rest, rfl⟩ rfl
  · show [slash, slash, slash] <+: path ↔ lead path = [slash, slash, slash]
    rcases hspelled with rfl | rfl
    · rw [hone, List.cons_prefix_cons, List.cons_prefix_cons]
      exact iff_of_false (fun h => hx' h.2.1) (by decide)
    · rw [htwo, List.cons_prefix_cons, List.cons_prefix_cons, List.cons_prefix_cons]
      exact iff_of_false (fun h => hx' h.2.2.1) (by decide)

/-- The texts of two resolved paths, the second with names, tell whether one covers the other. -/
theorem covers_iff (hpath : Resolved path cs) (hroot : Resolved root rs) (hcs : cs ≠ []) :
    (path == root || path.startsWith (root ++ [slash])) = true ↔
      rs <+: cs ∧ lead path = if rs = [] then lead root ++ [slash] else lead root := by
  obtain rfl | ⟨init, c, rfl⟩ := List.eq_nil_or_concat rs
  · have hne : (path == root) = false := by
      apply beq_false_of_ne
      rintro rfl
      exact hcs (hpath.names_eq.symm.trans hroot.names_eq)
    rw [hne, Bool.false_or, startsWith_root_iff hpath hroot hcs]
    simp
  · -- a directory with names ends with one, so that the slash behind it is the only one
    rw [List.concat_eq_append] at hroot ⊢
    have hwithin := isWithin_iff hpath hroot
    rw [isWithin, hroot.trimSlashes] at hwithin
    have hne : init ++ [c] ≠ [] := by simp
    rw [hwithin, if_neg hne]
    exact and_congr_right fun _ =>
      ⟨fun hlead => (hlead.resolve_left hne).symm, fun hlead => .inr hlead.symm⟩

end Path

namespace Watch

variable {a : Analyzer} {w : Watch}

/-! ## Watches on an analyzer -/

/-- What is ignored when the names of the path are known. -/
theorem ignores_iff {root : Text} {rs : List Text} (hroot : Path.Resolved root rs)
    (here path : Text) (hnames : Path.components (Path.join here path) ≠ []) :
    ignores here (some root) path = true ↔ Path.Covers root (Path.join here path) := by
  have hpath := Path.resolved_components here path
  show (Path.absolute here path == root || _) = true ↔ _
  rw [Path.covers_iff hpath hroot hnames, Path.lead_absolute, Path.Covers, hroot.components_eq]

/-- The watches on an analyzer: a new one, and what becomes of it when calls and events come in
    and the disk is edited. -/
inductive Attends [Parsers] (a : Analyzer) : Watch → Prop where
  /-- Nothing has happened. -/
  | start (d : Disk) (quiet : Binary64) (writes : Nat) :
      Attends a (ofSession ⟨a, d, [], []⟩ quiet writes)
  /-- A call was made. -/
  | call {w : Watch} (c : Call) : Attends a w → Attends a (w.call c)
  /-- An event came in. -/
  | event {w : Watch} (here event path : Text) :
      Attends a w → Attends a (w.receive here event path)
  /-- The disk was edited. -/
  | edit {w : Watch} (d : Disk) (writes : Nat) : Attends a w →
      Attends a { w with session := { w.session with disk := d }, writes }

theorem call_ignored [Parsers] (w : Watch) (c : Call) : (w.call c).ignored = w.ignored := by
  have hbuild : w.runBuild.2.ignored = w.ignored := by
    obtain ⟨log, builds, hbuilt⟩ := runBuild_eq w
    rw [hbuilt]
  cases c with
  | notify => rfl
  | cancel => rfl
  | build => exact hbuild
  | pass seconds =>
    show (w.advance seconds).ignored = _
    rw [advance_eq]
    split
    · exact hbuild
    · rfl

theorem receive_ignored (w : Watch) (here event path : Text) :
    (w.receive here event path).ignored = w.ignored := by
  unfold receive
  split <;> rfl

/-- At any time a watch ignores the output directory of its analyzer. -/
theorem Attends.ignored [Parsers] (h : Attends a w) : w.ignored = a.output := by
  induction h with
  | start d quiet writes => rfl
  | call c _ ih => rw [call_ignored, ih]
  | event here event path _ ih => rw [receive_ignored, ih]
  | edit d writes _ ih => exact ih

/-! ## Where the output directory may lie -/

/-- An analyzer is not made with its output directory in its input directory. -/
theorem not_within_of_make {cwd : Text} {package : Package} {input output : Option Text}
    (h : Analyzer.make cwd package input output = .ok a) {out : Text} (hout : a.output = some out) :
    Path.isWithin out a.input = false := by
  unfold Analyzer.make at h
  simp only at h
  split at h
  · cases h
    cases hout
  · split at h
    · cases h
    · next hnot =>
      cases h
      cases hout
      simpa using hnot

/-- The input directory and the output directory of an analyzer, name by name: the first does not
    enclose the second. -/
structure Placed (input out : Text) : Prop where
  resolved : Path.Resolved out (Path.components out)
  named : Path.components input ≠ []
  apart : Path.lead out = Path.lead input → ¬ Path.components input <+: Path.components out

theorem placed_of_make {cwd : Text} {package : Package} {input output : Option Text}
    (h : Analyzer.make cwd package input output = .ok a) {out : Text} (hout : a.output = some out) :
    Placed a.input out := by
  have hnot := not_within_of_make h hout
  rw [Act.eq_of_make h] at hout hnot
  obtain ⟨given, -, rfl⟩ := Option.map_eq_some_iff.mp hout
  obtain ⟨is, hinput⟩ := Path.resolved_absolute cwd ((Analyzer.given? input).getD package.root)
  obtain ⟨os, houtput⟩ := Path.resolved_absolute cwd given
  have hwithin := mt (Path.isWithin_iff houtput hinput).mpr (Bool.eq_false_iff.mp hnot)
  rw [Act.eq_of_make h]
  refine ⟨by rwa [houtput.components_eq], ?_, ?_⟩
  · show Path.components (Path.absolute _ _) ≠ []
    rw [hinput.components_eq]
    -- every directory lies in one without names
    intro hnone
    exact hwithin ⟨hnone ▸ List.nil_prefix, .inl hnone⟩
  · show _ → ¬ Path.components (Path.absolute _ _) <+: _
    rw [hinput.components_eq, houtput.components_eq]
    intro hlead hpre
    exact hwithin ⟨hpre, .inr hlead.symm⟩

/-- An output directory that covers something in the input directory encloses that, if paths are
    led alike. -/
theorem Placed.prefix_of_covers {input out path : Text} (h : Placed input out)
    (hbelow : Path.components input <+: Path.components path)
    (hcovers : Path.Covers out path)
    (hlead : Path.lead path = Path.lead input ∨ Path.lead out = Path.lead input) :
    Path.components out <+: Path.components input := by
  rcases List.prefix_or_prefix_of_prefix hcovers.1 hbelow with houter | hinner
  · exact houter
  · -- the output directory would lie in the input directory, and both would be led alike
    have hnamed : Path.components out ≠ [] := by
      intro hnone
      rw [hnone, List.prefix_nil] at hinner
      exact h.named hinner
    have heq := hcovers.2
    rw [if_neg hnamed] at heq
    have halike : Path.lead out = Path.lead input := by
      rcases hlead with hpath | hout
      · rw [← heq, hpath]
      · exact hout
    exact absurd hinner (h.apart halike)

/-- Of the paths in the input directory that are led like it, the output directory covers all or
    none. -/
theorem Placed.covers_iff {input out path : Text} (h : Placed input out)
    (hbelow : Path.components input <+: Path.components path)
    (hlead : Path.lead path = Path.lead input) :
    Path.Covers out path ↔ Path.Covers out input := by
  constructor
  · intro hcovers
    exact ⟨h.prefix_of_covers hbelow hcovers (.inl hlead), hlead ▸ hcovers.2⟩
  · intro hcovers
    exact ⟨hcovers.1.trans hbelow, hlead ▸ hcovers.2⟩

/-! ## Events in the input tree -/

/-- What a watch makes of an event of a type that counts, at a path in the input directory: it is
    noted unless the output directory covers its path.  Where paths are led by as many slashes
    as the input directory, all of them are covered or none, and an output directory that is led
    like the input directory and does not enclose it covers none. -/
theorem receive_input [Parsers] {cwd here : Text} {package : Package} {input output : Option Text}
    (hmake : Analyzer.make cwd package input output = .ok a) (hattends : Attends a w)
    {event path : Text} (hevent : event ∉ idleEvents)
    (hbelow : Path.components a.input <+: Path.components (Path.join here path)) :
    w.receive here event path =
        (if ∃ out ∈ a.output, Path.Covers out (Path.join here path) then w else w.notify)
      ∧ (Path.lead (Path.join here path) = Path.lead a.input →
        ((∃ out ∈ a.output, Path.Covers out (Path.join here path)) ↔
          ∃ out ∈ a.output, Path.Covers out a.input))
      ∧ ((∀ out ∈ a.output, Path.lead out = Path.lead a.input ∧
            ¬ Path.components out <+: Path.components a.input) →
        w.receive here event path = w.notify) := by
  have hevent' : idleEvents.contains event = false := by simpa using hevent
  cases hout : a.output with
  | none =>
    have hnoted : w.receive here event path = w.notify := by
      simp [receive, isRelevant, hattends.ignored, hout, ignores, hevent]
    simp [hnoted]
  | some out =>
    have hplaced := placed_of_make hmake hout
    have hnames : Path.components (Path.join here path) ≠ [] := by
      intro hnone
      rw [hnone, List.prefix_nil] at hbelow
      exact hplaced.named hbelow
    have hignores := ignores_iff hplaced.resolved here path hnames
    have hheard : w.receive here event path =
        if Path.Covers out (Path.join here path) then w else w.notify := by
      unfold receive isRelevant
      rw [hattends.ignored, hout, hevent']
      by_cases hcovers : Path.Covers out (Path.join here path)
      · rw [hignores.mpr hcovers, if_pos hcovers]
        rfl
      · rw [Bool.eq_false_iff.mpr (mt hignores.mp hcovers), if_neg hcovers]
        rfl
    simp only [Option.mem_def, Option.some.injEq, exists_eq_left', forall_eq']
    refine ⟨hheard, fun hlead => hplaced.covers_iff hbelow hlead, ?_⟩
    rintro ⟨hlead, houter⟩
    rw [hheard, if_neg]
    intro hcovers
    exact houter (hplaced.prefix_of_covers hbelow hcovers (.inr hlead))

/-- An analyzer whose output directory lies beside its input directory, and one whose output
    directory holds it. -/
def besides (output : Text) : Analyzer :=
  { package := Analyzer.guarded, input := "/w/src", output := some output }

/-- A file of the input tree that is named from elsewhere is heard of. -/
theorem receive_input_sibling :
    let w := ofSession ⟨besides "/w/src-out", {}, [], []⟩ .zero 0
    w.receive "/w/lib" "modified" "../src/a.js" = w.notify := by
  intro w
  have hmake : Analyzer.make "/w" Analyzer.guarded (some "src") (some "src-out")
      = .ok (besides "/w/src-out") := by rfl
  have hevent : ("modified" : Text) ∉ idleEvents := by decide
  have hbelow : Path.components (besides "/w/src-out").input <+:
      Path.components (Path.join "/w/lib" "../src/a.js") := by decide +kernel
  obtain ⟨-, -, hnoted⟩ := receive_input hmake (.start {} .zero 0) hevent hbelow
  refine hnoted fun out hout => ?_
  cases hout
  decide +kernel

/-- With an output directory that holds the input directory, a change of the input tree makes no
    build wait. -/
theorem receive_input_unheard :
    Analyzer.make "/w" Analyzer.guarded (some "src") (some ".") = .ok (besides "/w")
      ∧ ("modified" : Text) ∉ idleEvents
      ∧ Path.components "/w/src" <+: Path.components (Path.join "/w" "src/a.js")
      ∧ ((ofSession ⟨besides "/w", {}, [], []⟩ .zero 0).receive "/w" "modified" "src/a.js").due
        = none :=
  ⟨rfl, by decide, by decide +kernel, rfl⟩

end Watch

end ImportScan
