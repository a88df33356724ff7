import ImportScan.OutputTree
import ImportScan.Proofs.Disk.Calls
import ImportScan.Proofs.Tree.Patch

/-! # Output trees that follow a tree

    An output tree mirrors a tree when it holds a directory for each directory and a link
    into the input directory for each file, and nothing else.  The calls on an output tree
    then succeed under the preconditions that operations have on trees, and keep it a mirror
    of the changed tree.

    * `OutputTree.Mirrors` : what the output directory holds is what a tree says.
    * `Mirrors.unlink`, `Mirrors.rmdir`, `Mirrors.remove` : what is there goes away.
    * `Mirrors.mkdir`, `Mirrors.link` : at a free path something is made.
-/

namespace ImportScan.OutputTree

open ImportScan.Path (slash)
open Disk (ValidName)

variable {t : OutputTree} {d : Disk} {home : Location} {tree : Tree} {p : Text}

/-- What an output tree holds for a path of a kind. -/
def image (t : OutputTree) (p : Text) : Kind → Entry
  | .directory => .directory
  | .file => .link (t.inputPath p)

/-- The output directory holds what a tree says, each path at its components. -/
structure Mirrors (t : OutputTree) (d : Disk) (home : Location) (tree : Tree) : Prop
    extends Disk.Stands d t.output home where
  links : t.links = true
  resolved : ∃ init c, Path.Resolved t.output (init ++ [c])
  holds : ∀ p, d.get? (home ++ p.splitOn slash) = (tree p).map (t.image p)

/-! ## Paths in the output tree -/

theorem exists_splitOn (p : Text) : ∃ rs m, p.splitOn slash = rs ++ [m] := by
  obtain ⟨rs, m, h⟩ := (List.eq_nil_or_concat _).resolve_left (Text.splitOn_ne_nil slash p)
  exact ⟨rs, m, by rw [h, List.concat_eq_append]⟩

theorem splitOn_injective {p q : Text} (h : p.splitOn slash = q.splitOn slash) : p = q := by
  rw [← Text.join_splitOn slash p, h, Text.join_splitOn]

/-- A path whose components are names is put behind the output directory. -/
theorem Mirrors.outputPath (h : t.Mirrors d home tree)
    (hvalid : ∀ n ∈ p.splitOn slash, ValidName n) : t.outputPath p = t.output ++ slash :: p := by
  obtain ⟨init, c, hresolved⟩ := h.resolved
  exact hresolved.join (Path.isAbsolute_eq_false fun n hn => (hvalid n hn).toProper)

/-- A path of the output tree ends with a name, so there are no slashes to drop. -/
theorem Mirrors.trimSlashes (h : t.Mirrors d home tree)
    (hvalid : ∀ n ∈ p.splitOn slash, ValidName n) :
    Path.trimSlashes (t.outputPath p) = t.outputPath p := by
  obtain ⟨rs, m, hsplit⟩ := exists_splitOn p
  obtain ⟨start, hjoin, -⟩ := Path.join_names_concat rs m
  rw [← hsplit, Text.join_splitOn] at hjoin
  have hm := (hvalid m (by simp [hsplit])).toProper
  have hpath := h.outputPath hvalid
  rw [hjoin, ← List.cons_append, ← List.append_assoc] at hpath
  rw [hjoin, hpath]
  exact Path.trimEnd_append hm _

/-- A path of the output tree leads to the place of its components, if there is a directory
    that holds it. -/
theorem Mirrors.resolve (h : t.Mirrors d home tree) (hvalid : ∀ n ∈ p.splitOn slash, ValidName n)
    (hdir : d.get? (home ++ (p.splitOn slash).dropLast) = some .directory) :
    d.resolve false (t.outputPath p) = .ok (home ++ p.splitOn slash, (tree p).map (t.image p)) := by
  obtain ⟨rs, m, hsplit⟩ := exists_splitOn p
  have hp := Text.join_splitOn slash p
  have hget := h.holds p
  rw [h.outputPath hvalid]
  rw [hsplit, List.dropLast_concat] at hdir
  rw [hsplit] at hvalid hp hget ⊢
  have hbelow := h.hangs.resolve_below h.wellFormed hdir hvalid
  rwa [hp, hget] at hbelow

theorem Mirrors.valid (h : t.Mirrors d home tree) {k : Kind} (hp : tree p = some k) :
    ∀ n ∈ p.splitOn slash, ValidName n := by
  have hget := h.holds p
  rw [hp] at hget
  exact h.wellFormed.names hget

/-- What the tree has is in a directory. -/
theorem Mirrors.holder_of_some (h : t.Mirrors d home tree) {k : Kind} (hp : tree p = some k) :
    d.get? (home ++ (p.splitOn slash).dropLast) = some .directory := by
  obtain ⟨rs, m, hsplit⟩ := exists_splitOn p
  have hget := h.holds p
  rw [hp, hsplit, ← List.append_assoc] at hget
  rw [hsplit, List.dropLast_concat]
  exact h.wellFormed.dir hget

/-- The directory that is to hold a path is there if the tree has it. -/
theorem Mirrors.holder (h : t.Mirrors d home tree) (hp : tree.Holds p) :
    d.get? (home ++ (p.splitOn slash).dropLast) = some .directory := by
  obtain ⟨rs, m, hsplit⟩ := exists_splitOn p
  rw [hsplit, List.dropLast_concat]
  by_cases hrs : rs = []
  · rw [hrs, List.append_nil]
    exact h.directory
  · have hget := h.holds (Text.join [slash] rs)
    rw [Path.splitOn_holder hsplit hrs, hp _ (Path.holder?_eq hsplit hrs)] at hget
    exact hget

/-- The tree has the directories that hold what it has. -/
theorem Mirrors.holds_of_some (h : t.Mirrors d home tree) {k : Kind} (hp : tree p = some k) :
    tree.Holds p := by
  intro dir hdir
  obtain ⟨rs, m, hsplit⟩ := exists_splitOn p
  have hrs : rs ≠ [] := by
    rintro rfl
    simp [Path.holder?, hsplit] at hdir
  rw [Path.holder?_eq hsplit hrs] at hdir
  cases hdir
  have hget := h.holds (Text.join [slash] rs)
  have hholder := h.holder_of_some hp
  rw [hsplit, List.dropLast_concat] at hholder
  rw [Path.splitOn_holder hsplit hrs, hholder] at hget
  match hkind : tree (Text.join [slash] rs) with
  | some .directory => rfl
  | some .file => simp [hkind, image] at hget
  | none => simp [hkind] at hget

/-- The place of a path is not at the output directory itself. -/
theorem place_ne_home (p : Text) : home ++ p.splitOn slash ≠ home := by
  simpa using Text.splitOn_ne_nil slash p

theorem place_inj {p q : Text} (h : home ++ p.splitOn slash = home ++ q.splitOn slash) : p = q :=
  splitOn_injective (List.append_cancel_left h)

/-- A well-formed disk that differs in the place of one path mirrors the tree that differs in
    that path. -/
theorem Mirrors.update (h : t.Mirrors d home tree) {d' : Disk} (hd : d'.WellFormed)
    {o : Option Kind}
    (hget : ∀ l, d'.get? l = if l = home ++ p.splitOn slash then o.map (t.image p) else d.get? l) :
    t.Mirrors d' home (Function.update tree p o) := by
  -- the place is below the output directory, so the way there stays
  refine ⟨⟨hd, h.hangs.congr fun l hl => ?_, ?_⟩, h.links, h.resolved, fun q => ?_⟩
  · rw [hget, if_neg]
    rintro rfl
    exact hl (List.prefix_append _ _)
  · rw [hget, if_neg (place_ne_home p).symm, h.directory]
  · rw [hget]
    by_cases hq : q = p
    · subst hq
      rw [if_pos rfl, Function.update_self]
    · rw [if_neg fun heq => hq (place_inj heq), Function.update_of_ne hq, h.holds]

/-- Something is made at a free path in a directory. -/
theorem Mirrors.insert (h : t.Mirrors d home tree) (hvalid : ∀ n ∈ p.splitOn slash, ValidName n)
    (hdir : d.get? (home ++ (p.splitOn slash).dropLast) = some .directory) (hfree : tree p = none)
    (k : Kind) :
    t.Mirrors (d.insert (home ++ p.splitOn slash) (t.image p k)) home
      (Function.update tree p (some k)) := by
  obtain ⟨rs, m, hsplit⟩ := exists_splitOn p
  have hnone := h.holds p
  rw [hfree] at hnone
  have hd : (d.insert (home ++ p.splitOn slash) (t.image p k)).WellFormed := by
    rw [hsplit] at hvalid hdir hnone ⊢
    rw [List.dropLast_concat] at hdir
    rw [← List.append_assoc] at hnone ⊢
    exact h.wellFormed.insert (hvalid m (by simp)) hdir hnone _
  have hne : home ++ p.splitOn slash ≠ [] := by simp [Text.splitOn_ne_nil]
  exact h.update hd (d.get?_insert hne _)

/-- What is there and holds nothing goes away. -/
theorem Mirrors.erase (h : t.Mirrors d home tree)
    (hempty : ∀ n, d.get? (home ++ p.splitOn slash ++ [n]) = none) :
    t.Mirrors (d.erase (home ++ p.splitOn slash)) home (Function.update tree p none) := by
  have hne : home ++ p.splitOn slash ≠ [] := by simp [Text.splitOn_ne_nil]
  exact h.update (h.wellFormed.erase hne hempty) (d.get?_erase hne)

/-! ## Calls -/

/-- The link of a file can be removed. -/
theorem Mirrors.unlink (h : t.Mirrors d home tree) (hp : tree p = some .file) :
    ∃ d', t.unlink p d = .ok d' ∧ t.Mirrors d' home (Function.update tree p none) := by
  have hresolve := h.resolve (h.valid hp) (h.holder_of_some hp)
  have hget := h.holds p
  rw [hp] at hresolve hget
  refine ⟨d.erase (home ++ p.splitOn slash), ?_, h.erase fun n => ?_⟩
  · unfold OutputTree.unlink Disk.unlink Disk.locate
    rw [hresolve]
    rfl
  · exact h.wellFormed.below (by simp) (by rw [hget]; simp [image])

/-- Whatever is there for a file can be removed. -/
theorem Mirrors.remove (h : t.Mirrors d home tree) (hp : tree p = some .file) :
    ∃ d', t.remove p d = .ok d' ∧ t.Mirrors d' home (Function.update tree p none) := by
  have hresolve := h.resolve (h.valid hp) (h.holder_of_some hp)
  rw [hp] at hresolve
  have hlink : d.isLink (t.outputPath p) = true := by
    unfold Disk.isLink
    rw [hresolve]
    rfl
  have hremove : t.remove p d = t.unlink p d := by
    simp [OutputTree.remove, OutputTree.unlink, hlink]
  rw [hremove]
  exact h.unlink hp

/-- A directory of the tree that holds nothing can be removed. -/
theorem Mirrors.rmdir (h : t.Mirrors d home tree) (hp : tree p = some .directory)
    (hempty : ∀ q, Path.holder? q = some p → tree q = none) :
    ∃ d', t.rmdir p d = .ok d' ∧ t.Mirrors d' home (Function.update tree p none) := by
  have hvalid := h.valid hp
  have hresolve := h.resolve hvalid (h.holder_of_some hp)
  rw [hp] at hresolve
  have hnone : ∀ n, d.get? (home ++ p.splitOn slash ++ [n]) = none := by
    intro n
    cases hget : d.get? (home ++ p.splitOn slash ++ [n]) with
    | none => rfl
    | some e =>
      -- an entry would be that of a path which the directory holds
      have hn := h.wellFormed.name hget
      have hslash : ∀ x ∈ p.splitOn slash ++ [n], slash ∉ x := by
        intro x hx
        rcases List.mem_append.mp hx with hx | hx
        · exact (hvalid x hx).no_slash
        · cases List.mem_singleton.mp hx
          exact hn.no_slash
      have hsplit := Text.splitOn_join (by simp) hslash
      have hholder := Path.holder?_eq hsplit (Text.splitOn_ne_nil slash p)
      rw [Text.join_splitOn] at hholder
      have hq := h.holds (Text.join [slash] (p.splitOn slash ++ [n]))
      rw [hsplit, ← List.append_assoc, hget, hempty _ hholder] at hq
      cases hq
  refine ⟨d.erase (home ++ p.splitOn slash), ?_, h.erase hnone⟩
  have hnames : d.names (home ++ p.splitOn slash) = [] := by
    apply List.eq_nil_iff_forall_not_mem.mpr
    intro n hn
    obtain ⟨e, he⟩ := Disk.mem_names.mp hn
    rw [hnone] at he
    cases he
  unfold OutputTree.rmdir Disk.rmdir Disk.locate
  rw [hresolve]
  show (if (d.names (home ++ p.splitOn slash)).isEmpty then _ else _) = _
  rw [hnames]
  rfl

/-- A directory can be made at a free path in a directory. -/
theorem Mirrors.mkdir (h : t.Mirrors d home tree) (hvalid : ∀ n ∈ p.splitOn slash, ValidName n)
    (hfree : tree p = none) (hholds : tree.Holds p) :
    ∃ d', t.mkdir p d = .ok d' ∧ t.Mirrors d' home (Function.update tree p (some .directory)) := by
  have hdir := h.holder hholds
  have hresolve := h.resolve hvalid hdir
  rw [hfree] at hresolve
  refine ⟨_, ?_, h.insert hvalid hdir hfree .directory⟩
  unfold OutputTree.mkdir Disk.mkdir
  rw [h.trimSlashes hvalid, hresolve]
  rfl

/-- The path of a source is never empty. -/
theorem inputPath_ne_nil (t : OutputTree) (hvalid : ∀ n ∈ p.splitOn slash, ValidName n) :
    t.inputPath p ≠ [] := by
  have hp : p ≠ [] := by
    rintro rfl
    exact (hvalid [] List.mem_cons_self).nonempty rfl
  unfold OutputTree.inputPath Path.join
  split
  · exact hp
  · split
    · simp [hp]
    · simp

/-- A link can be made at a free path in a directory. -/
theorem Mirrors.link (h : t.Mirrors d home tree) (hvalid : ∀ n ∈ p.splitOn slash, ValidName n)
    (hgood : Disk.badName? (t.inputPath p) = none) (hfree : tree p = none)
    (hholds : tree.Holds p) :
    ∃ d', (t.link p d).1 = .ok d' ∧ t.Mirrors d' home (Function.update tree p (some .file)) := by
  have hdir := h.holder hholds
  have hresolve := h.resolve hvalid hdir
  rw [hfree] at hresolve
  have hsymlink : d.symlink (t.inputPath p) (t.outputPath p) =
      .ok (d.insert (home ++ p.splitOn slash) (t.image p .file)) := by
    exact Disk.symlink_of_resolve hgood (t.inputPath_ne_nil hvalid) hresolve
  refine ⟨_, ?_, h.insert hvalid hdir hfree .file⟩
  simp [OutputTree.link, h.links, hsymlink]

end ImportScan.OutputTree
