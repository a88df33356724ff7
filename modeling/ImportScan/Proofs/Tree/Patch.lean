import Mathlib.Data.List.Permutation
import ImportScan.Proofs.Path.Components
import ImportScan.Proofs.Table
import ImportScan.Proofs.Text.Order
import ImportScan.Tree.Snapshot

/-! # Patches are correct

    A tree tells for each path whether it is a file, a directory or neither.  On trees the
    operations of a patch have strict preconditions: what is removed has to be there, what is
    made must not, and the directory that holds it has to exist.

    * `Tree.Step`, `Tree.Run` : the strict semantics of one operation and of a patch.
    * `Snapshot.Rooted`       : every entry is held by the root or by a directory entry.
    * `Snapshot.run_patch`    : the patch between rooted snapshots runs from one to the other.
    * `Snapshot.patch_correct` : it also has an operation on exactly the paths that differ.
-/

namespace ImportScan

/-- What a path of a tree is. -/
inductive Kind where
  /-- A directory. -/
  | directory
  /-- A file. -/
  | file
deriving Repr, DecidableEq

namespace Kind

/-- The operation that removes a path of a kind. -/
def removal : Kind → Operation
  | .directory => .rmdir
  | .file => .unlink

/-- The operation that makes a path of a kind. -/
def addition : Kind → Operation
  | .directory => .mkdir
  | .file => .create

end Kind

/-- The kind of the path with a status. -/
def Status.kind : Status → Kind
  | .directory => .directory
  | .file .. => .file

/-- Two statuses, or absences, that a patch does not tell apart. -/
def Status.Agree : Option Status → Option Status → Prop
  | none, none => True
  | some .directory, some .directory => True
  | some (.file size mtime), some (.file size' mtime') => size = size' ∧ mtime.equal mtime' = true
  | _, _ => False

/-! ## Strict semantics -/

/-- The kind of every path that there is. -/
abbrev Tree := Text → Option Kind

namespace Tree

/-- The directory that holds a path exists; the root always does. -/
def Holds (t : Tree) (p : Text) : Prop :=
  ∀ dir, Path.holder? p = some dir → t dir = some .directory

/-- What one operation does to a tree, provided that its precondition holds. -/
inductive Step : Tree → Operation × Text → Tree → Prop where
  /-- A file that is there goes away. -/
  | unlink {t : Tree} {p : Text} : t p = some .file →
      Step t (.unlink, p) (Function.update t p none)
  /-- A directory that is there and holds nothing goes away. -/
  | rmdir {t : Tree} {p : Text} : t p = some .directory →
      (∀ q, Path.holder? q = some p → t q = none) →
      Step t (.rmdir, p) (Function.update t p none)
  /-- A directory is made at a free path. -/
  | mkdir {t : Tree} {p : Text} : t p = none → t.Holds p →
      Step t (.mkdir, p) (Function.update t p (some .directory))
  /-- A file is made at a free path. -/
  | create {t : Tree} {p : Text} : t p = none → t.Holds p →
      Step t (.create, p) (Function.update t p (some .file))
  /-- A file that is there is edited. -/
  | change {t : Tree} {p : Text} : t p = some .file → Step t (.change, p) t

/-- What the operations of a patch do one after the other, all preconditions met. -/
inductive Run : Tree → Patch → Tree → Prop where
  | nil (t : Tree) : Run t [] t
  | cons {t t' t'' : Tree} {o : Operation × Text} {patch : Patch} :
      Step t o t' → Run t' patch t'' → Run t (o :: patch) t''

theorem Run.append {t t' t'' : Tree} {patch patch' : Patch} (h : Run t patch t')
    (h' : Run t' patch' t'') : Run t (patch ++ patch') t'' := by
  induction h with
  | nil => exact h'
  | cons hstep _ ih => exact .cons hstep (ih h')

/-- A removal of what is there, and holds nothing. -/
theorem Step.removal {t : Tree} {p : Text} {k : Kind} (hp : t p = some k)
    (hempty : k = .directory → ∀ q, Path.holder? q = some p → t q = none) :
    Step t (k.removal, p) (Function.update t p none) := by
  cases k with
  | directory => exact .rmdir hp (hempty rfl)
  | file => exact .unlink hp

/-- An addition at a free path in a directory. -/
theorem Step.addition {t : Tree} {p : Text} (k : Kind) (hp : t p = none) (hold : t.Holds p) :
    Step t (k.addition, p) (Function.update t p (some k)) := by
  cases k with
  | directory => exact .mkdir hp hold
  | file => exact .create hp hold

end Tree

namespace Snapshot

variable {previous current : Snapshot}

/-- The kinds of the paths of a snapshot. -/
def tree (s : Snapshot) : Tree := fun p => (s.get? p).map Status.kind

/-- Every entry is held by the root or by a directory entry. -/
def Rooted (s : Snapshot) : Prop := ∀ p status, s.get? p = some status → s.tree.Holds p

instance (t : Tree) (p : Text) : Decidable (t.Holds p) :=
  inferInstanceAs (Decidable (∀ dir, dir ∈ Path.holder? p → t dir = some .directory))

instance (s : Snapshot) : Decidable s.Rooted :=
  decidable_of_iff (∀ e ∈ s.entries, s.tree.Holds e.1)
    ⟨fun h p status hp => h (p, status) (Table.mem_entries_iff.mpr hp),
     fun h e he => h e.1 e.2 (Table.mem_entries_iff.mp he)⟩

theorem tree_eq_some {s : Snapshot} {p : Text} {status : Status} (h : s.get? p = some status) :
    s.tree p = some status.kind := by
  simp [tree, h]

theorem tree_eq_none {s : Snapshot} {p : Text} (h : s.get? p = none) : s.tree p = none := by
  simp [tree, h]

theorem Rooted.holds {s : Snapshot} {p : Text} {k : Kind} (h : s.Rooted)
    (hp : s.tree p = some k) : s.tree.Holds p := by
  obtain ⟨status, hs, _⟩ := Option.map_eq_some_iff.mp hp
  exact h p status hs

/-- A holder comes before what it holds. -/
theorem le_of_holder {p dir : Text} (h : Path.holder? p = some dir) :
    Text.le dir p = true ∧ dir ≠ p := by
  obtain ⟨name, rfl⟩ := Path.exists_of_holder?_eq_some h
  refine ⟨Text.le_append _ _, fun heq => ?_⟩
  have := congrArg List.length heq
  simp at this

/-! ## The paths of a snapshot in order -/

theorem mem_sortedPaths {s : Snapshot} {p : Text} :
    p ∈ s.sortedPaths ↔ ∃ status, s.get? p = some status := by
  unfold sortedPaths get?
  rw [Text.mem_sorted, Table.mem_keys_iff]

theorem nodup_sortedPaths (s : Snapshot) : s.sortedPaths.Nodup :=
  Text.nodup_sorted s.table.distinct

/-- Ascending paths, each once: whatever comes later is larger. -/
theorem ascending_sortedPaths (s : Snapshot) :
    s.sortedPaths.Pairwise fun a b => Text.le a b = true ∧ a ≠ b :=
  (Text.sorted_ascending _).and (nodup_sortedPaths s)

theorem descending_sortedPaths (s : Snapshot) :
    s.sortedPaths.reverse.Pairwise fun a b => Text.le b a = true ∧ b ≠ a :=
  List.pairwise_reverse.mpr (ascending_sortedPaths s)

/-! ## Single operations -/

theorem removal?_eq (current : Snapshot) (p : Text) (old : Status) :
    removal? current p old =
      if current.tree p = some old.kind then none else some (old.kind.removal, p) := by
  unfold removal? tree
  cases current.get? p with
  | none => cases old <;> rfl
  | some new => cases old <;> cases new <;> rfl

theorem addition?_eq (previous : Snapshot) (p : Text) (new : Status) :
    addition? previous p new =
      if previous.tree p = some new.kind then
        (if (previous.get? p).any (·.isEdited new) then some (.change, p) else none)
      else some (new.kind.addition, p) := by
  unfold addition? tree
  cases previous.get? p with
  | none => cases new <;> rfl
  | some old => cases old <;> cases new <;> simp [Status.kind, Status.isDirectory, Kind.addition]

/-- Only files are edited. -/
theorem kind_of_isEdited {old : Option Status} {new : Status}
    (h : old.any (·.isEdited new) = true) : new.kind = .file := by
  cases old with
  | none => simp at h
  | some old => cases old <;> cases new <;> simp_all [Status.isEdited, Status.kind]

/-- A path is removed when it was there and does not keep its kind. -/
theorem mem_removals_iff {op : Operation} {p : Text} :
    (op, p) ∈ removals previous current ↔
      ∃ old, previous.get? p = some old ∧ current.tree p ≠ some old.kind ∧
        op = old.kind.removal := by
  unfold removals
  simp only [List.mem_filterMap, List.mem_reverse, mem_sortedPaths, Option.bind_eq_some_iff,
    removal?_eq]
  constructor
  · rintro ⟨q, -, old, hold, heq⟩
    split at heq
    · cases heq
    · next hne =>
      cases heq
      exact ⟨old, hold, hne, rfl⟩
  · rintro ⟨old, hold, hne, rfl⟩
    exact ⟨p, ⟨old, hold⟩, old, hold, by rw [if_neg hne]⟩

/-- A path is made when it is there and did not have its kind before, and changed when it is
    a file that was edited. -/
theorem mem_additions_iff {op : Operation} {p : Text} :
    (op, p) ∈ additions previous current ↔
      ∃ new, current.get? p = some new ∧
        (previous.tree p ≠ some new.kind ∧ op = new.kind.addition ∨
          previous.tree p = some new.kind ∧
            (previous.get? p).any (·.isEdited new) = true ∧ op = .change) := by
  unfold additions
  simp only [List.mem_filterMap, mem_sortedPaths, Option.bind_eq_some_iff, addition?_eq]
  constructor
  · rintro ⟨q, -, new, hnew, heq⟩
    split at heq
    · next hsame =>
      split at heq
      · next hedit =>
        cases heq
        exact ⟨new, hnew, .inr ⟨hsame, hedit, rfl⟩⟩
      · cases heq
    · next hne =>
      cases heq
      exact ⟨new, hnew, .inl ⟨hne, rfl⟩⟩
  · rintro ⟨new, hnew, ⟨hne, rfl⟩ | ⟨hsame, hedit, rfl⟩⟩
    · exact ⟨p, ⟨new, hnew⟩, new, hnew, by rw [if_neg hne]⟩
    · exact ⟨p, ⟨new, hnew⟩, new, hnew, by rw [if_pos hsame, if_pos hedit]⟩

/-! ## The two phases

    Between the removals and the additions stand the paths that keep their kind.  Both phases
    go through sorted paths, and the invariant says that the paths gone through so far are as
    they will be at the end of the phase while the others are as they were at its start. -/

/-- The paths that keep their kind. -/
def kept (previous current : Snapshot) : Tree :=
  fun p => if previous.tree p = current.tree p then previous.tree p else none

theorem kept_of_eq {p : Text} (h : previous.tree p = current.tree p) :
    kept previous current p = current.tree p := by
  simp [kept, h]

theorem kept_of_ne {p : Text} (h : previous.tree p ≠ current.tree p) :
    kept previous current p = none := by
  simp [kept, h]

theorem run_removals_from (hc : current.Rooted) {ps : List Text} {t : Tree}
    (hps : ps.Pairwise fun a b => Text.le b a = true ∧ b ≠ a)
    (hmem : ∀ p ∈ ps, ∃ old, previous.get? p = some old)
    (ht : ∀ p, t p = if p ∈ ps then previous.tree p else kept previous current p) :
    Tree.Run t
      (ps.filterMap fun p => (previous.get? p).bind fun old => removal? current p old)
      (kept previous current) := by
  induction ps generalizing t with
  | nil =>
    have hend : t = kept previous current := funext fun p => by simpa using ht p
    rw [hend]
    exact .nil _
  | cons p rest ih =>
    obtain ⟨hbelow, hrest⟩ := List.pairwise_cons.mp hps
    obtain ⟨old, hold⟩ := hmem p List.mem_cons_self
    have hnot : p ∉ rest := fun h => (hbelow p h).2 rfl
    have htp : t p = some old.kind := by
      rw [ht p, if_pos List.mem_cons_self, tree_eq_some hold]
    have hmem' : ∀ q ∈ rest, ∃ old, previous.get? q = some old :=
      fun q hq => hmem q (List.mem_cons_of_mem _ hq)
    rw [List.filterMap_cons, hold, Option.bind_some, removal?_eq]
    by_cases hsame : current.tree p = some old.kind
    · -- the path stays what it is
      rw [if_pos hsame]
      refine ih hrest hmem' fun q => ?_
      by_cases hq : q = p
      · subst hq
        have hkeep : previous.tree q = current.tree q := by rw [tree_eq_some hold, hsame]
        rw [if_neg hnot, kept_of_eq hkeep, htp, hsame]
      · simpa [hq] using ht q
    · rw [if_neg hsame]
      refine .cons (Tree.Step.removal htp ?_) (ih hrest hmem' fun q => ?_)
      · -- what the directory held was gone through before it, and a path that was kept
        -- would need the directory in the current tree
        intro hdir q hq
        obtain ⟨hle, hne⟩ := le_of_holder hq
        have hlater : q ∉ p :: rest := by
          intro hmem
          rcases List.mem_cons.mp hmem with rfl | hmem
          · exact hne rfl
          · exact hne (Text.le_antisymm hle (hbelow q hmem).1)
        rw [ht q, if_neg hlater]
        by_cases hkeep : previous.tree q = current.tree q
        · rw [kept_of_eq hkeep]
          cases hcur : current.tree q with
          | none => rfl
          | some k => exact absurd (hdir ▸ hc.holds hcur p hq) hsame
        · exact kept_of_ne hkeep
      · by_cases hq : q = p
        · subst hq
          have hkeep : previous.tree q ≠ current.tree q := by
            rw [tree_eq_some hold]
            exact fun h => hsame h.symm
          rw [Function.update_self, if_neg hnot, kept_of_ne hkeep]
        · rw [Function.update_of_ne hq]
          simpa [hq] using ht q

/-- The removals leave the paths that keep their kind. -/
theorem run_removals (hc : current.Rooted) :
    Tree.Run previous.tree (removals previous current) (kept previous current) := by
  refine run_removals_from hc (descending_sortedPaths previous) (fun p hp => ?_) fun p => ?_
  · exact mem_sortedPaths.mp (List.mem_reverse.mp hp)
  · split
    · rfl
    · next hp =>
      cases hget : previous.get? p with
      | none =>
        rw [tree_eq_none hget, kept]
        split
        · rw [tree_eq_none hget]
        · rfl
      | some old =>
        exact absurd (List.mem_reverse.mpr (mem_sortedPaths.mpr ⟨old, hget⟩)) hp

theorem run_additions_from (hc : current.Rooted) {ps : List Text} {t : Tree}
    (hps : ps.Pairwise fun a b => Text.le a b = true ∧ a ≠ b)
    (hmem : ∀ p ∈ ps, ∃ new, current.get? p = some new)
    (ht : ∀ p, t p = if p ∈ ps then kept previous current p else current.tree p) :
    Tree.Run t
      (ps.filterMap fun p => (current.get? p).bind fun new => addition? previous p new)
      current.tree := by
  induction ps generalizing t with
  | nil =>
    have hend : t = current.tree := funext fun p => by simpa using ht p
    rw [hend]
    exact .nil _
  | cons p rest ih =>
    obtain ⟨habove, hrest⟩ := List.pairwise_cons.mp hps
    obtain ⟨new, hnew⟩ := hmem p List.mem_cons_self
    have hnot : p ∉ rest := fun h => (habove p h).2 rfl
    have htp : t p = kept previous current p := by rw [ht p, if_pos List.mem_cons_self]
    have hmem' : ∀ q ∈ rest, ∃ new, current.get? q = some new :=
      fun q hq => hmem q (List.mem_cons_of_mem _ hq)
    rw [List.filterMap_cons, hnew, Option.bind_some, addition?_eq]
    by_cases hsame : previous.tree p = some new.kind
    · -- the path keeps its kind, so the tree stays, whether the file was edited or not
      have hkeep : t p = current.tree p := by
        rw [htp, kept_of_eq (by rw [hsame, tree_eq_some hnew])]
      have hrun := ih hrest hmem' (t := t) fun q => by
        by_cases hq : q = p
        · subst hq
          rw [if_neg hnot, hkeep]
        · simpa [hq] using ht q
      rw [if_pos hsame]
      split
      · exact hrun
      · next o heq =>
        split at heq
        · next hedit =>
          cases heq
          refine .cons (.change ?_) hrun
          rw [hkeep, tree_eq_some hnew, kind_of_isEdited hedit]
        · cases heq
    · rw [if_neg hsame]
      have hfree : t p = none := by
        rw [htp, kept_of_ne]
        rw [tree_eq_some hnew]
        exact hsame
      have hholds : t.Holds p := by
        -- the directory comes before the path, so it was made already
        intro dir hdir
        obtain ⟨hle, hne⟩ := le_of_holder hdir
        have hearlier : dir ∉ p :: rest := by
          intro hmem
          rcases List.mem_cons.mp hmem with rfl | hmem
          · exact hne rfl
          · exact hne (Text.le_antisymm hle (habove dir hmem).1)
        rw [ht dir, if_neg hearlier]
        exact hc p new hnew dir hdir
      refine .cons (Tree.Step.addition new.kind hfree hholds) (ih hrest hmem' fun q => ?_)
      by_cases hq : q = p
      · subst hq
        rw [Function.update_self, if_neg hnot, tree_eq_some hnew]
      · rw [Function.update_of_ne hq]
        simpa [hq] using ht q

/-- The additions turn the paths that keep their kind into the current tree. -/
theorem run_additions (hc : current.Rooted) :
    Tree.Run (kept previous current) (additions previous current) current.tree := by
  refine run_additions_from hc (ascending_sortedPaths current) (fun p hp => ?_) fun p => ?_
  · exact mem_sortedPaths.mp hp
  · split
    · rfl
    · next hp =>
      cases hget : current.get? p with
      | none =>
        rw [tree_eq_none hget]
        unfold kept
        split
        · next heq => rw [heq, tree_eq_none hget]
        · rfl
      | some new => exact absurd (mem_sortedPaths.mpr ⟨new, hget⟩) hp

/-- The patch between two rooted snapshots meets every precondition and turns the tree of the
    one into the tree of the other. -/
theorem run_patch (hc : current.Rooted) :
    Tree.Run previous.tree (previous.patch current) current.tree :=
  (run_removals hc).append (run_additions hc)

/-! ## The paths of a patch -/

/-- A patch has an operation on a path exactly when the path differs. -/
theorem exists_mem_patch_iff {p : Text} :
    (∃ op, (op, p) ∈ previous.patch current) ↔
      ¬ Status.Agree (previous.get? p) (current.get? p) := by
  have hsplit : (∃ op, (op, p) ∈ previous.patch current) ↔
      (∃ op, (op, p) ∈ removals previous current) ∨
        ∃ op, (op, p) ∈ additions previous current := by
    simp only [patch, List.mem_append, exists_or]
  rw [hsplit]
  simp only [mem_removals_iff, mem_additions_iff, tree]
  cases previous.get? p with
  | none =>
    cases current.get? p with
    | none => simp [Status.Agree]
    | some new => simp [Status.Agree]
  | some old =>
    cases current.get? p with
    | none => simp [Status.Agree]
    | some new =>
      cases old <;> cases new <;>
        simp [Status.Agree, Status.kind, Status.isEdited, imp_iff_not_or]

/-- A patch is empty exactly when the snapshots agree on every path. -/
theorem patch_eq_nil_iff :
    previous.patch current = [] ↔ ∀ p, Status.Agree (previous.get? p) (current.get? p) := by
  constructor
  · intro hnil p
    by_contra hdiffer
    obtain ⟨op, hmem⟩ := exists_mem_patch_iff.mpr hdiffer
    simp [hnil] at hmem
  · intro hagree
    apply List.eq_nil_iff_forall_not_mem.mpr
    rintro ⟨op, p⟩ hmem
    exact exists_mem_patch_iff.mp ⟨op, hmem⟩ (hagree p)

/-- The patch to a rooted snapshot, run on the tree of the snapshot that it starts from, meets
    every precondition and ends in the tree of the other.  It has an operation on a path
    exactly when the snapshots differ there, so it is empty exactly when they agree
    everywhere. -/
theorem patch_correct (hc : current.Rooted) :
    Tree.Run previous.tree (previous.patch current) current.tree ∧
    (∀ p, (∃ op, (op, p) ∈ previous.patch current) ↔
      ¬ Status.Agree (previous.get? p) (current.get? p)) ∧
    (previous.patch current = [] ↔
      ∀ p, Status.Agree (previous.get? p) (current.get? p)) :=
  ⟨run_patch hc, fun _ => exists_mem_patch_iff, patch_eq_nil_iff⟩

/-- A directory that becomes a file while a file becomes a directory. -/
def swapped : Snapshot × Snapshot :=
  (ofEntries [("a", .directory), ("a/x", .file 1 .zero), ("b", .file 1 .zero)],
   ofEntries [("a", .file 2 .zero), ("b", .directory), ("b/y", .file 1 .zero)])

theorem patch_correct_swapped :
    swapped.2.Rooted ∧ swapped.1.patch swapped.2 =
      ([(.unlink, "b"), (.unlink, "a/x"), (.rmdir, "a"),
        (.create, "a"), (.mkdir, "b"), (.create, "b/y")] : Patch) ∧
    Tree.Run swapped.1.tree (swapped.1.patch swapped.2) swapped.2.tree :=
  have h : swapped.2.Rooted := by decide +kernel
  ⟨h, by cbv, (patch_correct h).1⟩

end Snapshot

end ImportScan
