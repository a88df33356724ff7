import ImportScan.Proofs.Analyzer.Partition
import ImportScan.Proofs.Extract.Preorder
import ImportScan.Proofs.Extract.Rejection

/-! # Without dynamic imports

    Two walks look for dynamic imports: one that rejects them where they are switched off, and
    one that records them.  Both find the same calls, so where dynamic imports are switched off
    no record is dynamic, in any tree and after any requests.

    * `Cst.exists_dynamic_iff` : a tree gives a dynamic record exactly if the check finds a call.
    * `Backend.setup_eq`       : which parser is set up for concrete syntax trees.
    * `Static`                 : records that are not dynamic.
    * `no_dynamic_imports`     : a package that switches dynamic imports off has none.
-/

namespace ImportScan

/-- A record is not of a dynamic import. -/
def Import.Static (i : Import) : Prop := i.isDynamic = false

/-! ## Trees -/

/-- Where exactly the nodes of a kind give records of a kind, there is such a record exactly if
    there is such a node. -/
theorem Walk.Recorded.exists_iff {α : Type} {gives : α → Except Fault Import → Prop}
    {p : α → Prop} {q : Import → Prop} {ns : List α} {found : List (α × Import)}
    (hrecord : ∀ n i, gives n (.ok i) → (q i ↔ p n)) (hgives : ∀ n, p n → ∃ r, gives n r)
    (h : Recorded gives ns found) : (∃ e ∈ found, q e.2) ↔ ∃ n ∈ ns, p n := by
  induction h with
  | nil => simp
  | @record n i ns found hn _ ih => simp only [List.exists_mem_cons_iff, ih, hrecord n i hn]
  | @pass n ns found hn _ ih =>
    have hnot : ¬ p n := fun hp => (hgives n hp).elim hn
    simp only [List.exists_mem_cons_iff, ih, hnot, false_or]

namespace Cst

variable {o : Origin} {bytes : Bytes} {root : Node}

/-- Of the constructs, the calls that a check for dynamic imports finds have dynamic records. -/
theorem Construct.isDynamic_iff {names : List Text} {n : Node} {i : Import}
    (h : Construct o bytes names n (.ok i)) : i.isDynamic = true ↔ n.isDynamicImport = true := by
  -- the record is that of a target, so what kind it is does not depend on the target
  have hkind : ∀ {α : Type} (target : α → Target) {x : Except Fault α} {isDynamic : Bool},
      Except.ok i = x.map (fun t => o.record isDynamic (target t)) → i.isDynamic = isDynamic := by
    intro α target x isDynamic hi
    cases x with
    | error f => cases hi
    | ok t =>
      cases hi
      rfl
  rw [isDynamicImport_iff]
  generalize hr : Except.ok i = r at h
  cases h with
  | declaration hnode => simp [hkind (fun t => .literal (.text t)) hr, hnode]
  | reexport hnode => simp [hkind (fun t => .literal (.text t)) hr, hnode]
  | dynamic hnode hcallee hword => simp [hkind id hr, hnode, hcallee, hword]
  | buildTime hnode hcallee hword => simp [hkind id hr, hnode, hcallee, hword]
  | unreadable => cases hr

/-- A tree gives a dynamic record exactly if the check for dynamic imports finds one. -/
theorem exists_dynamic_iff {found : List Import} (h : extract o bytes root = .ok found) :
    (∃ i ∈ found, i.isDynamic = true) ↔ ∃ n ∈ root.preorder, n.isDynamicImport = true := by
  rw [extract_eq_collect] at h
  obtain ⟨names, recorded, -, hrecorded, rfl⟩ := (Walk.scan_eq_ok_iff construct_iff).mp h
  have hconstruct : ∀ n, n.isDynamicImport = true → ∃ r, Construct o bytes names n r := by
    intro n hn
    obtain ⟨hkind, callee, hcallee, hword⟩ := isDynamicImport_iff.mp hn
    exact ⟨_, .dynamic hkind hcallee hword⟩
  have hiff := hrecorded.exists_iff (fun n i hn => hn.isDynamic_iff) hconstruct
  constructor
  · rintro ⟨i, hi, hdynamic⟩
    obtain ⟨e, he, rfl⟩ := List.mem_map.mp hi
    exact hiff.mp ⟨e, he, hdynamic⟩
  · intro hcall
    obtain ⟨e, he, hdynamic⟩ := hiff.mpr hcall
    exact ⟨e.2, List.mem_map_of_mem he, hdynamic⟩

end Cst

/-! ## Parsers -/

namespace Backend

variable {b : Backend} {o : Origin}

/-- The parser for concrete syntax trees has the options of the package over the defaults. -/
theorem setup_eq {p : Package} {options : Options} (hparser : p.parser = .treeSitter)
    (hmerge : Options.merge p = .ok options) (h : (setup p).1 = .ok b) :
    b.kind = .treeSitter ∧ b.options = options := by
  unfold setup at h
  simp only [hmerge, hparser] at h
  split at h
  · cases h
  · next g _ =>
    cases h
    unfold load
    split
    · exact ⟨rfl, rfl⟩
    · exact ⟨rfl, rfl⟩

/-- Where dynamic imports are switched off, a tree that is not rejected has no dynamic record. -/
theorem treeImports_static {bytes : Bytes} {root : Cst.Node} {found : List Import}
    (hoff : b.options.dynamicImport = false) (h : b.treeImports o bytes root = .ok found) :
    ∀ i ∈ found, i.Static := by
  obtain ⟨_, haccept, hextract⟩ := bind_eq_ok.mp h
  obtain ⟨rfl, -, hon⟩ := accept_eq_ok_iff.mp haccept
  intro i hi
  rw [Import.Static, Bool.eq_false_iff]
  intro hdynamic
  obtain ⟨n, hn, hcall⟩ := (Cst.exists_dynamic_iff hextract).mp ⟨i, hi, hdynamic⟩
  obtain ⟨hkind, callee, hcallee, hword⟩ := Cst.isDynamicImport_iff.mp hcall
  exact hon n hn _ (.dynamicImport hoff hkind hcallee hword)

theorem records_static [Parsers] {source : Text} {found : List Import}
    (hkind : b.kind = .treeSitter)
    (hoff : b.options.dynamicImport = false) (h : b.records o source = .ok found) :
    ∀ i ∈ found, i.Static := by
  unfold records at h
  split at h
  · next imports hread =>
    cases h
    cases hbytes : source.utf8? with
    | none => simp [read, hkind, hbytes] at hread
    | some bytes =>
      rw [read_eq hkind hbytes] at hread
      exact treeImports_static hoff hread
  · cases h
    simp
  · cases h

end Backend

/-! ## Analyzers -/

/-- Where dynamic imports are switched off, an analyzer finds no dynamic record. -/
theorem Analyzer.finds_static [Parsers] {a : Analyzer} {options : Options} (hnew : a.backend = none)
    (hparser : a.package.parser = .treeSitter) (hmerge : Options.merge a.package = .ok options)
    (hoff : options.dynamicImport = false) : a.Finds fun _ i => i.Static := by
  intro path source found h
  unfold Analyzer.records Analyzer.parser at h
  rw [hnew] at h
  cases hsetup : (Backend.setup a.package).1 with
  | error e => simp [hsetup, Except.map] at h
  | ok b =>
    simp only [hsetup, Except.map, Backend.records_unloaded] at h
    obtain ⟨hkind, rfl⟩ := Backend.setup_eq hparser hmerge hsetup
    exact Backend.records_static hkind hoff h

namespace Act

variable {a : Analyzer} {s : Session} {P : Text → Import → Prop}

/-- What holds of all records that an analyzer finds holds of those that it gives for a source. -/
theorem Reached.parse [Parsers] (hfinds : a.Finds P) (hs : Reached a s) {path source : Text}
    {found : List Import} (h : (exec (parse path source) s).1 = .ok found) :
    ∀ i ∈ found, P path i := by
  have houtcome : (exec (Act.parse path source) s).1 = s.analyzer.records path source :=
    congrArg Prod.fst (does_parse path source s).outcome
  rw [houtcome] at h
  exact hfinds.congr hs.same.toAlike path source found h

/-- And it holds of all records that it gives in one list. -/
theorem Reached.imports [Parsers] (hfinds : a.Finds P) (hnew : a.forget = a) (hs : Reached a s) :
    ∃ found, (exec imports s).1 = .ok found ∧ ∀ i ∈ found, ∃ p, P p i := by
  refine ⟨_, (hs.filed hnew).imports, fun i hi => ?_⟩
  rw [Store.imports_eq_flatMap_paths] at hi
  obtain ⟨p, -, hi⟩ := List.mem_flatMap.mp hi
  cases hget : s.analyzer.store.get? p with
  | none => simp [hget] at hi
  | some records =>
    rw [hget, Option.getD_some] at hi
    exact ⟨p, hs.holds hfinds hnew p records hget i hi⟩

/-- A package with the parser for concrete syntax trees whose options switch dynamic imports off,
    whatever else they say: no tree that is read has a dynamic record, unless the tree is
    rejected or fails; and in every session that comes about, neither the records of a source
    nor the list of all records has one. -/
theorem no_dynamic_imports [Parsers] {package : Package} {options : Options}
    (hparser : package.parser = .treeSitter) (hmerge : Options.merge package = .ok options)
    (hoff : options.dynamicImport = false) :
    (∀ b, (Backend.setup package).1 = .ok b → ∀ o bytes root found,
      b.treeImports o bytes root = .ok found → ∀ i ∈ found, i.Static) ∧
    ∀ cwd input output a, Analyzer.make cwd package input output = .ok a → ∀ s, Reached a s →
      (∀ path source found, (exec (parse path source) s).1 = .ok found →
        ∀ i ∈ found, i.Static) ∧
      ∃ found, (exec imports s).1 = .ok found ∧ ∀ i ∈ found, i.Static := by
  constructor
  · intro b hsetup o bytes root found hfound
    obtain ⟨-, rfl⟩ := Backend.setup_eq hparser hmerge hsetup
    exact Backend.treeImports_static hoff hfound
  · intro cwd input output a hmake s hs
    have hnew := make_new hmake
    have hpackage : a.package = package := by rw [eq_of_make hmake]
    have hbackend : a.backend = none := by rw [eq_of_make hmake]
    have hfinds := Analyzer.finds_static hbackend (hpackage ▸ hparser) (hpackage ▸ hmerge) hoff
    obtain ⟨found, hexec, hfound⟩ := hs.imports hfinds hnew
    exact ⟨fun path source found => hs.parse hfinds, found, hexec,
      fun i hi => (hfound i hi).elim fun _ h => h⟩

/-- An analyzer whose package switches dynamic imports off, and a file with one inside a call. -/
def quiet : Analyzer × Disk :=
  ({ package :=
      { name := .str "app", root := "/r", extensions := ["js"], parser := .treeSitter
        options := .map [(.str "dynamic_import", .null)], version := .int 4, treeType := none }
     input := "/r", output := none },
   ⟨[(["r"], .directory),
     (["r", "a.js"], .file (Text.ofString "import 'x'; f(import('y'));").utf8 .zero)]⟩)

/-- The file is built, and a source without dynamic imports is handed in. -/
def hushed : Session :=
  let built := (exec (Request.act .build) ⟨quiet.1, quiet.2, [], []⟩).2
  (exec (Request.act (.update "b.js" "import 'u'; export \x7b v \x7d from 'w';")) built).2

theorem no_dynamic_imports_hushed :
    hushed.analyzer.store.paths = (["a.js", "b.js"] : List Text) ∧
    (∀ path source found, (exec (parse path source) hushed).1 = .ok found →
      ∀ i ∈ found, i.Static) ∧
    ∃ found, (exec imports hushed).1 = .ok found ∧ found.length = 2 ∧ ∀ i ∈ found, i.Static := by
  have hmake : Analyzer.make "/" quiet.1.package none none = .ok quiet.1 := rfl
  have hreached : Reached quiet.1 hushed := .request _ (.request _ (.start quiet.2))
  have hmerge : Options.merge quiet.1.package =
      .ok [(.str "dynamic_import", .null), (.str "decorators", .bool true)] := rfl
  have hparser : quiet.1.package.parser = .treeSitter := rfl
  obtain ⟨-, hsessions⟩ := no_dynamic_imports hparser hmerge rfl
  obtain ⟨hparse, found, hfound, hstatic⟩ := hsessions _ _ _ _ hmake hushed hreached
  have hcount : (exec imports hushed).1.toOption.map List.length = some 2 := by decide +kernel
  rw [hfound] at hcount
  exact ⟨by decide +kernel, hparse, found, hfound, Option.some.inj hcount, hstatic⟩

end Act

end ImportScan
