import Mathlib.Data.List.TakeWhile
import ImportScan.CommandLine.Run
import ImportScan.Proofs.Config.Kinds
import ImportScan.Proofs.Text.Ascii

/-! # How a scan ends

    Every fault of a scan is told with status 1, except those that come up before there is a
    configuration to work with and those that come up when the imports are printed: they escape.

    * `CommandLine.Unstarted` : the faults that escape before there is a configuration.
    * `CommandLine.Refused`   : the faults that escape when the imports are printed.
    * `CommandLine.Scanned`   : how a scan ends that has a configuration.
    * `CommandLine.run_scan`  : how a scan ends.
-/

namespace ImportScan.CommandLine

variable {h : Host} {d : Disk} {a : Arguments} {c c' : Config} {lines : List LogLine}

/-! ## The configuration of a command -/

/-- The value that an argument has as an override. -/
def given (t : Option Text) : Datum := (t.map Datum.text).getD .null

/-- The overrides that the arguments stand for. -/
def overridesOf (a : Arguments) : List (Text × Datum) :=
  [(Setting.parser, a.parser), (.extensions, a.ext), (.treeType, a.treeType),
   (.outputDir, a.output)].map fun o => (o.1.key, given o.2)

theorem given_cases (t : Option Text) : given t = .null ∨ ∃ u, given t = .text u := by
  cases t with
  | none => exact .inl rfl
  | some u => exact .inr ⟨u, rfl⟩

/-- Every argument overrides a setting that is no number. -/
theorem mem_overridesOf {o : Text × Datum} (ho : o ∈ overridesOf a) :
    ∃ (s : Setting) (t : Option Text), o = (s.key, given t) ∧ s ≠ .version ∧ s ≠ .debounce := by
  obtain ⟨⟨s, t⟩, hmem, rfl⟩ := List.mem_map.mp ho
  refine ⟨s, t, rfl, ?_, ?_⟩
  · rintro rfl
    simp at hmem
  · rintro rfl
    simp at hmem

theorem accepted_overridesOf (a : Arguments) : Config.Accepted (overridesOf a) where
  known := by
    intro o ho
    obtain ⟨s, t, rfl, -⟩ := mem_overridesOf ho
    exact ⟨.setting s, s.upper_key⟩
  extensions := by
    intro o ho _
    obtain ⟨s, t, rfl, -⟩ := mem_overridesOf ho
    exact (given_cases t).imp_right .inl

/-- Arguments leave a configuration usable. -/
theorem override_overridesOf (hc : c.Usable) (a : Arguments) :
    ∃ c', c.override (overridesOf a) = (c', none) ∧ c'.Usable := by
  refine Config.override_usable hc (accepted_overridesOf a) (fun o ho => ?_) (fun o ho => ?_)
  · obtain ⟨s, t, rfl, -⟩ := mem_overridesOf ho
    exact given_cases t
  · obtain ⟨s, t, rfl, hversion, hdebounce⟩ := mem_overridesOf ho
    have hkey := s.upper_key
    refine ⟨fun heq => ?_, fun heq => ?_, fun heq => ?_⟩
    · exact hversion (Setting.capitals_injective (hkey.symm.trans heq))
    · exact hdebounce (Setting.capitals_injective (hkey.symm.trans heq))
    · have hnames : Config.Target.setting s = .options := Config.target_unique hkey heq
      cases hnames

theorem configure_of_load [Platform] (hload : Config.load h d a.config = (.ok c, lines))
    (hoverride : c.override (overridesOf a) = (c', none)) : configure h d a = (.ok c', lines) := by
  simp only [overridesOf, given, List.map_cons, List.map_nil, Setting.key] at hoverride
  simp only [configure, hload, hoverride]

/-! ## The analyzer of a command -/

/-- The faults that are told as those of a configuration. -/
abbrev Invalid (f : Fault) : Prop := isInvalid f = true

theorem checkParser_invalid {s : Package.Settings} (hs : ∃ t, s.parser = .text t) :
    FailsOnly Invalid (Package.checkParser s) := by
  obtain ⟨t, ht⟩ := hs
  rw [Package.checkParser, ht]
  simp only [Datum.isScalar, Bool.not_true, Bool.false_eq_true, if_false]
  split
  · exact .ok _
  · exact .error rfl

theorem checkTreeType_invalid {value : Datum} (hvalue : value = .null ∨ ∃ t, value = .text t) :
    FailsOnly Invalid (Package.checkTreeType value) := by
  rcases hvalue with rfl | ⟨t, rfl⟩
  · exact .ok none
  · rw [Package.checkTreeType]
    split
    · exact .ok _
    · exact .error rfl

theorem package_invalid (hc : c.Usable) (cwd root : Text) :
    FailsOnly Invalid (c.package cwd root) := by
  obtain ⟨es, hoptions⟩ := hc.options
  obtain ⟨ts, hextensions⟩ : ∃ ts : List Text, c.get .extensions = .list (ts.map .text) :=
    hc.kind .extensions
  rw [Config.package, hoptions]
  refine (FailsOnly.ok _).bind fun options _ => ?_
  refine FailsOnly.bind (checkParser_invalid ?_) fun parser _ => ?_
  · exact hc.kind .parser
  refine FailsOnly.bind (checkTreeType_invalid ?_) fun treeType _ => ?_
  · exact hc.kind .treeType
  refine FailsOnly.bind ?_ fun extensions _ => .ok _
  rw [hextensions, Package.checkExtensions_texts]
  exact .ok _

/-- A usable configuration that gives no analyzer is told as invalid. -/
theorem analyzerOf_invalid (hc : c.Usable) (root : Text) :
    FailsOnly Invalid (analyzerOf h c root) := by
  refine (package_invalid hc h.cwd root).bind fun package _ => ?_
  rw [Analyzer.make]
  split
  · exact .ok _
  · split
    · exact .error rfl
    · exact .ok _

/-! ## Printing -/

theorem ascii_summary (stats : Stats) : (summary stats).Ascii := by
  have hline : ∀ (label : String) (n : Nat), (Text.ofString label).Ascii →
      (line [Text.ofString label, Text.ofNat n]).Ascii := by
    intro label n hlabel
    simp only [line, Text.concat, List.flatten_cons, List.flatten_nil, List.append_nil]
    exact (hlabel.append (Text.ascii_ofNat n)).append (by decide)
  unfold summary
  refine .append (.append (.append (.append (by decide) ?_) ?_) ?_) (by decide)
  · exact hline _ _ (by decide)
  · exact hline _ _ (by decide)
  · exact hline _ _ (by decide)

theorem ascii_heading (n : Nat) : (Import.heading n).Ascii := by
  simp only [Import.heading, Text.concat, List.flatten_cons, List.flatten_nil, List.append_nil]
  exact .append (by decide) ((Text.ascii_ofNat n).append (by decide))

section

variable [Platform] {imports : List Import} {i : Import} {json : Bool} {t : Text} {f : Fault}
  {s : Session} {stats : Stats}

/-- Why a record cannot be printed in a listing. -/
inductive Refuses (i : Import) : Fault → Prop where
  | undescribed {f : Fault} (h : i.undescribed? = some f) : Refuses i f
  | unprintable {c : CodePoint} (hdescribed : i.undescribed? = none) (hc : c ∈ i.describe)
      (h : Platform.prints c = false) : Refuses i .unencodable

/-- Why records cannot be printed.  A document has a fault only if a number has too many digits;
    in a listing the first record counts that cannot be printed. -/
inductive Refused (imports : List Import) : Bool → Fault → Prop where
  | document (h : (Datum.list (imports.map Import.datum)).isOverlong = true) :
      Refused imports true .unspelledInteger
  | entry {before after : List Import} {i : Import} {f : Fault}
      (himports : imports = before ++ i :: after) (hbefore : ∀ j ∈ before, ∀ g, ¬ Refuses j g)
      (h : Refuses i f) : Refused imports false f

theorem refusal?_ascii (h : t.Ascii) : refusal? (.ok t) = none :=
  if_pos (List.all_eq_true.mpr fun c hc => Platform.prints_ascii (h c hc))

/-- The line of a record is refused for the sake of the record. -/
theorem refusal?_entry : refusal? i.entry = some f ↔ Refuses i f := by
  unfold Import.entry
  cases hi : i.undescribed? with
  | some g =>
    constructor
    · rintro ⟨⟩
      exact .undescribed hi
    · intro h
      cases h with
      | undescribed h => exact hi.symm.trans h
      | unprintable hnone => cases hi.symm.trans hnone
  | none =>
    rw [refusal?]
    split
    · next hall =>
      refine ⟨nofun, fun h => ?_⟩
      cases h with
      | undescribed h => cases hi.symm.trans h
      | unprintable _ hc hno => cases hno.symm.trans (List.all_eq_true.mp hall _ hc)
    · next hsome =>
      constructor
      · rintro ⟨⟩
        obtain ⟨c, hc, hno⟩ := List.all_eq_false.mp (Bool.not_eq_true _ ▸ hsome)
        exact .unprintable hi hc (by simpa using hno)
      · intro h
        cases h with
        | undescribed h => cases hi.symm.trans h
        | unprintable => rfl

theorem refusal?_entry_eq_none : refusal? i.entry = none ↔ ∀ f, ¬ Refuses i f := by
  simp only [← refusal?_entry, Option.eq_none_iff_forall_ne_some]

/-- A listing is refused as its records are: what else is printed is in ASCII. -/
theorem findSome?_listing (imports : List Import) (stats : Stats) :
    (Import.calls imports false ++ [Except.ok (summary stats)]).findSome? refusal?
      = imports.findSome? fun i => refusal? i.entry := by
  have hsummary := refusal?_ascii (ascii_summary stats)
  cases imports with
  | nil =>
    have hnothing : refusal? (.ok Import.nothingFound) = none := refusal?_ascii (by decide)
    simp [Import.calls, hnothing, hsummary]
  | cons i rest =>
    have hheading := refusal?_ascii (ascii_heading (i :: rest).length)
    have hrule : refusal? (.ok (List.replicate 60 (CodePoint.ofChar '-'))) = none :=
      refusal?_ascii (.replicate (by decide) 60)
    have hcalls : Import.calls (i :: rest) false
        = .ok (Import.heading (i :: rest).length) :: .ok (List.replicate 60 (CodePoint.ofChar '-'))
          :: (i :: rest).map Import.entry := rfl
    rw [hcalls, List.cons_append, List.cons_append, List.findSome?_cons, hheading,
      List.findSome?_cons, hrule, List.findSome?_append, List.findSome?_map,
      List.findSome?_singleton, hsummary, Option.or_none]
    rfl

/-- A document is in ASCII, so it is refused only if it cannot be made. -/
theorem findSome?_document (imports : List Import) :
    (Import.calls imports true).findSome? refusal?
      = if (Datum.list (imports.map Import.datum)).isOverlong then some .unspelledInteger
        else none := by
  rw [Import.calls, if_pos rfl, List.findSome?_singleton]
  split
  · rfl
  · exact refusal?_ascii (Datum.ascii_json _)

/-- What a scan prints is refused as its records are. -/
theorem findSome?_calls (stats : Stats) :
    (Import.calls imports json ++ if json then [] else [Except.ok (summary stats)]).findSome?
      refusal? = some f ↔ Refused imports json f := by
  cases json with
  | true =>
    rw [if_pos rfl, List.append_nil, findSome?_document]
    split
    · next hoverlong =>
      constructor
      · rintro ⟨⟩
        exact .document hoverlong
      · rintro ⟨⟩
        rfl
    · next hshort =>
      refine ⟨nofun, fun h => ?_⟩
      cases h with
      | document hoverlong => exact absurd hoverlong hshort
  | false =>
    rw [if_neg Bool.false_ne_true, findSome?_listing, List.findSome?_eq_some_iff]
    constructor
    · rintro ⟨before, i, after, himports, hi, hbefore⟩
      exact .entry himports (fun j hj => refusal?_entry_eq_none.mp (hbefore j hj))
        (refusal?_entry.mp hi)
    · rintro ⟨⟩
      case entry before after i himports hbefore hi =>
        exact ⟨before, i, after, himports, refusal?_entry.mpr hi,
          fun j hj => refusal?_entry_eq_none.mpr (hbefore j hj)⟩

theorem findSome?_scanCalls : (scanCalls s stats json).findSome? refusal? = some f
    ↔ Refused (s.analyzer.view.get s.analyzer.store) json f := findSome?_calls stats

/-- There is one reason. -/
theorem Refused.unique {g : Fault} (hf : Refused imports json f) (hg : Refused imports json g) :
    f = g := by
  have hfirst := (findSome?_calls ⟨0, 0, 0, 0⟩).mpr hf
  exact Option.some.inj (hfirst.symm.trans ((findSome?_calls ⟨0, 0, 0, 0⟩).mpr hg))

theorem printAll_eq (calls : List (Except Fault Text)) :
    printAll calls
      = ((calls.takeWhile fun call => (refusal? call).isNone).flatMap Import.shownCall,
          calls.findSome? refusal?) := by
  induction calls with
  | nil => rfl
  | cons call rest ih =>
    cases hcall : refusal? call with
    | some cause => simp [printAll, hcall]
    | none => simp [printAll, hcall, ih]

end

/-! ## Outcomes -/

/-- The faults that escape before there is a configuration: it cannot be loaded, or it names a
    level that is none. -/
inductive Unstarted [Platform] (h : Host) (d : Disk) (a : Arguments) (f : Fault) : Prop where
  | unloaded (hload : (Config.load h d a.config).1 = .error f)
  | refused {c : Config} (hload : (Config.load h d a.config).1 = .ok c)
      (hlevel : threshold (c.get .logLevel).display = .error f)

/-- How a scan ends that has a configuration.  A directory that is missing, a configuration that
    is no good, and a build that fails are told in the last line, with status 1 and nothing
    printed; the disk is left alone unless a build began.  Otherwise the imports are printed,
    unless one of them cannot be. -/
inductive Scanned [Parsers] [Platform] (h : Host) (d : Disk) (c : Config) (a : Arguments)
    (o : Outcome) : Prop where
  | missing {reported : Text} (hroot : d.isDirectory (Path.absolute h.cwd a.root) = false)
      (hexit : o.exit = .status 1) (hout : o.out = [])
      (herr : o.err = reported ++ line ["Not a directory: ", Path.absolute h.cwd a.root])
      (hdisk : o.disk = d)
  | invalid {reported : Text} {f : Fault}
      (hroot : d.isDirectory (Path.absolute h.cwd a.root) = true)
      (hanalyzer : analyzerOf h c (Path.absolute h.cwd a.root) = .error f)
      (hexit : o.exit = .status 1) (hout : o.out = [])
      (herr : o.err = reported ++ line ["Invalid configuration: ", f.message])
      (hdisk : o.disk = d)
  | failed {reported : Text} {f : Fault} {analyzer : Analyzer} {s : Session}
      (hroot : d.isDirectory (Path.absolute h.cwd a.root) = true)
      (hanalyzer : analyzerOf h c (Path.absolute h.cwd a.root) = .ok analyzer)
      (hbuild : Act.build { analyzer, disk := d } = (.error f, s))
      (hexit : o.exit = .status 1) (hout : o.out = [])
      (herr : o.err = reported ++ line ["Build failed: ", f.message])
  | printed {analyzer : Analyzer} {s : Session} {stats : Stats}
      (hroot : d.isDirectory (Path.absolute h.cwd a.root) = true)
      (hanalyzer : analyzerOf h c (Path.absolute h.cwd a.root) = .ok analyzer)
      (hbuild : Act.build { analyzer, disk := d } = (.ok stats, s))
      (hprinted : ∀ f, ¬ Refused (s.analyzer.view.get s.analyzer.store) a.json f)
      (hexit : o.exit = .status 0)
      (hout : o.out = (scanCalls s stats a.json).flatMap Import.shownCall)
  | refused {analyzer : Analyzer} {s : Session} {stats : Stats} {f : Fault}
      (hroot : d.isDirectory (Path.absolute h.cwd a.root) = true)
      (hanalyzer : analyzerOf h c (Path.absolute h.cwd a.root) = .ok analyzer)
      (hbuild : Act.build { analyzer, disk := d } = (.ok stats, s))
      (hrefused : Refused (s.analyzer.view.get s.analyzer.store) a.json f)
      (hexit : o.exit = .fault f)
      (hout : ∃ before after, scanCalls s stats a.json = before ++ after
        ∧ o.out = before.flatMap Import.shownCall)

section

variable [Parsers] [Platform] {writes : Nat} {signals : List Signal} {argv : List Text} {f : Fault}
  {o : Outcome}

/-- The faults that escape when the imports are printed: the build has gone well. -/
def Unprinted (h : Host) (d : Disk) (c : Config) (a : Arguments) (f : Fault) : Prop :=
  ∃ analyzer stats s, d.isDirectory (Path.absolute h.cwd a.root) = true
    ∧ analyzerOf h c (Path.absolute h.cwd a.root) = .ok analyzer
    ∧ Act.build { analyzer, disk := d } = (.ok stats, s)
    ∧ Refused (s.analyzer.view.get s.analyzer.store) a.json f

/-- A fault escapes exactly if the imports cannot be printed for it. -/
theorem Scanned.exit_eq_fault_iff (hscanned : Scanned h d c a o) :
    o.exit = .fault f ↔ Unprinted h d c a f := by
  constructor
  · intro hexit
    cases hscanned with
    | missing _ hstatus => cases hstatus.symm.trans hexit
    | invalid _ _ hstatus => cases hstatus.symm.trans hexit
    | failed _ _ _ hstatus => cases hstatus.symm.trans hexit
    | printed _ _ _ _ hstatus => cases hstatus.symm.trans hexit
    | refused hroot hanalyzer hbuild hrefused hfault =>
      cases hfault.symm.trans hexit
      exact ⟨_, _, _, hroot, hanalyzer, hbuild, hrefused⟩
  · rintro ⟨analyzer, stats, s, hroot, hanalyzer, hbuild, hrefused⟩
    -- the build is the one of the scan
    cases hscanned with
    | missing habsent => cases habsent.symm.trans hroot
    | invalid _ hinvalid => cases hinvalid.symm.trans hanalyzer
    | failed _ hanalyzer' hfailed =>
      cases hanalyzer'.symm.trans hanalyzer
      cases hfailed.symm.trans hbuild
    | printed _ hanalyzer' hbuild' hprinted =>
      cases hanalyzer'.symm.trans hanalyzer
      cases hbuild'.symm.trans hbuild
      exact absurd hrefused (hprinted f)
    | refused _ hanalyzer' hbuild' hrefused' hexit =>
      cases hanalyzer'.symm.trans hanalyzer
      cases hbuild'.symm.trans hbuild
      rw [hexit, hrefused'.unique hrefused]

theorem work_scanned {least : Nat} {err : Text} {analyzer : Analyzer}
    (ha : a.command = .scan) (hroot : d.isDirectory (Path.absolute h.cwd a.root) = true)
    (hanalyzer : analyzerOf h c (Path.absolute h.cwd a.root) = .ok analyzer) :
    Scanned h d c a (work h d c a analyzer writes signals least err) := by
  unfold work
  match hbuild : Act.build { analyzer, disk := d } with
  | (.error f, s) => exact .failed hroot hanalyzer hbuild rfl rfl rfl
  | (.ok stats, s) =>
    simp only [ha, printAll_eq]
    cases hrefused : (scanCalls s stats a.json).findSome? refusal? with
    | none =>
      refine .printed hroot hanalyzer hbuild (fun f hf => ?_) rfl ?_
      · cases hrefused.symm.trans (findSome?_scanCalls.mpr hf)
      · -- no call is refused, so none is left out
        rw [List.takeWhile_eq_self_iff.mpr]
        intro call hcall
        rw [List.findSome?_eq_none_iff.mp hrefused call hcall]
        rfl
    | some f =>
      exact .refused hroot hanalyzer hbuild (findSome?_scanCalls.mp hrefused) rfl
        ⟨_, _, (List.takeWhile_append_dropWhile ..).symm, rfl⟩

theorem perform_scanned {least : Nat} {early : Text} (ha : a.command = .scan)
    (hc : c.Usable) (hconfigure : configure h d a = (.ok c, lines)) :
    Scanned h d c a (perform h d a writes signals least early) := by
  unfold perform
  simp only [hconfigure]
  cases hroot : d.isDirectory (Path.absolute h.cwd a.root) with
  | false => exact .missing hroot rfl rfl rfl rfl
  | true =>
    cases hanalyzer : analyzerOf h c (Path.absolute h.cwd a.root) with
    | error f =>
      have hinvalid : isInvalid f = true := analyzerOf_invalid hc _ f hanalyzer
      simp only [Bool.not_true, Bool.false_eq_true, if_false, hinvalid, if_true]
      exact .invalid hroot hanalyzer rfl rfl rfl rfl
    | ok analyzer => exact work_scanned ha hroot hanalyzer

/-! ## Runs -/

/-- Without a configuration there is no run. -/
theorem run_unloaded (hparse : Arguments.parse argv = .ok a)
    (hload : (Config.load h d a.config).1 = .error f) :
    run h d writes signals argv
      = { exit := .fault f, err := earlyLog (Config.load h d a.config).2, disk := d } := by
  obtain ⟨lines, hlines⟩ : ∃ lines, Config.load h d a.config = (.error f, lines) :=
    ⟨_, Prod.ext hload rfl⟩
  simp only [run, hparse, hlines]

theorem run_refused (hparse : Arguments.parse argv = .ok a)
    (hload : (Config.load h d a.config).1 = .ok c)
    (hlevel : threshold (c.get .logLevel).display = .error f) :
    run h d writes signals argv
      = { exit := .fault f, err := earlyLog (Config.load h d a.config).2, disk := d } := by
  obtain ⟨lines, hlines⟩ : ∃ lines, Config.load h d a.config = (.ok c, lines) :=
    ⟨_, Prod.ext hload rfl⟩
  simp only [run, hparse, hlines, hlevel]

/-- A scan that has a configuration is carried out with it. -/
theorem run_scanned (writes : Nat) (signals : List Signal) {least : Nat}
    (hparse : Arguments.parse argv = .ok a) (ha : a.command = .scan)
    (hload : (Config.load h d a.config).1 = .ok c) (hlevel : threshold (c.get .logLevel).display = .ok least) :
    ∃ c', c.override (overridesOf a) = (c', none)
      ∧ Scanned h d c' a (run h d writes signals argv) := by
  obtain ⟨lines, hlines⟩ : ∃ lines, Config.load h d a.config = (.ok c, lines) :=
    ⟨_, Prod.ext hload rfl⟩
  obtain ⟨c', hoverride, hc'⟩ := override_overridesOf (Config.load_usable hload) a
  refine ⟨c', hoverride, ?_⟩
  simp only [run, hparse, hlines, hlevel]
  exact perform_scanned ha hc' (configure_of_load hlines hoverride)

end

/-- How a scan ends.  A fault escapes exactly if the configuration cannot be loaded or names a
    level that is none, or if the imports of a build that has gone well cannot be printed; no
    other fault escapes.  Help ends with status 0 and misuse with status 2.  Once there is a
    configuration, the arguments override it, and the scan prints the imports or ends with
    status 1 and a last line that tells what failed. -/
theorem run_scan [Parsers] [Platform] (h : Host) (d : Disk) (writes : Nat) (signals : List Signal)
    (argv : List Text) (hscan : ∀ a, Arguments.parse argv = .ok a → a.command = .scan) :
    (∀ f, (run h d writes signals argv).exit = .fault f ↔
        ∃ a, Arguments.parse argv = .ok a ∧ (Unstarted h d a f
          ∨ ∃ c c' least, (Config.load h d a.config).1 = .ok c
            ∧ threshold (c.get .logLevel).display = .ok least
            ∧ c.override (overridesOf a) = (c', none) ∧ Unprinted h d c' a f))
      ∧ (∀ command, Arguments.parse argv = .error (.help command) →
        run h d writes signals argv
          = { exit := .status 0, out := helpText command, disk := d })
      ∧ (∀ command message, Arguments.parse argv = .error (.misuse command message) →
        run h d writes signals argv
          = { exit := .status 2, err := line [Command.program command, ": error: ", message],
              disk := d })
      ∧ ∀ a c least, Arguments.parse argv = .ok a → (Config.load h d a.config).1 = .ok c →
        threshold (c.get .logLevel).display = .ok least →
        ∃ c', c.override (overridesOf a) = (c', none)
          ∧ Scanned h d c' a (run h d writes signals argv) := by
  refine ⟨fun f => ⟨fun hexit => ?_, ?_⟩, fun command hparse => ?_, fun command message hparse => ?_,
    fun a c least hparse => run_scanned writes signals hparse (hscan a hparse)⟩
  · cases hparse : Arguments.parse argv with
    | error r => cases r <;> simp [run, hparse] at hexit
    | ok a =>
      refine ⟨a, rfl, ?_⟩
      cases hload : (Config.load h d a.config).1 with
      | error g =>
        rw [run_unloaded hparse hload] at hexit
        cases hexit
        exact .inl (.unloaded hload)
      | ok c =>
        cases hlevel : threshold (c.get .logLevel).display with
        | error g =>
          rw [run_refused hparse hload hlevel] at hexit
          cases hexit
          exact .inl (.refused hload hlevel)
        | ok least =>
          -- what comes now is dealt with, unless it comes when the imports are printed
          obtain ⟨c', hoverride, hscanned⟩ :=
            run_scanned writes signals hparse (hscan a hparse) hload hlevel
          exact .inr ⟨c, c', least, rfl, hlevel, hoverride, hscanned.exit_eq_fault_iff.mp hexit⟩
  · rintro ⟨a, hparse, hunstarted | ⟨c, c', least, hload, hlevel, hoverride, hunprinted⟩⟩
    · cases hunstarted with
      | unloaded hload => rw [run_unloaded hparse hload]
      | refused hload hlevel => rw [run_refused hparse hload hlevel]
    · obtain ⟨c₁, hoverride₁, hscanned⟩ :=
        run_scanned writes signals hparse (hscan a hparse) hload hlevel
      obtain rfl : c₁ = c' := congrArg Prod.fst (hoverride₁.symm.trans hoverride)
      exact hscanned.exit_eq_fault_iff.mpr hunprinted
  · simp only [run, hparse]
  · simp only [run, hparse]

theorem run_scan_missing :
    Arguments.parse ["scan", "src"] = .ok { command := .scan, root := "src" }
      ∧ ∃ reported, (run ⟨"/w", []⟩ {} 0 [] ["scan", "src"]).exit = .status 1
        ∧ (run ⟨"/w", []⟩ {} 0 [] ["scan", "src"]).err
          = reported ++ line ["Not a directory: ", "/w/src"] := by
  have hparse : Arguments.parse ["scan", "src"] = .ok { command := .scan, root := "src" } := by
    rfl
  have hscan : ∀ a, Arguments.parse ["scan", "src"] = .ok a → a.command = .scan := by
    intro a ha
    cases hparse.symm.trans ha
    rfl
  -- nothing is configured, so every setting is its default
  have hload : (Config.load ⟨"/w", []⟩ {} none).1
      = .ok ⟨Setting.all.map fun s => (s, s.default), .map []⟩ := by rfl
  obtain ⟨c', -, hscanned⟩ := (run_scan ⟨"/w", []⟩ {} 0 [] ["scan", "src"] hscan).2.2.2 _ _ 30
    hparse hload rfl
  have habsent : Disk.isDirectory {} (Path.absolute "/w" "src") = false := by decide +kernel
  have hroot : Path.absolute "/w" "src" = "/w/src" := by decide +kernel
  refine ⟨hparse, ?_⟩
  cases hscanned with
  | @missing reported _ hexit _ herr => exact ⟨reported, hexit, hroot ▸ herr⟩
  | invalid hpresent => cases habsent.symm.trans hpresent
  | failed hpresent => cases habsent.symm.trans hpresent
  | printed hpresent => cases habsent.symm.trans hpresent
  | refused hpresent => cases habsent.symm.trans hpresent

/-- A version that is no number is not told: the fault escapes. -/
theorem run_scan_escapes :
    Arguments.parse ["scan", "src"] = .ok { command := .scan, root := "src" }
      ∧ (run ⟨"/w", [("IMPORT_ANALYZER_ESPRIMA_VERSION", "abc")]⟩
          ⟨[(["w"], .directory), (["w", "src"], .directory),
            (["w", "src", "a.js"], .file [] .zero)]⟩ 0 []
          ["scan", "src"]).exit = .fault (.notInteger 10 "abc") := by
  have hparse : Arguments.parse ["scan", "src"] = .ok { command := .scan, root := "src" } := by
    rfl
  have hread : Number.readInt? (Text.ofString "abc") = none := by decide +kernel
  have hshort : Number.overlong? (Text.ofString "abc") = none := by decide +kernel
  have hcast : Setting.version.cast (.str "abc") = .error (.notInteger 10 "abc") := by
    rw [Setting.cast, Datum.str, Setting.toInt, hread]
    simp only [Fault.unreadInteger, hshort]
  have hmake : Config.make [("IMPORT_ANALYZER_ESPRIMA_VERSION", "abc")] []
      = .error (.notInteger 10 "abc") := by
    refine Config.make_eq_error_iff.mpr
      ⟨[.name, .parser, .extensions], .version, _, rfl, ?_, hcast ▸ .ofVariable rfl⟩
    intro s hs
    refine ⟨s.default, .ofDefault ?_ rfl⟩
    revert s
    decide
  refine ⟨hparse, ?_⟩
  rw [run_unloaded hparse]
  exact hmake

/-- Whether a run ends because a text has no octets. -/
def isUnencodable : Exit → Bool
  | .fault .unencodable => true
  | _ => false

theorem eq_of_isUnencodable {exit : Exit} (h : isUnencodable exit = true) :
    exit = .fault .unencodable := by
  unfold isUnencodable at h
  split at h
  · rfl
  · cases h

/-- A specifier that UTF-8 cannot spell is not told either, when output is UTF-8. -/
theorem run_scan_unprintable :
    (@run scriptParsers utf8Output ⟨"/w", []⟩
        ⟨[(["w"], .directory), (["w", "src"], .directory),
          (["w", "src", "a.js"], .file (Text.utf8 "import('\\uD800')") .zero)]⟩ 0 []
        ["scan", "src"]).exit = .fault .unencodable :=
  eq_of_isUnencodable (by decide +kernel)

end ImportScan.CommandLine
