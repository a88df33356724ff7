import ImportScan.Proofs.Extract.Preorder
import ImportScan.Proofs.Extract.Template

/-! # Records of any tree

    Whatever a tree looks like, the records that it gives are well formed: they bear the marks
    of the file they come from, and templates among them have holes.

    * `Import.WellFormed`     : what is asked of a record.
    * `Cst.Interpolated`      : a call whose first argument is a template with holes.
    * `Cst.Failure`           : why a concrete syntax tree may have no records.
    * `Estree.Names`          : what an import names, in either of its forms.
    * `Estree.Interpolated`   : an import that names a template with expressions.
    * `Backend.records_wellFormed` : the records of trees of both kinds.
-/

namespace ImportScan

/-! ## Parts of a template -/

namespace Target

variable {path : Text} {quasis hints : List Datum} {target : Target} {f : Fault}

theorem quasis_zip {first : Datum} {rest hints : List Datum} (h : rest.length = hints.length) :
    Target.quasis first (hints.zip rest) = first :: rest := by
  rw [Target.quasis, List.map_snd_zip (Nat.le_of_eq h)]

theorem hints_zip {rest hints : List Datum} (h : rest.length = hints.length) :
    Target.hints (hints.zip rest) = hints := List.map_fst_zip (Nat.le_of_eq h.symm)

/-- A single segment is a specifier; any other target has the given segments and hints, of which
    there is one at least. -/
theorem ofParts_eq_ok (h : ofParts path quasis hints = .ok target) :
    (∃ only, quasis = [only] ∧ target = .literal only)
      ∨ ∃ first holes, target = .template first holes ∧ holes ≠ []
          ∧ Target.quasis first holes = quasis ∧ Target.hints holes = hints := by
  unfold ofParts at h
  split at h
  · next only => exact .inl ⟨only, rfl, (Except.ok.inj h).symm⟩
  · next first rest hmore =>
    split at h
    · next hlength =>
      refine .inr ⟨first, hints.zip rest, (Except.ok.inj h).symm, ?_, quasis_zip hlength,
        hints_zip hlength⟩
      intro hnone
      -- without holes there would be one segment only
      have hrest := congrArg (·.map Prod.snd) hnone
      rw [List.map_snd_zip (Nat.le_of_eq hlength)] at hrest
      exact hmore hrest
    · cases h
  · cases h

/-- Parts that balance make a target. -/
theorem exists_ofParts (h : quasis.length = hints.length + 1) :
    ∃ target, ofParts path quasis hints = .ok target := by
  unfold ofParts
  split
  · exact ⟨_, rfl⟩
  · exact ⟨_, if_pos (Nat.succ.inj h)⟩
  · cases h

end Target

/-! ## Records -/

/-- A record of an origin: it bears the marks of the origin, and if it has a template, there are
    two segments at least and one hint fewer. -/
structure Import.WellFormed (o : Origin) (i : Import) : Prop where
  path : i.path = o.path
  package : i.package = o.package
  treeType : i.treeType = o.package.treeType
  template : ∀ first holes, i.target = .template first holes →
    2 ≤ (Target.quasis first holes).length
      ∧ (Target.hints holes).length + 1 = (Target.quasis first holes).length

theorem Origin.record_wellFormed (o : Origin) (isDynamic : Bool) {target : Target}
    (h : ∀ first holes, target = .template first holes → holes ≠ []) :
    (o.record isDynamic target).WellFormed o where
  path := rfl
  package := rfl
  treeType := rfl
  template := by
    intro first holes htarget
    have hholes : 0 < holes.length := List.length_pos_iff.mpr (h first holes htarget)
    rw [Target.quasis, Target.hints, List.length_cons, List.length_map, List.length_map]
    exact ⟨Nat.succ_le_succ hholes, rfl⟩

/-- A record of an origin is well formed if its template has holes, and what holds of the
    template that it was made with holds of its own. -/
theorem Origin.record_template (o : Origin) (isDynamic : Bool) {target : Target}
    {P : Datum → List (Datum × Datum) → Prop}
    (h : ∀ first holes, target = .template first holes → holes ≠ [] ∧ P first holes) :
    (o.record isDynamic target).WellFormed o ∧
      ∀ first holes, (o.record isDynamic target).target = .template first holes → P first holes :=
  ⟨o.record_wellFormed isDynamic fun first holes heq => (h first holes heq).1,
    fun first holes heq => (h first holes heq).2⟩

/-! ## Concrete syntax trees -/

namespace Cst

variable {o : Origin} {bytes : Bytes} {names : List Text} {path : Text}

/-- The first argument of a call is a template with holes, and these are its parts. -/
def Interpolated (bytes : Bytes) (call : Node) (quasis hints : List Datum) : Prop :=
  ∃ list template rest, call.child? .arguments = some list
    ∧ list.expressions = template :: rest ∧ template.kind = .template ∧ holes template ≠ []
    ∧ hints.length = (holes template).length
    ∧ templateParts bytes ((template.stop : Int) - 1) (template.start + 1) (holes template)
        = .ok (quasis, hints)

/-- However the holes of a template stand, there is a hint for each and one segment more. -/
theorem length_templateParts {stop : Int} {start : Nat} {hs : List Node} {quasis hints : List Datum}
    (h : templateParts bytes stop start hs = .ok (quasis, hints)) :
    hints.length = hs.length ∧ quasis.length = hs.length + 1 := by
  induction hs generalizing start quasis hints with
  | nil =>
    simp only [templateParts, bind_eq_ok, pure_eq_ok, Prod.mk.injEq] at h
    obtain ⟨segment, -, rfl, rfl⟩ := h
    exact ⟨rfl, rfl⟩
  | cons hole hs ih =>
    simp only [templateParts, bind_eq_ok, pure_eq_ok, Prod.mk.injEq] at h
    obtain ⟨segment, -, hint, -, ⟨quasis, hints⟩, hrest, rfl, rfl⟩ := h
    obtain ⟨hhints, hquasis⟩ := ih hrest
    exact ⟨congrArg Nat.succ hhints, congrArg Nat.succ hquasis⟩

/-- A template among the targets comes from a template with holes. -/
theorem interpolated_of_argumentTarget {call : Node} {first : Datum} {parts : List (Datum × Datum)}
    (h : argumentTarget bytes path call = .ok (.template first parts)) :
    parts ≠ [] ∧ Interpolated bytes call (Target.quasis first parts) (Target.hints parts) := by
  unfold argumentTarget at h
  split at h
  · cases h
  · next template rest harguments =>
    split at h
    · simp only [bind_eq_ok, pure_eq_ok, reduceCtorEq, and_false, exists_false] at h
    · next hkind =>
      simp only [bind_eq_ok] at h
      obtain ⟨⟨quasis, hints⟩, hparts, htarget⟩ := h
      obtain ⟨only, -, hliteral⟩ | ⟨first', parts', heq, hne, rfl, rfl⟩ :=
        Target.ofParts_eq_ok htarget
      · cases hliteral
      · cases heq
        obtain ⟨list, hlist, hexpressions⟩ : ∃ list, call.child? .arguments = some list
            ∧ list.expressions = template :: rest := by
          cases hlist : call.child? .arguments with
          | none => simp [hlist] at harguments
          | some list => exact ⟨list, rfl, by simpa [hlist] using harguments⟩
        obtain ⟨hhints, -⟩ := length_templateParts hparts
        refine ⟨hne, list, template, rest, hlist, hexpressions, hkind, ?_, hhints, hparts⟩
        rw [← List.length_pos_iff, ← hhints, Target.hints, List.length_map]
        exact List.length_pos_iff.mpr hne
    · cases h

/-- The record of a construct names a text, or what its first argument names. -/
theorem Construct.record {n : Node} {i : Import} (h : Construct o bytes names n (.ok i)) :
    ∃ isDynamic target, i = o.record isDynamic target
      ∧ ((∃ t, target = .literal (.text t)) ∨ argumentTarget bytes o.path n = .ok target) := by
  generalize hr : Except.ok i = r at h
  cases h with
  | declaration =>
    obtain ⟨t, -, rfl⟩ := map_eq_ok.mp hr.symm
    exact ⟨false, _, rfl, .inl ⟨t, rfl⟩⟩
  | reexport =>
    obtain ⟨t, -, rfl⟩ := map_eq_ok.mp hr.symm
    exact ⟨false, _, rfl, .inl ⟨t, rfl⟩⟩
  | dynamic =>
    obtain ⟨target, htarget, rfl⟩ := map_eq_ok.mp hr.symm
    exact ⟨true, target, rfl, .inr htarget⟩
  | buildTime =>
    obtain ⟨target, htarget, rfl⟩ := map_eq_ok.mp hr.symm
    exact ⟨false, target, rfl, .inr htarget⟩
  | unreadable => cases hr

/-- The record of a construct is well formed, and it has a template only if the construct is a
    call that has a template with holes for its argument. -/
theorem Construct.wellFormed {n : Node} {i : Import} (h : Construct o bytes names n (.ok i)) :
    i.WellFormed o ∧ ∀ first parts, i.target = .template first parts →
      Interpolated bytes n (Target.quasis first parts) (Target.hints parts) := by
  obtain ⟨isDynamic, target, rfl, htarget⟩ := h.record
  refine o.record_template isDynamic ?_
  rintro first parts rfl
  rcases htarget with ⟨t, hliteral⟩ | hargument
  · cases hliteral
  · exact interpolated_of_argumentTarget hargument

/-! ### Reasons of failure -/

/-- Why a concrete syntax tree may have no records: octets that are no text, an escape whose
    number is too large, or a call without a proper argument. -/
inductive Failure (path : Text) : Fault → Prop where
  | undecodable : Failure path .undecodable
  | codePointRange : Failure path .codePointRange
  | codePointOverflow : Failure path .codePointOverflow
  | argument : Failure path (.argument path)

theorem values_failsOnly (ts : List Escape.Token) :
    FailsOnly (Failure path) (Escape.values ts) := by
  induction ts with
  | nil => exact .ok []
  | cons t ts ih =>
    have hvalue : FailsOnly (Failure path) t.value := by
      unfold Escape.Token.value
      split
      · exact .ok _
      · split
        · exact .ok _
        · split
          · exact .error .codePointRange
          · exact .error .codePointOverflow
      · exact .ok _
    exact hvalue.bind fun _ _ => ih.bind fun _ _ => .ok _

theorem textBetween_failsOnly (start stop : Int) :
    FailsOnly (Failure path) (textBetween bytes start stop) := by
  unfold textBetween
  split
  · exact .ok _
  · exact .error .undecodable

theorem cookedBetween_failsOnly (start stop : Int) :
    FailsOnly (Failure path) (cookedBetween bytes start stop) := by
  refine (textBetween_failsOnly start stop).bind fun t _ => ?_
  unfold Escape.cook
  simp only
  split
  · exact (values_failsOnly _).map _
  · exact .ok _

theorem holeHint_failsOnly (hole : Node) : FailsOnly (Failure path) (holeHint bytes hole) := by
  unfold holeHint
  split
  · split
    · exact (textBetween_failsOnly _ _).map _
    · exact .ok _
  · exact .ok _

theorem templateParts_failsOnly (stop : Int) (start : Nat) (hs : List Node) :
    FailsOnly (Failure path) (templateParts bytes stop start hs) := by
  induction hs generalizing start with
  | nil => exact (cookedBetween_failsOnly _ _).bind fun _ _ => .ok _
  | cons hole hs ih =>
    refine (cookedBetween_failsOnly _ _).bind fun _ _ => ?_
    exact (holeHint_failsOnly hole).bind fun _ _ => (ih _).bind fun _ _ => .ok _

/-- The parts of a template always balance, so they never are a reason to fail. -/
theorem argumentTarget_failsOnly (call : Node) :
    FailsOnly (Failure path) (argumentTarget bytes path call) := by
  unfold argumentTarget
  split
  · exact .error .argument
  · split
    · exact (cookedBetween_failsOnly _ _).bind fun _ _ => .ok _
    · -- whatever the holes are, there is one segment more, and that is what a target asks for
      refine (templateParts_failsOnly _ _ _).bind fun parts hparts => ?_
      obtain ⟨hhints, hquasis⟩ := length_templateParts hparts
      have hbalanced : parts.1.length = parts.2.length + 1 := by rw [hquasis, hhints]
      change FailsOnly _ (Target.ofParts path parts.1 parts.2)
      obtain ⟨target, htarget⟩ : ∃ target, Target.ofParts path parts.1 parts.2 = .ok target :=
        Target.exists_ofParts hbalanced
      rw [htarget]
      exact .ok target
    · exact .error .argument

theorem Construct.failsOnly {n : Node} {r : Except Fault Import}
    (h : Construct o bytes names n r) : FailsOnly (Failure o.path) r := by
  cases h with
  | declaration => exact (cookedBetween_failsOnly _ _).map _
  | reexport => exact (cookedBetween_failsOnly _ _).map _
  | dynamic => exact (argumentTarget_failsOnly n).map _
  | buildTime => exact (argumentTarget_failsOnly n).map _
  | unreadable _ _ _ hname => exact .error (textBetween_failsOnly _ _ _ hname)

theorem specifierBinding_failsOnly (module : Text) (spec : Node) :
    FailsOnly (Failure path) (specifierBinding bytes module spec) := by
  unfold specifierBinding
  split
  · exact .ok []
  · next name _ =>
    have himported : FailsOnly (Failure path) (importedName bytes name) := by
      unfold importedName
      split
      · exact cookedBetween_failsOnly _ _
      · exact textBetween_failsOnly _ _
    refine himported.bind fun _ _ => ?_
    split
    · split
      · exact (textBetween_failsOnly _ _).bind fun _ _ => .ok _
      · exact .ok _
    · exact .ok _

theorem macroBindings_failsOnly (root : Node) :
    FailsOnly (Failure path) (macroBindings bytes root) := by
  refine FailsOnly.bind (.mapM fun statement _ => ?_) fun _ _ => .ok _
  unfold statementBindings
  split
  · split
    · exact .ok []
    · refine FailsOnly.bind (cookedBetween_failsOnly _ _) fun module _ => ?_
      exact FailsOnly.bind (.mapM fun spec _ => specifierBinding_failsOnly module spec)
        fun _ _ => .ok _
  · exact .ok []

theorem extract_failsOnly (root : Node) : FailsOnly (Failure o.path) (extract o bytes root) := by
  intro f hf
  rw [extract_eq_collect] at hf
  rcases (Walk.scan_eq_error_iff construct_iff).mp hf with hnames | ⟨_, _, n, _, -, -, -, hn⟩
  · exact macroBindings_failsOnly root f hnames
  · exact hn.failsOnly f rfl

end Cst

/-! ## ESTrees -/

namespace Estree

variable {o : Origin} {names : List Datum} {path : Text}

/-- What an import names: the source of an import expression, or the first argument of a
    call. -/
inductive Names (path : Text) (d : Datum) : Datum → Prop where
  | expression (htype : d.field "type" = .str "ImportExpression") :
      Names path d (d.field "source")
  | call {argument : Datum} (htype : d.field "type" = .str "CallExpression")
      (hargument : firstArgument path d = .ok argument) : Names path d argument

/-- An import names a template with expressions, and these are the values of its segments and
    the names of its expressions. -/
def Interpolated (path : Text) (d : Datum) (quasis hints : List Datum) : Prop :=
  ∃ template segments expressions, Names path d template
    ∧ template.field "type" = .str "TemplateLiteral"
    ∧ (template.field "quasis").items? = some segments
    ∧ (template.field "expressions").items? = some expressions ∧ expressions ≠ []
    ∧ quasis = segments.map (fun q => (q.field "value").field "cooked")
    ∧ hints = expressions.map hintOf

theorem requiredItems_eq_ok {d : Datum} {items : List Datum} (h : requiredItems d = .ok items) :
    d.items? = some items := by
  unfold requiredItems at h
  split at h
  · next heq => rw [heq, Except.ok.inj h]
  · cases h

/-- A template among the targets comes from a template with expressions. -/
theorem interpolated_of_argumentTarget {d argument first : Datum} {parts : List (Datum × Datum)}
    (hnames : Names path d argument)
    (h : argumentTarget path argument = .ok (.template first parts)) :
    parts ≠ [] ∧ Interpolated path d (Target.quasis first parts) (Target.hints parts) := by
  unfold argumentTarget at h
  simp only at h
  split at h
  · cases h
  · split at h
    · next htype =>
      simp only [bind_eq_ok] at h
      obtain ⟨segments, hsegments, expressions, hexpressions, htarget⟩ := h
      obtain ⟨only, -, hliteral⟩ | ⟨first', parts', heq, hne, hquasis, hhints⟩ :=
        Target.ofParts_eq_ok htarget
      · cases hliteral
      · cases heq
        refine ⟨hne, argument, segments, expressions, hnames, isOfType_iff.mp htype,
          requiredItems_eq_ok hsegments, requiredItems_eq_ok hexpressions, ?_, hquasis, hhints⟩
        rintro rfl
        exact hne (List.map_eq_nil_iff.mp hhints)
    · cases h

/-- The record of a construct names the value of a field, or what the import names. -/
theorem Construct.record {d : Datum} {i : Import} (h : Construct o names d (.ok i)) :
    ∃ isDynamic target, i = o.record isDynamic target
      ∧ ((∃ v, target = .literal v)
          ∨ ∃ argument, Names o.path d argument ∧ argumentTarget o.path argument = .ok target) := by
  generalize hr : Except.ok i = r at h
  cases h with
  | declaration => exact ⟨false, _, Except.ok.inj hr, .inl ⟨_, rfl⟩⟩
  | reexport => exact ⟨false, _, Except.ok.inj hr, .inl ⟨_, rfl⟩⟩
  | expression htype =>
    obtain ⟨target, htarget, rfl⟩ := map_eq_ok.mp hr.symm
    exact ⟨true, target, rfl, .inr ⟨_, .expression htype, htarget⟩⟩
  | dynamic htype =>
    obtain ⟨target, hcall, rfl⟩ := map_eq_ok.mp hr.symm
    obtain ⟨argument, hargument, htarget⟩ := bind_eq_ok.mp hcall
    exact ⟨true, target, rfl, .inr ⟨argument, .call htype hargument, htarget⟩⟩
  | buildTime htype =>
    obtain ⟨target, hcall, rfl⟩ := map_eq_ok.mp hr.symm
    obtain ⟨argument, hargument, htarget⟩ := bind_eq_ok.mp hcall
    exact ⟨false, target, rfl, .inr ⟨argument, .call htype hargument, htarget⟩⟩
  | unhashable => cases hr

/-- The record of a construct is well formed, and it has a template only if the construct names
    a template with expressions. -/
theorem Construct.wellFormed {d : Datum} {i : Import} (h : Construct o names d (.ok i)) :
    i.WellFormed o ∧ ∀ first parts, i.target = .template first parts →
      Interpolated o.path d (Target.quasis first parts) (Target.hints parts) := by
  obtain ⟨isDynamic, target, rfl, htarget⟩ := h.record
  refine o.record_template isDynamic ?_
  rintro first parts rfl
  rcases htarget with ⟨v, hliteral⟩ | ⟨argument, hnames, hargument⟩
  · cases hliteral
  · exact interpolated_of_argumentTarget hnames hargument

/-- Only a mapping has records. -/
theorem entries_of_extract {program : Datum} {records : List Import}
    (h : extract o program = .ok records) : ∃ entries, program = .map entries := by
  unfold extract at h
  obtain ⟨names, -, h⟩ := bind_eq_ok.mp h
  cases program with
  | map entries => exact ⟨entries, rfl⟩
  | _ => cases h

end Estree

/-! ## Both kinds of trees -/

theorem Walk.Recorded.mem {α : Type} {gives : α → Except Fault Import → Prop} {ns : List α}
    {found : List (α × Import)} (h : Recorded gives ns found) :
    ∀ p ∈ found, gives p.1 (.ok p.2) := by
  induction h with
  | nil => simp
  | record h _ ih => exact List.forall_mem_cons.mpr ⟨h, ih⟩
  | pass _ _ ih => exact ih

/-- The records of any tree, of whatever shape, are well formed.  They are those of the
    constructs that the tree holds, and one with a template is that of a construct that names a
    template with holes, with a hint for every hole.  The segments and hints of a concrete
    syntax tree always balance. -/
theorem Backend.records_wellFormed (o : Origin) :
    (∀ bytes root records, Cst.extract o bytes root = .ok records →
        ∃ names found, Cst.macroBindings bytes root = .ok names
          ∧ Walk.Recorded (Cst.Construct o bytes names) root.preorder found
          ∧ found.map Prod.snd = records
          ∧ ∀ p ∈ found, p.2.WellFormed o
            ∧ ∀ first holes, p.2.target = .template first holes →
                Cst.Interpolated bytes p.1 (Target.quasis first holes) (Target.hints holes))
      ∧ (∀ program records, Estree.extract o program = .ok records →
        ∃ names found, Estree.macroBindings program = .ok names
          ∧ Walk.Recorded (Estree.Construct o names) (Estree.preorder program) found
          ∧ found.map Prod.snd = records
          ∧ ∀ p ∈ found, p.2.WellFormed o
            ∧ ∀ first holes, p.2.target = .template first holes →
                Estree.Interpolated o.path p.1 (Target.quasis first holes) (Target.hints holes))
      ∧ ∀ bytes root path quasis hints,
        Cst.extract o bytes root ≠ .error (.unbalancedTemplate path quasis hints) := by
  refine ⟨?_, ?_, ?_⟩
  · intro bytes root records h
    rw [Cst.extract_eq_collect] at h
    obtain ⟨names, found, hnames, hfound, hrecords⟩ :=
      (Walk.scan_eq_ok_iff Cst.construct_iff).mp h
    exact ⟨names, found, hnames, hfound, hrecords, fun p hp => (hfound.mem p hp).wellFormed⟩
  · intro program records h
    obtain ⟨entries, rfl⟩ := Estree.entries_of_extract h
    rw [Estree.extract_eq_collect] at h
    obtain ⟨names, found, hnames, hfound, hrecords⟩ :=
      (Walk.scan_eq_ok_iff Estree.construct_iff).mp h
    exact ⟨names, found, hnames, hfound, hrecords, fun p hp => (hfound.mem p hp).wellFormed⟩
  · intro bytes root path quasis hints h
    have hfailure := Cst.extract_failsOnly root _ h
    cases hfailure

/-! A dynamic import of a template with one hole, as a tree of either kind. -/

namespace Holed

def source : Bytes := (Text.ofString "import(\x60a$\x7bb\x7d\x60)").utf8

def root : Cst.Node :=
  Cst.Inner.call 0 15
    [.mk { kind := .template, start := 7, stop := 14 }
      [.mk { kind := .substitution, start := 9, stop := 13 }
        [.mk { kind := .identifier, start := 11, stop := 12 } []]]]

def element (cooked : String) : Datum :=
  .map [(.str "value", .map [(.str "cooked", .str cooked)])]

def template : Datum :=
  .map [(.str "type", .str "TemplateLiteral"), (.str "quasis", .list [element "a", element ""]),
    (.str "expressions", .list [.map [(.str "type", .str "Identifier"), (.str "name", .str "b")]])]

def program : Datum :=
  .map [(.str "type", .str "ImportExpression"), (.str "source", template)]

def record : Import :=
  Cst.Inner.origin.record true (.template (.str "a") [(.str "b", .str "")])

end Holed

theorem Backend.records_wellFormed_holed :
    (∃ call, Cst.Interpolated Holed.source call [.str "a", .str ""] [.str "b"])
      ∧ (∃ d, Estree.Interpolated Cst.Inner.origin.path d [.str "a", .str ""] [.str "b"])
      ∧ Holed.record.WellFormed Cst.Inner.origin := by
  have hcst : Cst.extract Cst.Inner.origin Holed.source Holed.root = .ok [Holed.record] := by
    rw [Cst.extract_eq_walk]
    rfl
  have hestree : Estree.extract Cst.Inner.origin Holed.program = .ok [Holed.record] := by
    rw [Holed.program, Estree.extract_eq_collect]
    rfl
  obtain ⟨hcsts, hestrees, -⟩ := Backend.records_wellFormed Cst.Inner.origin
  -- the only record of either tree is that of some construct of it
  obtain ⟨_, found, -, -, hrecords, hfound⟩ := hcsts _ _ _ hcst
  obtain ⟨⟨call, i⟩, hp, hi⟩ := List.mem_map.mp (hrecords ▸ List.mem_singleton.mpr rfl)
  obtain ⟨_, found', -, -, hrecords', hfound'⟩ := hestrees _ _ hestree
  obtain ⟨⟨d, i'⟩, hp', hi'⟩ := List.mem_map.mp (hrecords' ▸ List.mem_singleton.mpr rfl)
  obtain rfl : i = Holed.record := hi
  obtain rfl : i' = Holed.record := hi'
  obtain ⟨hformed, htemplate⟩ := hfound _ hp
  exact ⟨⟨call, htemplate _ _ rfl⟩, ⟨d, (hfound' _ hp').2 _ _ rfl⟩, hformed⟩

end ImportScan
