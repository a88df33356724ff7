import ImportScan.Proofs.Escape.Cook
import ImportScan.Proofs.Extract.Preorder
import ImportScan.Proofs.Extract.Template

/-! # Descriptions of templates

    A listing tells an imported template by its segments and the names of its holes.  If every
    hole holds a name and nothing else, and no segment has to be cooked, that is the template
    as it is written.

    * `Cst.Calls`  : the calls that import something.
    * `Cst.Quoted` : a template in quotes, with its holes between them.
    * `Cst.Bare`   : a hole that holds a name and nothing else.
    * `Cst.describe_template` : what a listing tells of such a template.
-/

namespace ImportScan

namespace Escape

/-- A text without backslashes and carriage returns stands for itself. -/
theorem cook_plain {t : Text} (hslash : ∀ c ∈ t, c.is '\\' = false)
    (hreturn : ∀ c ∈ t, c.is '\r' = false) : cook t = .ok t := by
  have hnormal : t.normalizeNewlines = t := by
    clear hslash
    fun_induction Text.normalizeNewlines t with
    | case1 => rfl
    | case2 c hc => simp [hreturn c (by simp)] at hc
    | case3 c hc => rfl
    | case4 c d rest hc hd ih => simp [hreturn c (by simp)] at hc
    | case5 c d rest hc hd ih => simp [hreturn c (by simp)] at hc
    | case6 c d rest hc ih =>
      rw [ih fun e he => hreturn e (List.mem_cons_of_mem _ he)]
  have hplain : t.any (·.is '\\') = false := by simpa using hslash
  rw [cook, hnormal, hplain]
  rfl

end Escape

/-- A string has no surrogates. -/
theorem Text.ofString_proper {s : String} {c : CodePoint} (h : c ∈ Text.ofString s) :
    c.isSurrogate = false := by
  obtain ⟨ch, -, rfl⟩ := List.mem_map.mp h
  have hvalid := ch.valid
  simp only [UInt32.isValidChar, Nat.isValidChar] at hvalid
  have hval : (CodePoint.ofChar ch).val = ch.val.toNat := rfl
  simp only [CodePoint.isSurrogate, hval, Bool.and_eq_false_iff, decide_eq_false_iff_not]
  omega

/-- The records of nodes hold the record of each of them. -/
theorem Walk.mem_collect {α : Type} {visit : α → Except Fault (Option Import)} {ns : List α}
    {found : List Import} (h : collect visit ns = .ok found) {n : α} {i : Import} (hn : n ∈ ns)
    (hvisit : visit n = .ok (some i)) : i ∈ found := by
  induction ns generalizing found with
  | nil => cases hn
  | cons m ns ih =>
    rw [collect] at h
    simp only [bind_eq_ok, pure_eq_ok] at h
    obtain ⟨own, hown, others, hothers, rfl⟩ := h
    rcases List.mem_cons.mp hn with rfl | hn
    · obtain rfl : own = some i := Except.ok.inj (hown.symm.trans hvisit)
      exact List.mem_append_left others (by simp)
    · exact List.mem_append_right _ (ih hothers hn)

namespace Cst

variable {o : Origin} {bytes : Bytes} {source : Text} {names : List Text} {isDynamic : Bool}
  {call template hole child : Node}

/-! ## Calls -/

/-- A call that imports something: a dynamic import, or the call of a name that is bound to the
    build-time import. -/
inductive Calls (bytes : Bytes) (names : List Text) (call : Node) : Bool → Prop where
  | dynamic {callee : Node} (hkind : call.kind = .call)
      (hcallee : call.child? .callee = some callee) (hword : callee.kind = .importWord) :
      Calls bytes names call true
  | buildTime {callee : Node} {name : Text} (hkind : call.kind = .call)
      (hcallee : call.child? .callee = some callee) (hidentifier : callee.kind = .identifier)
      (hname : textOf bytes callee = .ok name) (hbound : name ∈ names) :
      Calls bytes names call false

theorem Calls.construct (h : Calls bytes names call isDynamic) :
    Construct o bytes names call
      ((argumentTarget bytes o.path call).map (o.record isDynamic)) := by
  cases h with
  | dynamic hkind hcallee hword => exact .dynamic hkind hcallee hword
  | buildTime hkind hcallee hidentifier hname hbound =>
    exact .buildTime hkind hcallee hidentifier hname hbound

/-! ## Templates and their holes -/

/-- A template stands in quotes, and its holes lie between them, one after the other. -/
structure Quoted (bytes : Bytes) (template : Node) : Prop where
  opening : bytes[template.start]? = some 0x60
  closing : bytes[template.stop - 1]? = some 0x60
  quotes : template.start < template.stop - 1
  inside : ∀ hole ∈ holes template,
    template.start + 1 ≤ hole.start ∧ hole.start ≤ hole.stop ∧ hole.stop ≤ template.stop - 1
  disjoint : (holes template).Pairwise fun a b => a.stop ≤ b.start

/-- A hole that holds a name and nothing else: a dollar sign and a brace, the octets of its only
    named child, which is an identifier and not empty, and the other brace. -/
structure Bare (bytes : Bytes) (hole child : Node) : Prop where
  only : hole.named = [child]
  identifier : child.kind = .identifier
  dollar : bytes[hole.start]? = some 0x24
  brace : bytes[hole.start + 1]? = some 0x7B
  start : child.start = hole.start + 2
  nonempty : child.start < child.stop
  closing : bytes[child.stop]? = some 0x7D
  stop : hole.stop = child.stop + 1

/-- A name as the only content of a hole. -/
def written (name : Text) : Text := Text.ofString "$\x7b" ++ name ++ Text.ofString "\x7d"

theorem slice_single {i : Nat} {b : UInt8} (h : bytes[i]? = some b) :
    slice bytes i (i + 1 : Nat) = [b] := by
  obtain ⟨hi, rfl⟩ := List.getElem?_eq_some_iff.mp h
  have hone : i + 1 - i = 1 := by omega
  rw [Relaid.slice_eq ⟨Nat.le_add_right i 1, hi⟩, hone, List.drop_eq_getElem_cons hi]
  rfl

/-- Such a hole cuts no character, and neither does its name. -/
theorem Bare.spelled (h : Bare source.utf8 hole child) :
    (Text.Boundary source hole.start ∧ Text.Boundary source hole.stop) ∧
      ∃ name : Text, (∀ c ∈ name, c ∈ source) ∧ name ≠ []
        ∧ slice source.utf8 child.start child.stop = name.utf8
        ∧ octets source.utf8 hole = (written name).utf8 := by
  have hbrace := Text.boundary_of_lt h.brace (by decide)
  have hclosing := Text.boundary_of_lt h.closing (by decide)
  have hstart : Text.Boundary source child.start := h.start ▸ hbrace.2
  obtain ⟨name, hmem, hname⟩ := exists_slice hstart hclosing.1 (Nat.le_of_lt h.nonempty)
  have hlength := hclosing.1.le_length
  have hbound : child.stop < source.utf8.length :=
    (List.getElem?_eq_some_iff.mp h.closing).1
  refine ⟨⟨(Text.boundary_of_lt h.dollar (by decide)).1, h.stop ▸ hclosing.2⟩, name, hmem, ?_,
    hname, ?_⟩
  · rintro rfl
    rw [Relaid.slice_eq ⟨Nat.le_of_lt h.nonempty, hlength⟩] at hname
    have hnone := congrArg List.length hname
    rw [List.length_take, List.length_drop] at hnone
    change min _ _ = 0 at hnone
    have hspan := h.nonempty
    omega
  · -- the octets of the hole are cut behind the dollar sign, behind the brace and behind the name
    have hspan := h.nonempty
    have hbegin := h.start
    rw [octets, h.stop,
      ← slice_append (j := hole.start + 1) (by omega) (by omega) (by omega),
      slice_single h.dollar,
      ← slice_append (i := hole.start + 1) (j := hole.start + 1 + 1) (by omega) (by omega) (by omega),
      slice_single h.brace,
      ← slice_append (i := hole.start + 1 + 1) (j := child.stop) (by omega) (by omega) (by omega),
      slice_single h.closing]
    have hinner : hole.start + 1 + 1 = child.start := by omega
    rw [hinner, hname, written, Text.utf8_append, Text.utf8_append, List.append_assoc]
    rfl

/-- Bare holes cut no character. -/
theorem Quoted.laid (h : Quoted source.utf8 template)
    (hbare : ∀ hole ∈ holes template, ∃ child, Bare source.utf8 hole child) :
    Laid source template where
  opening := h.opening
  closing := h.closing
  quotes := h.quotes
  inside := h.inside
  disjoint := h.disjoint
  whole := by
    intro hole hhole
    obtain ⟨child, hchild⟩ := hbare hole hhole
    exact hchild.spelled.1

/-- The octets of a template: what stands between its quotes is the segments and holes in
    turn. -/
theorem Laid.octets_eq (h : Laid source template) :
    octets source.utf8 template
      = [0x60] ++ weave (segments source.utf8 template)
          ((holes template).map (octets source.utf8)) ++ [0x60] := by
  have hbound := (Text.boundary_of_lt h.closing (by decide)).2.le_length
  have hquotes := h.quotes
  have hstop : template.stop = template.stop - 1 + 1 := by omega
  have hopening : slice source.utf8 template.start (template.start + 1 : Nat) = [0x60] :=
    slice_single h.opening
  have hclosing : slice source.utf8 (template.stop - 1 : Nat) (template.stop - 1 + 1 : Nat)
      = [0x60] := slice_single h.closing
  have hinner : weave (segments source.utf8 template) ((holes template).map (octets source.utf8))
      = slice source.utf8 (template.start + 1 : Nat) (template.stop - 1 : Nat) :=
    h.ordered.weave_between (by omega)
  calc octets source.utf8 template
      = slice source.utf8 template.start (template.stop - 1 + 1 : Nat) := by rw [← hstop, octets]
    _ = slice source.utf8 template.start (template.stop - 1 : Nat) ++ [0x60] := by
      rw [← hclosing, slice_append (by omega) (Nat.le_succ _) hbound]
    _ = _ := by
      rw [hinner, ← hopening, slice_append (Nat.le_succ _) (by omega) (by omega)]

/-! ## What is shown of a template -/

/-- A hole with a name is shown as it is written. -/
theorem shownHoles_cons {name : Text} (hname : name ≠ []) (value : Text)
    (rest : List (Datum × Datum)) :
    Import.shownHoles ((.text name, .text value) :: rest)
      = written name ++ (value ++ Import.shownHoles rest) := by
  have hshown : (Datum.orElse (.text name) (.str "?")).display = name := by
    cases name with
    | nil => exact absurd rfl hname
    | cons c name => rfl
  rw [Import.shownHoles, List.flatMap_cons, ← Import.shownHoles]
  show (_ ++ (Datum.orElse (.text name) (.str "?")).display ++ _ ++ value) ++ _ = _
  rw [hshown, written]
  simp only [List.append_assoc]

/-- The octets of a first segment and of the holes and segments behind it, as they are shown. -/
theorem utf8_shownHoles {names values : List Text} (hcount : names.length = values.length)
    (hnames : ∀ name ∈ names, name ≠ []) (first : Text) :
    (first ++ Import.shownHoles ((names.map Datum.text).zip (values.map .text))).utf8
      = weave ((first :: values).map Text.utf8) (names.map fun name => (written name).utf8) := by
  induction names generalizing first values with
  | nil =>
    obtain rfl := List.length_eq_zero_iff.mp hcount.symm
    simp [Import.shownHoles, weave]
  | cons name names ih =>
    obtain ⟨hname, hnames⟩ := List.forall_mem_cons.mp hnames
    cases values with
    | nil => cases hcount
    | cons value values =>
      have hrest := ih (Nat.succ.inj hcount) hnames value
      rw [List.map_cons, List.map_cons, List.zip_cons_cons, shownHoles_cons hname, Text.utf8_append,
        Text.utf8_append, hrest]
      rfl

/-- What is shown of holes with names has no surrogates if the names and the segments have
    none. -/
theorem shownHoles_proper {names values : List Text} (hnames : ∀ name ∈ names, name ≠ [])
    (hproper : ∀ t ∈ names ++ values, ∀ c ∈ t, c.isSurrogate = false) :
    ∀ c ∈ Import.shownHoles ((names.map Datum.text).zip (values.map .text)),
      c.isSurrogate = false := by
  induction names generalizing values with
  | nil => simp [Import.shownHoles]
  | cons name names ih =>
    obtain ⟨hname, hnames⟩ := List.forall_mem_cons.mp hnames
    cases values with
    | nil => simp [Import.shownHoles]
    | cons value values =>
      intro c hc
      rw [List.map_cons, List.map_cons, List.zip_cons_cons, shownHoles_cons hname, written] at hc
      simp only [List.mem_append] at hc hproper
      rcases hc with ((hc | hc) | hc) | hc | hc
      · exact Text.ofString_proper hc
      · exact hproper name (.inl (by simp)) c hc
      · exact Text.ofString_proper hc
      · exact hproper value (.inr (by simp)) c hc
      · refine ih hnames (fun t ht => hproper t ?_) c hc
        rcases List.mem_append.mp ht with ht | ht
        · exact .inl (List.mem_cons_of_mem _ ht)
        · exact .inr (List.mem_cons_of_mem _ ht)

/-! ## Descriptions -/

/-- A segment without backslashes and carriage returns is its own value. -/
theorem cooked_plain {raw : Bytes} {part : Text} (hsource : ∀ c ∈ source, c.isSurrogate = false)
    (hpart : ∀ c ∈ part, c ∈ source) (hraw : raw = part.utf8)
    (hplain : 0x5C ∉ raw ∧ 0x0D ∉ raw) : Cooked raw part := by
  have hchar : ∀ c ∈ part, ∀ n : Nat, n < 0x80 → n.toUInt8 ∉ raw → c.val ≠ n := by
    rintro c hc n hn hnot rfl
    apply hnot
    rw [hraw]
    refine List.mem_flatMap.mpr ⟨c, hc, ?_⟩
    simp [CodePoint.utf8, hn]
  refine ⟨part, ?_, Escape.cook_plain (fun c hc => ?_) (fun c hc => ?_)⟩
  · rw [hraw]
    exact Text.ofUtf8?_utf8 fun c hc => hsource c (hpart c hc)
  · exact beq_false_of_ne (hchar c hc 0x5C (by decide) hplain.1)
  · exact beq_false_of_ne (hchar c hc 0x0D (by decide) hplain.2)

theorem Bare.holeHint (h : Bare bytes hole child) {name : Text}
    (hname : textOf bytes child = .ok name) : Cst.holeHint bytes hole = .ok (.text name) := by
  have hexpressions : hole.expressions = [child] := by
    rw [Node.expressions, h.only]
    simp [h.identifier]
  rw [Cst.holeHint, hexpressions]
  simp [h.identifier, hname, Except.map]

/-- The parts of a source that a template is made of: the segments, each of which is its own value,
    and the names in the holes. -/
structure Spelled (source : Text) (template : Node) (values names : List Text) : Prop where
  segments : segments source.utf8 template = values.map Text.utf8
  holes : (holes template).map (octets source.utf8) = names.map fun name => (written name).utf8
  cooked : List.Forall₂ Cooked (Cst.segments source.utf8 template) values
  hints : List.Forall₂ (fun hole name => holeHint source.utf8 hole = .ok (.text name))
    (Cst.holes template) names
  named : ∀ name ∈ names, name ≠ []
  within : ∀ t ∈ names ++ values, ∀ c ∈ t, c ∈ source

theorem exists_parts (hproper : ∀ c ∈ source, c.isSurrogate = false) (hlaid : Laid source template)
    (hbare : ∀ hole ∈ holes template, ∃ child, Bare source.utf8 hole child)
    (hplain : ∀ raw ∈ segments source.utf8 template, 0x5C ∉ raw ∧ 0x0D ∉ raw) :
    ∃ values names, Spelled source template values names := by
  obtain ⟨values, hvalues⟩ : ∃ values, List.Forall₂ (fun raw value =>
      raw = value.utf8 ∧ (∀ c ∈ value, c ∈ source) ∧ Cooked raw value)
      (segments source.utf8 template) values := by
    refine exists_forall₂ fun raw hraw => ?_
    obtain ⟨part, hpart, heq⟩ := hlaid.parts raw hraw
    exact ⟨part, heq, hpart, cooked_plain hproper hpart heq (hplain raw hraw)⟩
  obtain ⟨names, hnames⟩ : ∃ names : List Text, List.Forall₂ (fun hole name =>
      octets source.utf8 hole = (written name).utf8
        ∧ (name ≠ [] ∧ ∀ c ∈ name, c ∈ source)
        ∧ holeHint source.utf8 hole = .ok (.text name)) (holes template) names := by
    refine exists_forall₂ fun hole hhole => ?_
    obtain ⟨child, hchild⟩ := hbare hole hhole
    obtain ⟨-, name, hmem, hne, hspan, hwritten⟩ := hchild.spelled
    refine ⟨name, hwritten, ⟨hne, hmem⟩, hchild.holeHint ?_⟩
    rw [textOf, textBetween, hspan, Text.ofUtf8?_utf8 fun c hc => hproper c (hmem c hc)]
  have hvalued : ∀ value ∈ values, ∀ c ∈ value, c ∈ source :=
    ((List.forall₂_and_left _ _).mp (List.Forall₂.flip
      (hvalues.imp fun _ _ h => And.intro h.2.1 h))).1
  have hnamed : ∀ name ∈ names, name ≠ [] ∧ ∀ c ∈ name, c ∈ source :=
    ((List.forall₂_and_left _ _).mp (List.Forall₂.flip
      (hnames.imp fun _ _ h => And.intro h.2.1 h))).1
  refine ⟨values, names, ?_, ?_, hvalues.imp fun _ _ h => h.2.2, hnames.imp fun _ _ h => h.2.2,
    fun name hname => (hnamed name hname).1, ?_⟩
  · rw [← List.forall₂_eq_eq_eq, List.forall₂_map_right_iff]
    exact hvalues.imp fun _ _ h => h.1
  · rw [← List.forall₂_eq_eq_eq, List.forall₂_map_left_iff, List.forall₂_map_right_iff]
    exact hnames.imp fun _ _ h => h.1
  · intro t ht
    rcases List.mem_append.mp ht with ht | ht
    · exact (hnamed t ht).2
    · exact hvalued t ht

/-- The target of a call whose first argument is a template with bare holes and plain segments, and
    the text of the template, which is how the target is shown. -/
theorem argumentTarget_bare {list : Node} {rest : List Node} (hsource : source.utf8? = some bytes)
    (hlist : call.child? .arguments = some list) (hfirst : list.expressions = template :: rest)
    (hkind : template.kind = .template) (hquoted : Quoted bytes template)
    (hholes : holes template ≠ [])
    (hbare : ∀ hole ∈ holes template, ∃ child, Bare bytes hole child)
    (hplain : ∀ raw ∈ segments bytes template, 0x5C ∉ raw ∧ 0x0D ∉ raw) (path : Text) :
    ∃ target, argumentTarget bytes path call = .ok target
      ∧ textOf bytes template = .ok (Import.shownTarget target) := by
  obtain ⟨rfl, hproper⟩ := Text.utf8?_eq_some hsource
  have hlaid := hquoted.laid hbare
  obtain ⟨values, names, hparts⟩ := exists_parts hproper hlaid hbare hplain
  have hcount := hparts.cooked.length_eq
  rw [segments, length_between, hparts.hints.length_eq] at hcount
  obtain ⟨first, values, rfl⟩ := List.exists_cons_of_length_eq_add_one hcount.symm
  have hlength : names.length = values.length := Nat.succ.inj hcount
  refine ⟨.template (.text first) ((names.map .text).zip (values.map .text)), ?_, ?_⟩
  · have htarget : Target.ofParts path ((first :: values).map .text) (names.map .text)
        = .ok (.template (.text first) ((names.map .text).zip (values.map .text))) := by
      -- there is a hole, so there is a segment behind the first one
      cases values with
      | nil =>
        rw [List.length_nil, ← hparts.hints.length_eq] at hlength
        exact absurd (List.length_eq_zero_iff.mp hlength) hholes
      | cons value values => exact if_pos (by simpa using hlength.symm)
    have hstop : (template.stop : Int) - 1 = (template.stop - 1 : Nat) := by
      have hquotes := hquoted.quotes
      omega
    rw [argumentTarget, hlist]
    simp only [Option.map_some, Option.getD_some, hfirst, hkind]
    rw [hstop, templateParts_eq (segments_of_cooked hparts.cooked)
      (List.forall₂_map_right_iff.mpr hparts.hints)]
    exact htarget
  · -- the segments and the holes are as they are written, so the template is what is shown
    have htext : octets source.utf8 template = Text.utf8 (Import.shownTarget
        (.template (.text first) ((names.map .text).zip (values.map .text)))) := by
      rw [hlaid.octets_eq, hparts.segments, hparts.holes,
        ← utf8_shownHoles hlength hparts.named]
      simp only [Import.shownTarget, Text.utf8_append, List.append_assoc]
      rfl
    have hshown : ∀ c ∈ Import.shownTarget
        (.template (.text first) ((names.map .text).zip (values.map .text))),
        c.isSurrogate = false := by
      have hwithin : ∀ t ∈ names ++ first :: values, ∀ c ∈ t, c.isSurrogate = false :=
        fun t ht c hc => hproper c (hparts.within t ht c hc)
      intro c hc
      simp only [Import.shownTarget, List.mem_append] at hc
      rcases hc with ((hc | hc) | hc) | hc
      · exact Text.ofString_proper hc
      · exact hwithin first (by simp) c hc
      · refine shownHoles_proper hparts.named (fun t ht => hwithin t ?_) c hc
        rcases List.mem_append.mp ht with ht | ht
        · exact List.mem_append_left _ ht
        · exact List.mem_append_right _ (List.mem_cons_of_mem first ht)
      · exact Text.ofString_proper hc
    have hdecoded := Text.ofUtf8?_utf8 hshown
    rw [← htext, octets] at hdecoded
    rw [textOf, textBetween, hdecoded]

/-- A call that imports a template in quotes whose holes hold a name each and nothing else and
    whose segments have neither backslashes nor carriage returns: a listing tells it by the
    template as it is written, quotes and all.  That is what the record of the call comes to,
    which is among the records of every tree that the call stands in. -/
theorem describe_template {list : Node} {rest : List Node} (hsource : source.utf8? = some bytes)
    (hcall : Calls bytes names call isDynamic) (hlist : call.child? .arguments = some list)
    (hfirst : list.expressions = template :: rest) (hkind : template.kind = .template)
    (hquoted : Quoted bytes template) (hholes : holes template ≠ [])
    (hbare : ∀ hole ∈ holes template, ∃ child, Bare bytes hole child)
    (hplain : ∀ raw ∈ segments bytes template, 0x5C ∉ raw ∧ 0x0D ∉ raw) :
    ∃ (record : Import) (text : Text),
      visit o bytes names call = .ok (some record)
        ∧ textOf bytes template = .ok text
        ∧ record.describe = Text.concat
            ["  ", o.path.padRight 40, " ",
             Text.padRight 8 (Text.ofString (if isDynamic then "dynamic" else "static")), " ",
             text]
        ∧ ∀ root found, macroBindings bytes root = .ok names → call ∈ root.preorder →
            extract o bytes root = .ok found → record ∈ found := by
  obtain ⟨target, htarget, htext⟩ :=
    argumentTarget_bare hsource hlist hfirst hkind hquoted hholes hbare hplain o.path
  have hvisit : visit o bytes names call = .ok (some (o.record isDynamic target)) := by
    rw [visit_construct _ hcall.construct, htarget]
    rfl
  refine ⟨o.record isDynamic target, Import.shownTarget target, hvisit, htext, rfl, ?_⟩
  intro root found hnames hmem hfound
  rw [extract_eq_collect, hnames] at hfound
  exact Walk.mem_collect hfound hmem hvisit

/-! A dynamic import of a template with two holes and an accented letter. -/

namespace Listed

def imported : Text := Text.ofString "import(\x60\u00e9$\x7bb\x7d-$\x7bcd\x7d\x60)"

def firstHole : Node :=
  .mk { kind := .substitution, start := 10, stop := 14 }
    [.mk { kind := .identifier, start := 12, stop := 13 } []]

def secondHole : Node :=
  .mk { kind := .substitution, start := 15, stop := 20 }
    [.mk { kind := .identifier, start := 17, stop := 19 } []]

def argument : Node := .mk { kind := .template, start := 7, stop := 21 } [firstHole, secondHole]

def argumentList : Node :=
  .mk { kind := .other "arguments", start := 6, stop := 22, field := some .arguments } [argument]

def importCall : Node :=
  .mk { kind := .call, stop := 22 }
    [.mk { kind := .importWord, stop := 6, field := some .callee } [], argumentList]

def origin : Origin :=
  { path := "a.js"
    package :=
      { name := .str "p", root := "/p", extensions := defaultExtensions, parser := .treeSitter,
        options := .null, version := .null, treeType := none } }

theorem quoted : Quoted imported.utf8 argument where
  opening := by decide
  closing := by decide
  quotes := by decide
  inside := by decide
  disjoint := by decide

theorem bare : ∀ hole ∈ holes argument, ∃ child, Bare imported.utf8 hole child := by
  have hholes : holes argument = [firstHole, secondHole] := by rfl
  rw [hholes, List.forall_mem_cons, List.forall_mem_singleton]
  exact ⟨⟨_, rfl, rfl, rfl, rfl, rfl, by decide, rfl, rfl⟩,
    ⟨_, rfl, rfl, rfl, rfl, rfl, by decide, rfl, rfl⟩⟩

end Listed

theorem describe_template_listed :
    Listed.imported.utf8? = some Listed.imported.utf8
      ∧ Quoted Listed.imported.utf8 Listed.argument
      ∧ (∀ hole ∈ holes Listed.argument, ∃ child, Bare Listed.imported.utf8 hole child)
      ∧ ∃ record found,
        extract Listed.origin Listed.imported.utf8 Listed.importCall = .ok found
          ∧ record ∈ found
          ∧ record.describe = Text.concat
              ["  ", Text.padRight 40 "a.js", " ", Text.padRight 8 "dynamic", " ",
               Text.ofString "\x60\u00e9$\x7bb\x7d-$\x7bcd\x7d\x60"] := by
  have hsource : Listed.imported.utf8? = some Listed.imported.utf8 := by decide
  have htext : textOf Listed.imported.utf8 Listed.argument
      = .ok (Text.ofString "\x60\u00e9$\x7bb\x7d-$\x7bcd\x7d\x60") :=
    eq_ok_of_toOption (by decide +kernel)
  have hnames : macroBindings Listed.imported.utf8 Listed.importCall = .ok [] := by rfl
  obtain ⟨found, hextract⟩ : ∃ found,
      extract Listed.origin Listed.imported.utf8 Listed.importCall = .ok found := by
    have hsome : (Walk.collect (visit Listed.origin Listed.imported.utf8 [])
        Listed.importCall.preorder).toOption.isSome := by decide +kernel
    rw [extract_eq_collect, hnames]
    exact (Option.isSome_iff_exists.mp hsome).imp fun _ h => eq_ok_of_toOption h
  have hmem : Listed.importCall ∈ Listed.importCall.preorder := by
    rw [Node.preorder_eq]
    exact List.mem_cons_self
  have hcall : Calls Listed.imported.utf8 [] Listed.importCall true := .dynamic rfl rfl rfl
  obtain ⟨record, text, -, htold, hdescribe, hfound⟩ :=
    describe_template (o := Listed.origin) hsource hcall rfl rfl rfl Listed.quoted (by decide)
      Listed.bare (by decide)
  obtain rfl := Except.ok.inj (htold.symm.trans htext)
  exact ⟨hsource, Listed.quoted, Listed.bare, record, found, hextract,
    hfound Listed.importCall found hnames hmem hextract, hdescribe⟩

end Cst

end ImportScan
