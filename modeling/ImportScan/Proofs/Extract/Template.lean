import ImportScan.Proofs.Extract.Cst
import ImportScan.Proofs.Extract.Layout
import ImportScan.Proofs.Text.Utf8

/-! # Templates

    The text of a template is cut at its holes.  Nothing of it is lost: the segments and the
    holes in turn are what stands between the quotes.

    * `Cst.Laid`   : a template stands in quotes, and its holes follow one another between them.
    * `Cst.Cooked` : the value of the octets of a segment.
    * `Cst.Hint`   : what a hole is called.
    * `Cst.weave`  : segments and holes in turn.
    * `Cst.templateParts_partition` : the parts of such a template.
-/

namespace ImportScan

theorem exists_forall₂ {α β : Type} {R : α → β → Prop} {xs : List α} (h : ∀ x ∈ xs, ∃ y, R x y) :
    ∃ ys, List.Forall₂ R xs ys := by
  induction xs with
  | nil => exact ⟨[], .nil⟩
  | cons x xs ih =>
    obtain ⟨⟨y, hy⟩, hxs⟩ := List.forall_mem_cons.mp h
    obtain ⟨ys, hys⟩ := ih hxs
    exact ⟨y :: ys, .cons hy hys⟩

namespace Cst

variable {bytes : Bytes} {source : Text} {template hole : Node} {hs : List Node}

/-! ## Where the holes stand -/

/-- Nodes follow one another from an offset to another. -/
inductive Ordered (stop : Nat) : Nat → List Node → Prop where
  | last {start : Nat} (h : start ≤ stop) : Ordered stop start []
  | before {start : Nat} {hole : Node} {rest : List Node} (hbefore : start ≤ hole.start)
      (hhole : hole.start ≤ hole.stop) (hrest : Ordered stop hole.stop rest) :
      Ordered stop start (hole :: rest)

theorem Ordered.le {start stop : Nat} (h : Ordered stop start hs) : start ≤ stop := by
  induction h with
  | last h => exact h
  | before hbefore hhole _ ih => omega

/-- Nodes between two offsets, none of which begins before the one in front of it ends. -/
theorem ordered_of_pairwise {start stop : Nat} (h : start ≤ stop)
    (hinside : ∀ hole ∈ hs, start ≤ hole.start ∧ hole.start ≤ hole.stop ∧ hole.stop ≤ stop)
    (hdisjoint : hs.Pairwise fun a b => a.stop ≤ b.start) : Ordered stop start hs := by
  induction hs generalizing start with
  | nil => exact .last h
  | cons hole hs ih =>
    obtain ⟨⟨hbefore, hhole, hstop⟩, hinside⟩ := List.forall_mem_cons.mp hinside
    obtain ⟨hafter, hdisjoint⟩ := List.pairwise_cons.mp hdisjoint
    refine .before hbefore hhole (ih hstop (fun next hnext => ?_) hdisjoint)
    exact ⟨hafter next hnext, (hinside next hnext).2⟩

/-- A template over its source: it stands in quotes, its holes lie between them, one after the
    other, and none of them begins or ends inside a character. -/
structure Laid (source : Text) (template : Node) : Prop where
  opening : source.utf8[template.start]? = some 0x60
  closing : source.utf8[template.stop - 1]? = some 0x60
  quotes : template.start < template.stop - 1
  inside : ∀ hole ∈ holes template,
    template.start + 1 ≤ hole.start ∧ hole.start ≤ hole.stop ∧ hole.stop ≤ template.stop - 1
  disjoint : (holes template).Pairwise fun a b => a.stop ≤ b.start
  whole : ∀ hole ∈ holes template,
    Text.Boundary source hole.start ∧ Text.Boundary source hole.stop

theorem Laid.ordered (h : Laid source template) :
    Ordered (template.stop - 1) (template.start + 1) (holes template) :=
  ordered_of_pairwise h.quotes h.inside h.disjoint

/-! ## Segments -/

/-- The octets of the segments of a template. -/
def segments (bytes : Bytes) (template : Node) : List Bytes :=
  between bytes (template.stop - 1) (template.start + 1) (holes template)

/-- Segments and holes in turn, a segment first. -/
def weave : List Bytes → List Bytes → Bytes
  | [], holes => holes.flatten
  | segment :: segments, [] => segment ++ segments.flatten
  | segment :: segments, hole :: holes => segment ++ (hole ++ weave segments holes)

theorem length_between (stop start : Nat) (hs : List Node) :
    (between bytes stop start hs).length = hs.length + 1 := by
  induction hs generalizing start with
  | nil => rfl
  | cons hole hs ih => rw [between, List.length_cons, ih, List.length_cons]

theorem slice_append {i j k : Nat} (hij : i ≤ j) (hjk : j ≤ k) (hk : k ≤ bytes.length) :
    slice bytes i j ++ slice bytes j k = slice bytes i k := by
  have hsplit : (bytes.drop i).drop (j - i) = bytes.drop j := by
    rw [List.drop_drop, Nat.add_sub_cancel' hij]
  have hlength : k - i = (j - i) + (k - j) := by omega
  rw [Relaid.slice_eq (by omega), Relaid.slice_eq (by omega), Relaid.slice_eq (by omega),
    hlength, List.take_add, hsplit]

/-- What stands between two offsets is cut into segments and holes without loss. -/
theorem Ordered.weave_between {start stop : Nat} (h : Ordered stop start hs)
    (hstop : stop ≤ bytes.length) :
    weave (between bytes stop start hs) (hs.map (octets bytes)) = slice bytes start stop := by
  induction h with
  | last h => simp [between, weave]
  | before hbefore hhole hrest ih =>
    -- a segment ends where its hole starts, and the next one starts where the hole ends
    have hle := hrest.le
    rw [between, List.map_cons, weave, ih, octets, slice_append hhole hle hstop,
      slice_append hbefore (by omega) hstop]

/-- The octets between two offsets that cut no character are those of a part of the source. -/
theorem exists_slice {i j : Nat} (hi : Text.Boundary source i) (hj : Text.Boundary source j)
    (hij : i ≤ j) :
    ∃ part : Text, (∀ c ∈ part, c ∈ source) ∧ slice source.utf8 i j = part.utf8 := by
  rw [Relaid.slice_eq ⟨hij, hj.le_length⟩]
  exact Text.exists_part hi hj hij

/-- Holes that cut no character leave segments that cut none. -/
theorem Ordered.parts {start stop : Nat} (h : Ordered stop start hs)
    (hstart : Text.Boundary source start) (hstop : Text.Boundary source stop)
    (hwhole : ∀ hole ∈ hs, Text.Boundary source hole.start ∧ Text.Boundary source hole.stop) :
    ∀ raw ∈ between source.utf8 stop start hs,
      ∃ part : Text, (∀ c ∈ part, c ∈ source) ∧ raw = part.utf8 := by
  induction h with
  | last h => exact List.forall_mem_singleton.mpr (exists_slice hstart hstop h)
  | before hbefore _ _ ih =>
    obtain ⟨⟨hfirst, hlast⟩, hwhole⟩ := List.forall_mem_cons.mp hwhole
    exact List.forall_mem_cons.mpr
      ⟨exists_slice hstart hfirst hbefore, ih hlast hwhole⟩

/-- The quotes cut no character either. -/
theorem Laid.parts (h : Laid source template) :
    ∀ raw ∈ segments source.utf8 template,
      ∃ part : Text, (∀ c ∈ part, c ∈ source) ∧ raw = part.utf8 :=
  h.ordered.parts (Text.boundary_of_lt h.opening (by decide)).2
    (Text.boundary_of_lt h.closing (by decide)).1 h.whole

theorem Laid.decodes (h : Laid source template) (hsource : ∀ c ∈ source, c.isSurrogate = false) :
    ∀ raw ∈ segments source.utf8 template, ∃ t, Text.ofUtf8? raw = some t := by
  intro raw hraw
  obtain ⟨part, hmem, rfl⟩ := h.parts raw hraw
  exact ⟨part, Text.ofUtf8?_utf8 fun c hc => hsource c (hmem c hc)⟩

/-! ## Values -/

/-- The value of the octets of a segment: that of the text they stand for. -/
def Cooked (raw : Bytes) (value : Text) : Prop :=
  ∃ t, Text.ofUtf8? raw = some t ∧ Escape.cook t = .ok value

theorem Cooked.cookedBetween {start stop : Int} {value : Text}
    (h : Cooked (slice bytes start stop) value) : cookedBetween bytes start stop = .ok value := by
  obtain ⟨t, ht, hvalue⟩ := h
  rw [Cst.cookedBetween, textBetween, ht]
  exact hvalue

/-- Segments that have values one by one. -/
theorem segments_of_cooked {start stop : Nat} {values : List Text}
    (h : List.Forall₂ Cooked (between bytes stop start hs) values) :
    Segments bytes stop start hs values := by
  induction hs generalizing start values with
  | nil =>
    cases h with
    | cons hlast hnone =>
      cases hnone
      exact .last hlast.cookedBetween
  | cons hole hs ih =>
    cases h with
    | cons hfirst hrest => exact .before hfirst.cookedBetween (ih hrest)

/-! ## Hints -/

/-- What a hole is called: its first expression, if that is an identifier, and nothing
    otherwise. -/
inductive Hint (bytes : Bytes) (hole : Node) : Datum → Prop where
  | name {first : Node} {name : Text} (hfirst : hole.expressions.head? = some first)
      (hkind : first.kind = .identifier) (hname : textOf bytes first = .ok name) :
      Hint bytes hole (.text name)
  | none (h : ∀ first, hole.expressions.head? = some first → first.kind ≠ .identifier) :
      Hint bytes hole .null

theorem Hint.holeHint {hint : Datum} (h : Hint bytes hole hint) :
    holeHint bytes hole = .ok hint := by
  unfold Cst.holeHint
  cases hexpressions : hole.expressions with
  | nil =>
    cases h with
    | name hfirst => simp [hexpressions] at hfirst
    | none => rfl
  | cons first rest =>
    cases h with
    | name hfirst hkind hname =>
      obtain rfl : first = _ := by simpa [hexpressions] using hfirst
      simp [hkind, hname, Except.map]
    | none h => simp [h first (by simp [hexpressions])]

theorem exists_hint (h : ∀ first, hole.expressions.head? = some first →
    first.kind = .identifier → ∃ name, textOf bytes first = .ok name) :
    ∃ hint, Hint bytes hole hint := by
  by_cases hidentifier : ∃ first, hole.expressions.head? = some first ∧ first.kind = .identifier
  · obtain ⟨first, hfirst, hkind⟩ := hidentifier
    obtain ⟨name, hname⟩ := h first hfirst hkind
    exact ⟨_, .name hfirst hkind hname⟩
  · exact ⟨_, .none fun first hfirst hkind => hidentifier ⟨first, hfirst, hkind⟩⟩

/-! ## Parts -/

/-- The parts of a template whose holes lie between its quotes, one after the other, without
    cutting a character: if its segments have values and the identifiers that its holes begin
    with cut no character, there is one segment more than there are holes and a hint for every
    hole.  Every segment gives its value, every hole its hint, and the segments and the holes
    in turn are all that stands between the quotes. -/
theorem templateParts_partition (hsource : source.utf8? = some bytes)
    (hlaid : Laid source template)
    (hcook : ∀ raw ∈ segments bytes template, ∀ t, Text.ofUtf8? raw = some t →
      ∃ value, Escape.cook t = .ok value)
    (hnames : ∀ hole ∈ holes template, ∀ first, hole.expressions.head? = some first →
      first.kind = .identifier → ∃ name, textOf bytes first = .ok name) :
    ∃ (values : List Text) (hints : List Datum),
      templateParts bytes ((template.stop : Int) - 1) (template.start + 1) (holes template)
          = .ok (values.map .text, hints)
        ∧ values.length = hints.length + 1
        ∧ hints.length = (holes template).length
        ∧ List.Forall₂ Cooked (segments bytes template) values
        ∧ List.Forall₂ (Hint bytes) (holes template) hints
        ∧ weave (segments bytes template) ((holes template).map (octets bytes))
            = slice bytes (template.start + 1 : Nat) (template.stop - 1 : Nat) := by
  obtain ⟨rfl, hproper⟩ := Text.utf8?_eq_some hsource
  obtain ⟨values, hvalues⟩ : ∃ values, List.Forall₂ Cooked (segments source.utf8 template) values :=
    exists_forall₂ fun raw hraw => by
      obtain ⟨t, ht⟩ := hlaid.decodes hproper raw hraw
      obtain ⟨value, hvalue⟩ := hcook raw hraw t ht
      exact ⟨value, t, ht, hvalue⟩
  obtain ⟨hints, hhints⟩ := exists_forall₂ fun hole hhole => exists_hint (hnames hole hhole)
  have hcount := hvalues.length_eq
  rw [segments, length_between, hhints.length_eq] at hcount
  have hstop : (template.stop : Int) - 1 = (template.stop - 1 : Nat) := by
    have hquotes := hlaid.quotes
    omega
  refine ⟨values, hints, ?_, hcount.symm, hhints.length_eq.symm, hvalues, hhints, ?_⟩
  · rw [hstop]
    exact templateParts_eq (segments_of_cooked hvalues) (hhints.imp fun _ _ h => h.holeHint)
  · have hclosing := (Text.boundary_of_lt hlaid.closing (by decide)).1
    exact hlaid.ordered.weave_between hclosing.le_length

/-! Templates with an accented letter: one with a hole for a name and one for a longer
    expression, and one whose hole has half of that letter for a name. -/

namespace Accented

def script : Text := Text.ofString "\x60\u00e9$\x7bb\x7d-$\x7bc.d\x7d\x60"

def literal : Node :=
  .mk { kind := .template, stop := 15 }
    [.mk { kind := .substitution, start := 3, stop := 7 }
      [.mk { kind := .identifier, start := 5, stop := 6 } []],
     .mk { kind := .substitution, start := 8, stop := 14 }
      [.mk { kind := .other "member_expression", start := 10, stop := 13 } []]]

theorem laid : Laid script literal where
  opening := by decide
  closing := by decide
  quotes := by decide
  inside := by decide
  disjoint := by decide
  whole := List.forall_mem_cons.mpr
    ⟨⟨Text.boundary_take script 2, Text.boundary_take script 6⟩,
      List.forall_mem_singleton.mpr ⟨Text.boundary_take script 7, Text.boundary_take script 13⟩⟩

def halved : Text := Text.ofString "\x60$\x7b\u00e9\x7d\x60"

def half : Node :=
  .mk { kind := .template, stop := 7 }
    [.mk { kind := .substitution, start := 1, stop := 6 }
      [.mk { kind := .identifier, start := 3, stop := 4 } []]]

theorem laid_half : Laid halved half where
  opening := by decide
  closing := by decide
  quotes := by decide
  inside := by decide
  disjoint := by decide
  whole := List.forall_mem_singleton.mpr
    ⟨Text.boundary_take halved 1, Text.boundary_take halved 5⟩

theorem cooks (h : ∀ raw ∈ segments bytes template,
    (Text.ofUtf8? raw).all fun t => (Escape.cook t).toOption.isSome) :
    ∀ raw ∈ segments bytes template, ∀ t, Text.ofUtf8? raw = some t →
      ∃ value, Escape.cook t = .ok value := by
  intro raw hraw t ht
  have hsome := h raw hraw
  rw [ht, Option.all_some, Option.isSome_iff_exists] at hsome
  exact hsome.imp fun _ hvalue => eq_ok_of_toOption hvalue

theorem name (hole : Node) (hmem : hole ∈ holes literal) (first : Node)
    (hfirst : hole.expressions.head? = some first) (hkind : first.kind = .identifier) :
    ∃ name, textOf script.utf8 first = .ok name := by
  have hall : ∀ hole ∈ holes literal, hole.expressions.head?.all fun first =>
      first.kind == .identifier → (textOf script.utf8 first).toOption.isSome := by decide
  have hsome := hall hole hmem
  rw [hfirst] at hsome
  simp only [Option.all_some, hkind, decide_eq_true_eq, beq_self_eq_true, forall_const,
    Option.isSome_iff_exists] at hsome
  exact hsome.imp fun _ hname => eq_ok_of_toOption hname

end Accented

theorem templateParts_partition_accented :
    Laid Accented.script Accented.literal
      ∧ ∃ (values : List Text) (hints : List Datum),
        templateParts Accented.script.utf8 14 1 (holes Accented.literal)
            = .ok (values.map .text, hints)
          ∧ values.length = hints.length + 1
          ∧ List.Forall₂ Cooked [[0xC3, 0xA9], [0x2D], []] values
          ∧ weave [[0xC3, 0xA9], [0x2D], []]
              [[0x24, 0x7B, 0x62, 0x7D], [0x24, 0x7B, 0x63, 0x2E, 0x64, 0x7D]]
            = slice Accented.script.utf8 1 14 := by
  have hsource : Accented.script.utf8? = some Accented.script.utf8 := by decide
  obtain ⟨values, hints, hparts, hcount, -, hvalues, -, hweave⟩ :=
    templateParts_partition hsource Accented.laid (Accented.cooks (by decide)) Accented.name
  exact ⟨Accented.laid, values, hints, hparts, hcount, hvalues, hweave⟩

/-- A name that is half a character has no text, although the holes and the segments of its
    template are whole. -/
theorem templateParts_undecodable :
    Accented.halved.utf8? = some Accented.halved.utf8
      ∧ Laid Accented.halved Accented.half
      ∧ (∀ raw ∈ segments Accented.halved.utf8 Accented.half, ∀ t, Text.ofUtf8? raw = some t →
          ∃ value, Escape.cook t = .ok value)
      ∧ templateParts Accented.halved.utf8 6 1 (holes Accented.half) = .error .undecodable :=
  ⟨by decide, Accented.laid_half, Accented.cooks (by decide), rfl⟩

end Cst

end ImportScan
