import ImportScan.Backend
import ImportScan.Estree.Tree

/-! # The parsers of scripts at work

    The parsers that backends are given: each grammar is a dialect of scripts, and ESTree
    programs are made of strict modules.

    * `Grammar.dialect`       : the dialect that a grammar stands for.
    * `Estree.shaped_program` : programs of sources have the shape of ESTrees.
-/

namespace ImportScan

/-- The dialect that a grammar stands for. -/
def Grammar.dialect : Grammar → Script.Dialect
  | .javascript => .javascript
  | .typescript => .typescript
  | .tsx => .tsx

namespace Estree

/-! ## Programs of sources are shaped -/

theorem shaped_record {type : String} {fields : List (String × Datum)}
    (hshape : Shape (record type fields)) (hfields : ∀ f ∈ fields, Shaped f.2) :
    Shaped (record type fields) := by
  intro e he
  cases he with
  | refl => exact hshape
  | key hf hin =>
    rcases List.mem_cons.mp hf with rfl | hf
    · exact shaped_text _ e hin
    · obtain ⟨f, -, rfl⟩ := List.mem_map.mp hf
      exact shaped_text _ e hin
  | value hf hin =>
    rcases List.mem_cons.mp hf with rfl | hf
    · exact shaped_text _ e hin
    · obtain ⟨f, hmem, rfl⟩ := List.mem_map.mp hf
      exact hfields f hmem e hin

/-- A node of which the type alone is known. -/
theorem shaped_bare (type : String) : Shaped (record type []) :=
  shaped_record (.of_flat trivial trivial trivial) (List.forall_mem_nil _)

theorem shaped_literal (source : Text) (n : Cst.Node) : Shaped (literal source n) := by
  refine shaped_record (.of_flat trivial trivial trivial) fun f hf => ?_
  cases List.mem_singleton.mp hf
  exact shaped_text _

theorem shaped_identifier (source : Text) (n : Cst.Node) : Shaped (identifier source n) := by
  refine shaped_record (.of_flat trivial trivial trivial) fun f hf => ?_
  cases List.mem_singleton.mp hf
  exact shaped_text _

/-- What is made of a child that may be missing. -/
theorem shaped_getD {child : Option Cst.Node} {f : Cst.Node → Datum} {d : Datum}
    (hf : ∀ n, Shaped (f n)) (hd : Shaped d) : Shaped ((child.map f).getD d) := by
  cases child with
  | none => exact hd
  | some n => exact hf n

theorem shaped_importSpecifier (source : Text) (spec : Cst.Node) :
    Shaped (importSpecifier source spec) := by
  have hname : Shaped (((spec.child? .name).map (identifier source)).getD .null) :=
    shaped_getD (shaped_identifier source) shaped_null
  refine shaped_record (.of_flat trivial trivial trivial) ?_
  exact List.forall_mem_cons.mpr
    ⟨shaped_getD (shaped_identifier source) hname, List.forall_mem_singleton.mpr hname⟩

/-- The source of a declaration is a literal, or null when it is missing. -/
theorem sourceValue_flat (source : Text) (child : Option Cst.Node) :
    (((child.map (literal source)).getD .null).field "value").Flat := by
  cases child <;> trivial

theorem shaped_importDeclaration (source : Text) (statement : Cst.Node) :
    Shaped (importDeclaration source statement) := by
  have hsource := sourceValue_flat source (statement.child? .source)
  refine shaped_record (.of_flat trivial hsource trivial) ?_
  refine List.forall_mem_cons.mpr ⟨shaped_list fun d hd => ?_,
    List.forall_mem_singleton.mpr (shaped_getD (shaped_literal source) shaped_null)⟩
  simp only [importSpecifiers, List.mem_flatMap, List.mem_map] at hd
  obtain ⟨_, _, _, _, spec, _, rfl⟩ := hd
  exact shaped_importSpecifier source spec

theorem shaped_segment (source : Text) (start stop : Nat) :
    Shaped (quasis.segment source start stop) := by
  refine shaped_record (.of_flat trivial trivial trivial) (List.forall_mem_singleton.mpr ?_)
  -- the value of a segment is a map with the cooked text alone
  rintro e (_ | _ | ⟨hf, hin⟩ | ⟨hf, hin⟩)
  · exact .of_flat trivial trivial trivial
  · cases List.mem_singleton.mp hf
    exact shaped_text _ e hin
  · cases List.mem_singleton.mp hf
    exact shaped_text _ e hin

theorem shaped_quasis (source : Text) (stop start : Nat) (holes : List Cst.Node) :
    ∀ d ∈ quasis source stop start holes, Shaped d := by
  induction holes generalizing start with
  | nil => exact List.forall_mem_singleton.mpr (shaped_segment source start stop)
  | cons hole rest ih =>
    exact List.forall_mem_cons.mpr ⟨shaped_segment source start hole.start, ih hole.stop⟩

theorem shaped_only {items : List Datum} (h : ∀ d ∈ items, Shaped d) : Shaped (only items) := by
  cases items with
  | nil => exact shaped_null
  | cons d rest => exact h d List.mem_cons_self

/-- A node without a shape of its own. -/
theorem shaped_children (type : String) {items : List Datum} (h : ∀ d ∈ items, Shaped d) :
    Shaped (record type [("children", .list items)]) :=
  shaped_record (.of_flat trivial trivial trivial) (List.forall_mem_singleton.mpr (shaped_list h))

theorem shaped_call {callee : Datum} {rest : List Datum} (h : ∀ d ∈ callee :: rest, Shaped d) :
    Shaped (record "CallExpression"
      [("callee", callee),
       ("arguments", ((rest.head?).map (·.field "children")).getD (.list []))]) := by
  obtain ⟨hcallee, hrest⟩ := List.forall_mem_cons.mp h
  refine shaped_record (.of_flat trivial trivial trivial)
    (List.forall_mem_cons.mpr ⟨hcallee, List.forall_mem_singleton.mpr ?_⟩)
  cases rest with
  | nil => exact shaped_list fun _ hd => absurd hd (by simp)
  | cons args _ => exact (hrest args List.mem_cons_self).field "children"

mutual

theorem shaped_ofNode (source : Text) : ∀ n : Cst.Node, Shaped (ofNode source n)
  | .mk info children => by
    have hchildren := shaped_ofNodes source children
    rw [ofNode]
    split
    · exact shaped_importDeclaration source _
    · -- an export, with or without a source
      split
      · exact shaped_bare _
      · refine shaped_record (.of_flat trivial (sourceValue_flat source _) trivial) ?_
        exact List.forall_mem_cons.mpr ⟨shaped_list hchildren,
          List.forall_mem_singleton.mpr (shaped_getD (shaped_literal source) shaped_null)⟩
    · -- a call, unless it has no callee
      split
      · next callee rest heq =>
        rw [heq] at hchildren
        exact shaped_call hchildren
      · exact shaped_null
    · exact shaped_bare _
    · exact shaped_identifier source _
    · exact shaped_literal source _
    · refine shaped_record (.of_flat trivial trivial trivial) ?_
      exact List.forall_mem_cons.mpr ⟨shaped_list (shaped_quasis source _ _ _),
        List.forall_mem_singleton.mpr (shaped_list hchildren)⟩
    · exact shaped_only hchildren
    · split
      · exact shaped_only hchildren
      · exact shaped_children _ hchildren
    · exact shaped_children _ hchildren

theorem shaped_ofNodes (source : Text) : ∀ ns : List Cst.Node, ∀ d ∈ ofNodes source ns, Shaped d
  | [] => by simp [ofNodes]
  | n :: ns => by
    rw [ofNodes]
    split
    · exact shaped_ofNodes source ns
    · exact List.forall_mem_cons.mpr ⟨shaped_ofNode source n, shaped_ofNodes source ns⟩

end

theorem shaped_program {jsx : Bool} {source : Text} {program : Datum}
    (h : program? jsx source = some program) : Shaped program := by
  unfold program? at h
  split at h
  split at h
  · cases h
  · cases h
    refine shaped_record (.of_flat trivial trivial trivial) fun f hf => ?_
    cases List.mem_singleton.mp hf
    exact shaped_list (shaped_ofNodes source _)

end Estree

/-- Sources are parsed as scripts.  Of the options of the ESTree parser only the one for JSX
    makes a difference, and every source that it rejects is rejected at its first place. -/
instance scriptParsers : Parsers where
  tree g source := Script.parse g.dialect source
  program options source :=
    match Estree.program? (options.get "jsx").truthy source with
    | some program => .ok program
    | none => .error (SyntaxFault.unexpected 0 0).message
  shaped := by
    intro options source program h
    split at h
    · next hprogram =>
      cases h
      exact Estree.shaped_program hprogram
    · cases h

end ImportScan
