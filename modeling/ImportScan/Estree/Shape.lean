import ImportScan.Estree.Extract

/-! # The shape of ESTree programs

    A program may be any datum, but those that a parser gives follow the ESTree standard.  Of
    that standard only the kinds of a few fields matter here.

    * `Datum.Flat`    : the kinds that those fields have.
    * `Estree.Shape`  : what the standard says of one node.
    * `Estree.Shaped` : a datum all of whose parts are as the standard says.
-/

namespace ImportScan

/-- A text or null. -/
def Datum.Flat : Datum → Prop
  | .null => True
  | .text _ => True
  | _ => False

namespace Estree

/-- A datum that is, or is part of, another. -/
inductive Inside : Datum → Datum → Prop where
  | refl (d : Datum) : Inside d d
  | item {d e : Datum} {items : List Datum} : e ∈ items → Inside d e → Inside d (.list items)
  | key {d : Datum} {f : Datum × Datum} {entries : List (Datum × Datum)} :
      f ∈ entries → Inside d f.1 → Inside d (.map entries)
  | value {d : Datum} {f : Datum × Datum} {entries : List (Datum × Datum)} :
      f ∈ entries → Inside d f.2 → Inside d (.map entries)

/-- What the standard says of the parts of a node that records are made of: the name of an
    identifier, the source of a declaration, and the value of a text segment are texts, or null
    where they are missing. -/
structure Shape (d : Datum) : Prop where
  name : isOfType d "Identifier" = true → (d.field "name").Flat
  source : isOfType d "ImportDeclaration" = true ∨ isOfType d "ExportNamedDeclaration" = true →
    ((d.field "source").field "value").Flat
  cooked : ((d.field "value").field "cooked").Flat

/-- A datum has that shape if what the standard says of those fields holds whatever its type. -/
theorem Shape.of_flat {d : Datum} (hname : (d.field "name").Flat)
    (hsource : ((d.field "source").field "value").Flat)
    (hcooked : ((d.field "value").field "cooked").Flat) : Shape d :=
  ⟨fun _ => hname, fun _ => hsource, hcooked⟩

/-- Every part of the datum has that shape. -/
def Shaped (d : Datum) : Prop := ∀ e, Inside e d → Shape e

theorem Shaped.shape {d : Datum} (h : Shaped d) : Shape d := h d (.refl d)

theorem shaped_null : Shaped .null := by
  rintro e ⟨⟩
  exact .of_flat trivial trivial trivial

theorem shaped_text (t : Text) : Shaped (.text t) := by
  rintro e ⟨⟩
  exact .of_flat trivial trivial trivial

theorem shaped_list {items : List Datum} (h : ∀ d ∈ items, Shaped d) : Shaped (.list items) := by
  intro e he
  cases he with
  | refl => exact .of_flat trivial trivial trivial
  | item hmem hin => exact h _ hmem e hin

theorem Shaped.item {items : List Datum} {d : Datum} (h : Shaped (.list items)) (hd : d ∈ items) :
    Shaped d := fun e he => h e (.item hd he)

theorem Shaped.value {entries : List (Datum × Datum)} {f : Datum × Datum}
    (h : Shaped (.map entries)) (hf : f ∈ entries) : Shaped f.2 := fun e he => h e (.value hf he)

theorem Shaped.field {d : Datum} (h : Shaped d) (name : String) : Shaped (d.field name) := by
  cases d with
  | map entries =>
    show Shaped ((entries.find? fun e => e.1 == .str name).map (·.2) |>.getD .null)
    cases hfind : entries.find? fun e => e.1 == .str name with
    | none => exact shaped_null
    | some f => exact h.value (List.mem_of_find?_eq_some hfind)
  | _ => exact shaped_null

/-- The items that a part runs through are parts, or single code points. -/
theorem Shaped.items {d : Datum} {items : List Datum} (h : Shaped d)
    (hitems : d.items? = some items) : ∀ e ∈ items, Shaped e := by
  intro e he
  cases d with
  | text t =>
    cases hitems
    obtain ⟨c, -, rfl⟩ := List.mem_map.mp he
    exact shaped_text _
  | list xs =>
    cases hitems
    exact h.item he
  | map es =>
    cases hitems
    obtain ⟨f, hf, rfl⟩ := List.mem_map.mp he
    exact fun e he => h e (.key hf he)
  | _ => cases hitems

end Estree

end ImportScan
