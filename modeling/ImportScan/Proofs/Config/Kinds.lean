import ImportScan.Config.File
import ImportScan.Proofs.Config.Layers

/-! # Kinds of settings

    A configuration that could be made has a value of its kind for every setting, and texts that
    override settings leave it so.

    * `Setting.Kind`  : the values that a setting may have.
    * `Config.Usable` : a configuration in which every setting has such a value.
    * `Config.load_usable`, `Config.override_usable` : configurations are usable.
-/

namespace ImportScan

namespace Setting

variable {s : Setting} {raw d : Datum} {t : Text}

/-- The values that a setting may have. -/
def Kind (s : Setting) (d : Datum) : Prop :=
  match s with
  | .extensions => ∃ ts : List Text, d = .list (ts.map .text)
  | .version => ∃ n, d = .int n
  | .debounce => ∃ x, d = .real x
  | .treeType | .outputDir => d = .null ∨ ∃ t, d = .text t
  | _ => ∃ t, d = .text t

theorem default_kind (s : Setting) : s.Kind s.default := by
  cases s with
  | treeType | outputDir => exact .inl rfl
  | _ => exact ⟨_, rfl⟩

theorem splitExtensions_kind (h : splitExtensions raw = .ok d) : Kind .extensions d := by
  unfold splitExtensions at h
  split at h
  · cases h
    exact ⟨_, rfl⟩
  · split at h
    · obtain ⟨ts, -, rfl⟩ := map_eq_ok.mp h
      exact ⟨_, rfl⟩
    · cases h

theorem toInt_kind (h : toInt raw = .ok d) : Kind .version d := by
  unfold toInt at h
  split at h
  case h_6 =>
    -- a text that is read as a number
    split at h
    · exact ⟨_, (Except.ok.inj h).symm⟩
    · cases h
  all_goals first | exact ⟨_, (Except.ok.inj h).symm⟩ | cases h

theorem toReal_kind (h : toReal raw = .ok d) : Kind .debounce d := by
  unfold toReal at h
  split at h
  case h_3 =>
    -- an integer, which may be too large
    split at h
    · cases h
    · exact ⟨_, (Except.ok.inj h).symm⟩
  case h_4 =>
    split at h
    · exact ⟨_, (Except.ok.inj h).symm⟩
    · cases h
  all_goals first | exact ⟨_, (Except.ok.inj h).symm⟩ | cases h

/-- A cast gives a value of the setting's kind. -/
theorem cast_kind (h : s.cast raw = .ok d) : s.Kind d := by
  cases s with
  | extensions => exact splitExtensions_kind h
  | version => exact toInt_kind h
  | debounce => exact toReal_kind h
  | treeType | outputDir =>
    obtain ⟨t, -, rfl⟩ := map_eq_ok.mp h
    exact .inr ⟨_, rfl⟩
  | _ =>
    obtain ⟨t, -, rfl⟩ := map_eq_ok.mp h
    exact ⟨_, rfl⟩

/-- So does a text in place of the value of a setting that is no number. -/
theorem replacement_kind (hversion : s ≠ .version) (hdebounce : s ≠ .debounce)
    (h : s.replacement (.text t) = .ok d) : s.Kind d := by
  cases s with
  | extensions =>
    have hsplit : splitExtensions (.text t) = .ok d := h
    exact splitExtensions_kind hsplit
  | version => exact absurd rfl hversion
  | debounce => exact absurd rfl hdebounce
  | treeType | outputDir =>
    cases h
    exact .inr ⟨_, rfl⟩
  | _ =>
    cases h
    exact ⟨_, rfl⟩

end Setting

/-- Extensions of their kind are taken, all of them. -/
theorem Package.checkExtensions_texts (ts : List Text) :
    checkExtensions (.list (ts.map .text)) = .ok (ts.map normalExtension) := by
  simp only [checkExtensions, Datum.items?]
  induction ts with
  | nil => rfl
  | cons t ts ih =>
    rw [List.map_cons, List.mapM_cons, ih]
    rfl

namespace Config

variable {env : Environment} {file : List (Datum × Datum)} {s : Setting} {c c' : Config}
  {key : Text} {value d : Datum} {os : List (Text × Datum)} {r : Option Fault}

/-- Every setting has a value of its kind, and the options of the parser are a mapping. -/
structure Usable (c : Config) : Prop where
  kind : ∀ s : Setting, s.Kind (c.get s)
  options : ∃ es, c.options = .map es

theorem fileOptions_map (file : List (Datum × Datum)) : ∃ es, fileOptions file = .map es := by
  unfold fileOptions
  split
  · exact ⟨_, rfl⟩
  · exact ⟨[], rfl⟩

theorem make_usable (h : make env file = .ok c) : Usable c where
  kind := by
    intro s
    generalize hd : c.get s = d
    have hresolves := hd ▸ make_get h s
    generalize hr : Except.ok d = r at hresolves
    cases hresolves with
    | ofVariable => exact Setting.cast_kind hr.symm
    | ofFile => exact Setting.cast_kind hr.symm
    | ofDefault =>
      cases hr
      exact s.default_kind
  options := by
    rw [make] at h
    simp only [bind_eq_ok, pure_eq_ok] at h
    obtain ⟨values, -, rfl⟩ := h
    exact fileOptions_map file

/-- A configuration that was loaded is usable. -/
theorem load_usable [Platform] {h : Host} {disk : Disk} {explicit : Option Text}
    (hload : (load h disk explicit).1 = .ok c) : Usable c := by
  unfold load at hload
  split at hload
  · exact make_usable hload
  · split at hload
    · exact make_usable hload
    · cases hload

theorem overrideOne_keeps_options (h : c.overrideOne key value = .ok c')
    (hkey : key.upper ≠ Target.options.capitals) : c'.options = c.options := by
  rcases overrideOne_cases h with ⟨-, rfl⟩ | ⟨hname, -⟩ | ⟨s, d, -, -, -, rfl⟩
  · rfl
  · exact absurd hname hkey
  · rfl

theorem override_keeps_options (h : c.override os = (c', r))
    (hkeys : ∀ o ∈ os, o.1.upper ≠ Target.options.capitals) : c'.options = c.options := by
  induction os generalizing c with
  | nil =>
    cases h
    rfl
  | cons o os ih =>
    obtain ⟨hkey, hkeys⟩ := List.forall_mem_cons.mp hkeys
    simp only [override] at h
    cases hone : c.overrideOne o.1 o.2 with
    | ok c₁ =>
      rw [hone] at h
      exact (ih h hkeys).trans (overrideOne_keeps_options hone hkey)
    | error f =>
      rw [hone] at h
      cases h
      rfl

/-- Texts in place of settings that are no numbers leave a configuration usable. -/
theorem override_usable (husable : Usable c) (haccepted : Accepted os)
    (hvalues : ∀ o ∈ os, o.2 = .null ∨ ∃ t, o.2 = .text t)
    (hkeys : ∀ o ∈ os, o.1.upper ≠ Setting.version.capitals
      ∧ o.1.upper ≠ Setting.debounce.capitals ∧ o.1.upper ≠ Target.options.capitals) :
    ∃ c', c.override os = (c', none) ∧ Usable c' := by
  obtain ⟨c', hc', hget⟩ := override_accepted haccepted c
  have hoptions := override_keeps_options hc' fun o ho => (hkeys o ho).2.2
  refine ⟨c', hc', fun s => ?_, hoptions ▸ husable.options⟩
  generalize hd : c'.get s = d
  have hover := hd ▸ hget s
  cases hover with
  | @replaced key value _ hmem hkey hvalue h =>
    obtain ⟨hversion, hdebounce, -⟩ := hkeys _ hmem
    rcases hvalues _ hmem with hnull | ⟨t, rfl⟩
    · exact absurd hnull hvalue
    · refine Setting.replacement_kind ?_ ?_ h
      · rintro rfl
        exact hversion hkey
      · rintro rfl
        exact hdebounce hkey
  | kept _ hbelow => exact hbelow ▸ husable.kind s

end Config

end ImportScan
