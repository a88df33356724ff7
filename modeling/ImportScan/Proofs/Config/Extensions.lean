import ImportScan.Proofs.Config.Kinds
import ImportScan.Proofs.Path.Components
import ImportScan.Proofs.Text.Case
import ImportScan.Proofs.Text.Trim

/-! # Extensions of a package

    The extensions in a setting are trimmed and lowered, and as a setting of their own they give
    themselves again.  There is one exception: the dots are taken off after the white space, and
    nobody looks at what is left.  A piece with nothing or with white space behind its dots gives
    an extension that is empty or starts with white space, which does not give itself again.

    * `Package.ProperExtension` : an extension as it should be.
    * `Setting.Spoilt`          : a piece of a setting that gives no such extension.
    * `Config.Given`            : a configuration in which a text is the setting.
    * `Config.package_extensions`     : the extensions of its package.
    * `Config.extensions_stable_iff`  : whether they are proper, and give themselves again.
-/

namespace ImportScan

open Unicode

namespace Package

variable {e : Text}

/-- An extension as it should be: there is something in it, no dot at its start and no white space
    at its ends. -/
structure ProperExtension (e : Text) : Prop where
  ne_nil : e ≠ []
  no_dot : ∀ c ∈ e.head?, c.is '.' = false
  unpadded : e.strip = e

instance : Decidable (ProperExtension e) :=
  decidable_of_iff (e ≠ [] ∧ e.trimStart (·.is '.') = e ∧ e.strip = e)
    ⟨fun h => ⟨h.1, Text.trimStart_eq_self_iff.mp h.2.1, h.2.2⟩,
      fun h => ⟨h.ne_nil, Text.trimStart_eq_self_iff.mpr h.no_dot, h.unpadded⟩⟩

/-- A lowered text that starts with no dot and ends with no white space is proper unless there is
    nothing in it or white space at its start. -/
theorem properExtension_lower_iff {body : Text} (hdot : ∀ c ∈ body.head?, c.is '.' = false)
    (hlast : ∀ c ∈ body.getLast?, blank.contains c = false) :
    ProperExtension body.lower ↔ ∃ c ∈ body.head?, blank.contains c = false := by
  constructor
  · intro h
    have hne : body ≠ [] := fun hnil => h.ne_nil (Text.lower_eq_nil_iff.mpr hnil)
    obtain ⟨c, rest, rfl⟩ := List.exists_cons_of_ne_nil hne
    have hfirst := (Text.trim_eq_self_iff.mp h.unpadded).1
    exact ⟨c, rfl, (Text.forall_head?_lower caseless_blank false).mp hfirst c rfl⟩
  · rintro ⟨c, hc, hblank⟩
    have hne : body ≠ [] := by
      rintro rfl
      cases hc
    -- both ends of the text pass or fail before lowering as they do after it
    refine ⟨fun hnil => hne (Text.lower_eq_nil_iff.mp hnil), ?_, ?_⟩
    · exact (Text.forall_head?_lower (.of_char (by decide)) false).mpr hdot
    · refine Text.trim_eq_self_iff.mpr ⟨?_, ?_⟩
      · refine (Text.forall_head?_lower caseless_blank false).mpr fun d hd => ?_
        rwa [Option.mem_unique hd hc]
      · exact (Text.forall_getLast?_lower caseless_blank false).mpr hlast

end Package

namespace Setting

open Package

variable {piece t e : Text}

/-- What separates extensions. -/
abbrev comma : CodePoint := CodePoint.ofChar ','

/-! ## One piece -/

/-- The extension that a piece of the setting gives. -/
def extensionOf (piece : Text) : Text := (piece.strip.trimStart (·.is '.')).lower

/-- A piece of the setting that has dots, and then nothing or white space. -/
def Spoilt (piece : Text) : Prop :=
  ∃ dots rest, piece.strip = dots ++ rest ∧ dots ≠ [] ∧ (∀ c ∈ dots, c.is '.' = true)
    ∧ ∀ c ∈ rest.head?, blank.contains c = true

theorem normalExtension_trimStart (piece : Text) :
    normalExtension (piece.strip.trimStart (·.is '.')) = extensionOf piece := by
  rw [normalExtension, Text.trimStart_eq_self_iff.mpr fun c hc => Text.head?_trimStart hc]
  rfl

/-- White space is no dot. -/
theorem not_dot_of_blank {c : CodePoint} (h : blank.contains c = true) : c.is '.' = false := by
  rw [Bool.eq_false_iff]
  intro hdot
  have hc : c = CodePoint.ofChar '.' := Fin.ext (eq_of_beq hdot)
  rw [hc] at h
  revert h
  decide +kernel

/-- A piece is spoilt exactly if what is left of it without dots is nothing or starts with white
    space. -/
theorem spoilt_iff (hpiece : piece.strip ≠ []) :
    Spoilt piece ↔ ∀ c ∈ (piece.strip.trimStart (·.is '.')).head?, blank.contains c = true := by
  constructor
  · rintro ⟨dots, rest, hsplit, -, hdots, hrest⟩
    -- all the dots are taken off, and nothing else
    have hstay : rest.dropWhile (·.is '.') = rest :=
      Text.trimStart_eq_self_iff.mpr fun c hc => not_dot_of_blank (hrest c hc)
    rw [hsplit, Text.trimStart, List.dropWhile_append_of_pos hdots, hstay]
    exact hrest
  · intro hblank
    refine ⟨piece.strip.takeWhile (·.is '.'), piece.strip.dropWhile (·.is '.'),
      List.takeWhile_append_dropWhile.symm, fun hnone => ?_, ?_, hblank⟩
    · -- without dots the piece would start with white space, but it has been trimmed
      have hwhole : piece.strip.trimStart (·.is '.') = piece.strip := by
        have hparts := List.takeWhile_append_dropWhile (p := (·.is '.')) (l := piece.strip)
        rwa [hnone, List.nil_append] at hparts
      rw [hwhole] at hblank
      obtain ⟨c, rest, hcons⟩ := List.exists_cons_of_ne_nil hpiece
      have hc : c ∈ piece.strip.head? := by rw [hcons]; rfl
      have hin := hblank c hc
      rw [Text.head?_trim hc] at hin
      cases hin
    · intro c hc
      exact List.mem_takeWhile_imp (p := fun c : CodePoint => c.is '.') hc

/-- Taking off dots leaves the end of a piece as it is, which is no white space. -/
theorem getLast?_trimStart_strip {c : CodePoint}
    (hc : c ∈ (piece.strip.trimStart (·.is '.')).getLast?) : blank.contains c = false := by
  have hsuffix : piece.strip.trimStart (·.is '.') <:+ piece.strip := Text.trimStart_isSuffix _ _
  exact Text.getLast?_trim (Text.getLast?_of_isSuffix hsuffix hc)

theorem proper_extensionOf_iff (hpiece : piece.strip ≠ []) :
    ProperExtension (extensionOf piece) ↔ ¬ Spoilt piece := by
  rw [extensionOf, properExtension_lower_iff (fun c hc => Text.head?_trimStart hc)
    (fun c hc => getLast?_trimStart_strip hc), spoilt_iff hpiece]
  simp

/-- Every extension starts with no dot and ends with no white space, spoilt or not. -/
theorem ends_extensionOf (piece : Text) :
    (∀ c ∈ (extensionOf piece).head?, c.is '.' = false)
      ∧ ∀ c ∈ (extensionOf piece).getLast?, blank.contains c = false := by
  constructor
  · apply (Text.forall_head?_lower (.of_char (by decide)) false).mpr
    intro c hc
    exact Text.head?_trimStart hc
  · apply (Text.forall_getLast?_lower caseless_blank false).mpr
    intro c hc
    exact getLast?_trimStart_strip hc

/-- A lowered text is a piece that gives itself exactly if it is a proper extension. -/
theorem extensionOf_eq_self_iff (hlowered : ∀ c ∈ e, Lowered c) :
    e.strip ≠ [] ∧ extensionOf e = e ↔ ProperExtension e := by
  have hstrip : e.strip <:+: e := Text.trim_isInfix _ e
  have hsuffix : e.strip.trimStart (·.is '.') <:+ e.strip := Text.trimStart_isSuffix _ _
  have hlower : extensionOf e = e.strip.trimStart (·.is '.') :=
    Text.lower_eq_self fun c hc => hlowered c (hstrip.subset (hsuffix.subset hc))
  rw [hlower]
  constructor
  · rintro ⟨hne, hself⟩
    -- nothing is taken off, so there is neither white space nor a dot to take off
    have hlength : e.strip.length = e.length := by
      apply Nat.le_antisymm hstrip.length_le
      rw [← congrArg List.length hself]
      exact hsuffix.length_le
    have hunpadded : e.strip = e := hstrip.eq_of_length hlength
    rw [hunpadded] at hne hself
    exact ⟨hne, Text.trimStart_eq_self_iff.mp hself, hunpadded⟩
  · intro h
    rw [h.unpadded]
    exact ⟨h.ne_nil, Text.trimStart_eq_self_iff.mpr h.no_dot⟩

/-! ## The whole setting -/

/-- A setting without a spoilt piece. -/
def Sound (t : Text) : Prop := ∀ piece ∈ t.splitOn comma, ¬ Spoilt piece

/-- The extensions that a setting gives: one for every piece that is not blank. -/
def namedExtensions (t : Text) : List Text :=
  ((t.splitOn comma).filter fun piece => !piece.strip.isEmpty).map extensionOf

theorem map_normalExtension_trimExtensions (t : Text) :
    (trimExtensions (t.splitOn comma)).map normalExtension = namedExtensions t := by
  rw [trimExtensions, List.map_map, namedExtensions]
  exact List.map_congr_left fun piece _ => normalExtension_trimStart piece

theorem mem_namedExtensions :
    e ∈ namedExtensions t ↔ ∃ piece ∈ t.splitOn comma, piece.strip ≠ [] ∧ extensionOf piece = e := by
  simp [namedExtensions, and_assoc]

/-- A blank piece is not spoilt, so a setting is sound exactly if its extensions are proper. -/
theorem forall_proper_iff : (∀ e ∈ namedExtensions t, ProperExtension e) ↔ Sound t := by
  constructor
  · intro h piece hpiece hspoilt
    have hne : piece.strip ≠ [] := by
      obtain ⟨dots, rest, hsplit, hdots, -⟩ := hspoilt
      rw [hsplit]
      exact List.append_ne_nil_of_left_ne_nil hdots rest
    have hproper := h _ (mem_namedExtensions.mpr ⟨piece, hpiece, hne, rfl⟩)
    exact (proper_extensionOf_iff hne).mp hproper hspoilt
  · intro h e he
    obtain ⟨piece, hpiece, hne, rfl⟩ := mem_namedExtensions.mp he
    exact (proper_extensionOf_iff hne).mpr (h piece hpiece)

theorem lowered_of_mem_namedExtensions (he : e ∈ namedExtensions t) : ∀ c ∈ e, Lowered c := by
  obtain ⟨piece, -, -, rfl⟩ := mem_namedExtensions.mp he
  exact fun c hc => Text.lowered_of_mem_lower hc

/-- No comma comes out of lowering a piece, which has none. -/
theorem comma_notMem_of_mem_namedExtensions (he : e ∈ namedExtensions t) : comma ∉ e := by
  obtain ⟨piece, hpiece, -, rfl⟩ := mem_namedExtensions.mp he
  intro hcomma
  have hcaseless : Caseless (·.is ',') := .of_char (by decide)
  -- a comma of the lowered text was one before
  obtain ⟨c, hc, hsame⟩ := hcaseless.exists_of_mem_lowerFrom [] hcomma
  have hc' : c = comma := Fin.ext (eq_of_beq (hsame.symm.trans (by decide)))
  rw [hc'] at hc
  refine Text.notMem_of_mem_splitOn hpiece ?_
  exact (Text.trim_isInfix _ piece).subset ((Text.trimStart_isSuffix _ _).subset hc)

/-- Members that pass a test and are mapped to themselves. -/
theorem map_filter_eq_self_iff {α : Type} {l : List α} {q : α → Bool} {f : α → α} :
    (l.filter q).map f = l ↔ ∀ x ∈ l, q x = true ∧ f x = x := by
  constructor
  · intro h
    have hlength : (l.filter q).length = l.length := by
      rw [← congrArg List.length h, List.length_map]
    -- nothing is filtered out, since something would be missing from the image
    have hall : ∀ x ∈ l, q x = true := List.length_filter_eq_length_iff.mp hlength
    rw [List.filter_eq_self.mpr hall] at h
    have hself : ∀ x ∈ l, f x = id x := List.map_inj_left.mp (h.trans (List.map_id l).symm)
    exact fun x hx => ⟨hall x hx, hself x hx⟩
  · intro h
    rw [List.filter_eq_self.mpr fun x hx => (h x hx).1]
    exact (List.map_congr_left fun x hx => (h x hx).2).trans (List.map_id l)

/-- The extensions of a setting, joined with commas, give themselves exactly if the setting is
    sound. -/
theorem namedExtensions_join_iff :
    namedExtensions (Text.join [comma] (namedExtensions t)) = namedExtensions t ↔ Sound t := by
  rw [← forall_proper_iff]
  by_cases hnone : namedExtensions t = []
  · -- an empty setting has one piece, which is blank
    rw [hnone]
    have hempty : namedExtensions (Text.join [comma] []) = [] := by decide +kernel
    simp [hempty]
  · -- the joined text is split into the extensions again, so each of them is a piece
    have hsplit := Text.splitOn_join hnone fun e => comma_notMem_of_mem_namedExtensions
    rw [namedExtensions, hsplit, map_filter_eq_self_iff]
    refine forall₂_congr fun e he => ?_
    rw [← extensionOf_eq_self_iff (lowered_of_mem_namedExtensions he)]
    simp

end Setting

namespace Config

open Package Setting

variable {t u : Text} {c c' : Config} {p : Package} {cwd root : Text}

/-! ## Where a setting comes from -/

/-- A configuration in which a text is the extensions: it is their variable, or without one their
    entry in the file, or it overrides what they were, and no later override replaces it. -/
inductive Given (t : Text) : Config → Prop where
  | ofVariable {env : Environment} {file : List (Datum × Datum)} {c : Config}
      (hmake : make env file = .ok c)
      (hset : env.get? Setting.extensions.variableName = some t) : Given t c
  | ofFile {env : Environment} {file : List (Datum × Datum)} {c : Config}
      (hmake : make env file = .ok c)
      (hunset : env.get? Setting.extensions.variableName = none)
      (hentry : Datum.lookup file (.text Setting.extensions.key) = .text t) : Given t c
  | ofOverride {c c' : Config} {key : Text} (hkey : key.upper = Setting.extensions.capitals)
      (hover : c.overrideOne key (.text t) = .ok c') : Given t c'
  | kept {c c' : Config} {key : Text} {value : Datum} (hgiven : Given t c)
      (hother : key.upper = Setting.extensions.capitals → value = .null)
      (hover : c.overrideOne key value = .ok c') : Given t c'

theorem splitExtensions_text (t : Text) :
    splitExtensions (.text t) = .ok (.list ((trimExtensions (t.splitOn comma)).map .text)) := rfl

/-- What a setting resolves to is its value. -/
theorem resolves_get {env : Environment} {file : List (Datum × Datum)} {s : Setting}
    {r : Except Fault Datum} (hmake : make env file = .ok c) (h : Resolves env file s r) :
    r = .ok (c.get s) :=
  (resolves_iff.mp h).symm.trans (resolves_iff.mp (make_get hmake s))

/-- However it is given, the setting is split and trimmed. -/
theorem Given.get_extensions (h : Given t c) :
    splitExtensions (.text t) = .ok (c.get .extensions) := by
  induction h with
  | ofVariable hmake hset => exact resolves_get hmake (.ofVariable hset)
  | ofFile hmake hunset hentry => exact resolves_get hmake (.ofFile hunset hentry nofun)
  | ofOverride hkey hover =>
    rcases overrideOne_get hover .extensions with ⟨-, -, hreplaced⟩ | ⟨hnull, -⟩
    · exact hreplaced
    · cases hnull hkey
  | kept _ hother hover ih =>
    rcases overrideOne_get hover .extensions with ⟨hkey, hvalue, -⟩ | ⟨-, hsame⟩
    · exact absurd (hother hkey) hvalue
    · rw [hsame]
      exact ih

/-! ## The package -/

theorem package_texts {ts : List Text} (hget : c.get .extensions = .list (ts.map .text))
    (h : c.package cwd root = .ok p) : p.extensions = ts.map normalExtension := by
  simp only [package, ofSettings, hget, checkExtensions_texts, bind_eq_ok, pure_eq_ok] at h
  obtain ⟨options, -, parser, -, tree, -, extensions, hextensions, rfl⟩ := h
  exact (Except.ok.inj hextensions).symm

/-- A package of other extensions is the same otherwise. -/
theorem package_set_texts (h : c.package cwd root = .ok p) (ts : List Text) :
    (c.set .extensions (.list (ts.map .text))).package cwd root
      = .ok { p with extensions := ts.map normalExtension } := by
  have hsame : ∀ s : Setting, s ≠ .extensions →
      (c.set .extensions (.list (ts.map .text))).get s = c.get s :=
    fun s hs => get_set_ne c _ hs
  have hoptions : (c.set .extensions (.list (ts.map .text))).options = c.options := rfl
  simp only [package, ofSettings, bind_eq_ok, pure_eq_ok] at h ⊢
  obtain ⟨options, hopt, parser, hparser, tree, htree, extensions, -, rfl⟩ := h
  rw [get_set_self, hsame .name (by decide), hsame .parser (by decide),
    hsame .version (by decide), hsame .treeType (by decide), hoptions]
  exact ⟨options, hopt, parser, hparser, tree, htree, _, checkExtensions_texts ts, rfl⟩

/-- The extensions of a package are those that the setting names. -/
theorem package_extensions (hgiven : Given t c) (h : c.package cwd root = .ok p) :
    p.extensions = namedExtensions t := by
  have hget := Except.ok.inj (hgiven.get_extensions.symm.trans (splitExtensions_text t))
  rw [package_texts hget h, map_normalExtension_trimExtensions]

/-- Every text can be given as the extensions, and a package stays one. -/
theorem exists_given (h : c.package cwd root = .ok p) (u : Text) :
    ∃ c', Given u c'
      ∧ c'.package cwd root = .ok { p with extensions := namedExtensions u } := by
  have hkey : Setting.extensions.key.upper = Setting.extensions.capitals := upper_key .extensions
  have hover : c.overrideOne Setting.extensions.key (.text u)
      = .ok (c.set .extensions (.list ((trimExtensions (u.splitOn comma)).map .text))) :=
    overrideOne_setting hkey nofun
  refine ⟨_, .ofOverride hkey hover, ?_⟩
  rw [package_set_texts h, map_normalExtension_trimExtensions]

/-- The extensions of a package, for a setting given in any way.  None of them starts with a dot
    or ends with white space.  They are proper, and give themselves when they are joined with
    commas and given as the setting again, exactly if no piece of the setting has nothing or
    white space behind its dots. -/
theorem extensions_stable_iff (hgiven : Given t c) (hpackage : c.package cwd root = .ok p) :
    (∀ e ∈ p.extensions, (∀ x ∈ e.head?, x.is '.' = false)
        ∧ ∀ x ∈ e.getLast?, blank.contains x = false)
      ∧ ((∀ e ∈ p.extensions, ProperExtension e) ↔ Sound t)
      ∧ (∃ c' p', Given (Text.join [comma] p.extensions) c' ∧ c'.package cwd root = .ok p')
      ∧ ∀ c' cwd' root' p', Given (Text.join [comma] p.extensions) c' →
          c'.package cwd' root' = .ok p' → (p'.extensions = p.extensions ↔ Sound t) := by
  have hextensions := package_extensions hgiven hpackage
  refine ⟨?_, ?_, ?_, ?_⟩
  · intro e he
    rw [hextensions] at he
    obtain ⟨piece, -, -, rfl⟩ := mem_namedExtensions.mp he
    exact ends_extensionOf piece
  · rw [hextensions]
    exact forall_proper_iff
  · obtain ⟨c', hgiven', hpackage'⟩ := exists_given hpackage (Text.join [comma] p.extensions)
    exact ⟨c', _, hgiven', hpackage'⟩
  · intro c' cwd' root' p' hgiven' hpackage'
    rw [package_extensions hgiven' hpackage', hextensions]
    exact namedExtensions_join_iff

/-! A setting with blanks, a dot and capitals, and one in which nothing and white space stand
    behind dots. -/

/-- Every text is the setting of some package. -/
theorem exists_package (t : Text) :
    ∃ c p, Given t c ∧ c.package "/w" "shop" = .ok p ∧ p.extensions = namedExtensions t := by
  have hsome : ((make [] []).bind fun c => c.package "/w" "shop").toOption.isSome := by
    decide +kernel
  obtain ⟨p, hp⟩ := Option.isSome_iff_exists.mp hsome
  obtain ⟨c, -, hpackage⟩ := bind_eq_ok.mp (eq_ok_of_toOption hp)
  obtain ⟨c', hgiven, hpackage'⟩ := exists_given hpackage t
  exact ⟨c', _, hgiven, hpackage', rfl⟩

theorem extensions_stable_listed :
    ∃ c p, Given "js, .TS" c ∧ c.package "/w" "shop" = .ok p
      ∧ p.extensions = [Text.ofString "js", Text.ofString "ts"]
      ∧ (∀ e ∈ p.extensions, ProperExtension e)
      ∧ ∀ c' cwd' root' p', Given (Text.join [comma] p.extensions) c' →
          c'.package cwd' root' = .ok p' → p'.extensions = p.extensions := by
  obtain ⟨c, p, hgiven, hpackage, hnamed⟩ := exists_package "js, .TS"
  have hextensions : p.extensions = [Text.ofString "js", Text.ofString "ts"] := by
    rw [hnamed]
    decide +kernel
  obtain ⟨-, hproper, -, hstable⟩ := extensions_stable_iff hgiven hpackage
  have hall : ∀ e ∈ p.extensions, ProperExtension e := by
    rw [hextensions]
    decide +kernel
  refine ⟨c, p, hgiven, hpackage, hextensions, hall, ?_⟩
  intro c' cwd' root' p' hgiven' hpackage'
  exact (hstable c' cwd' root' p' hgiven' hpackage').mpr (hproper.mp hall)

/-- Nothing is behind the first dot and white space behind the second: an empty extension comes
    out and one that starts with a blank, and given again they become one extension. -/
theorem extensions_unstable_dots :
    ∃ c p, Given "., . ts" c ∧ c.package "/w" "shop" = .ok p
      ∧ p.extensions = [Text.ofString "", Text.ofString " ts"]
      ∧ (∀ e ∈ p.extensions, ¬ ProperExtension e)
      ∧ ∃ c' p', Given (Text.join [comma] p.extensions) c' ∧ c'.package "/w" "shop" = .ok p'
        ∧ p'.extensions = [Text.ofString "ts"] := by
  obtain ⟨c, p, hgiven, hpackage, hnamed⟩ := exists_package "., . ts"
  have hextensions : p.extensions = [Text.ofString "", Text.ofString " ts"] := by
    rw [hnamed]
    decide +kernel
  obtain ⟨c', p', hgiven', hpackage', hnamed'⟩ := exists_package (Text.join [comma] p.extensions)
  refine ⟨c, p, hgiven, hpackage, hextensions, ?_, c', p', hgiven', hpackage', ?_⟩
  · rw [hextensions]
    decide +kernel
  · rw [hnamed', hextensions]
    decide +kernel

end Config

end ImportScan
