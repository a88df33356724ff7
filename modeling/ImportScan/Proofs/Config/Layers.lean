import Mathlib.Data.List.Nodup
import ImportScan.Config.Basic
import ImportScan.Proofs.Fault

/-! # Layers of a configuration

    A setting is what its override says, else its variable, else the file, else its default, and
    no setting depends on what is said about another.

    * `Config.Resolves`   : what a setting is without overrides, or why it has no value.
    * `Config.Overridden` : what a setting is with overrides over what it is without them.
    * `Config.Accepted`   : overrides that name settings and can be applied.
    * `Config.Beside`     : two configurations that differ in what they say about one setting.
    * `Config.layers`     : configurations with and without overrides.
-/

namespace ImportScan

namespace Setting

variable {s t : Setting}

theorem mem_all (s : Setting) : s ∈ all := by cases s <;> decide

/-- A naming that tells all settings apart. -/
theorem injective_of_nodup {name : Setting → Text} (h : (all.map name).Nodup)
    (hname : name s = name t) : s = t :=
  List.inj_on_of_nodup_map h (mem_all s) (mem_all t) hname

theorem capitals_injective (h : s.capitals = t.capitals) : s = t :=
  injective_of_nodup (by decide) h

theorem key_injective (h : s.key = t.key) : s = t := injective_of_nodup (by decide) h

theorem variableName_injective (h : s.variableName = t.variableName) : s = t :=
  injective_of_nodup (by decide) h

/-- The key of a setting is its name in small letters. -/
theorem upper_key (s : Setting) : s.key.upper = s.capitals := by cases s <;> decide +kernel

/-- What an override makes of a setting: extensions are split, and anything else is taken as it
    is. -/
def replacement (s : Setting) (value : Datum) : Except Fault Datum :=
  if s = .extensions then splitExtensions value else .ok value

theorem mapM_toText (ts : List Text) : (ts.map Datum.text).mapM toText = .ok ts := by
  induction ts with
  | nil => rfl
  | cons t ts ih => exact mapM_cons_ok rfl ih

/-- A list of texts is split, whatever they are. -/
theorem splitExtensions_texts (ts : List Text) :
    splitExtensions (.list (ts.map .text)) = .ok (.list ((trimExtensions ts).map .text)) := by
  show ((ts.map Datum.text).mapM toText).map
    (fun us => Datum.list ((trimExtensions us).map .text)) = _
  rw [mapM_toText]
  rfl

end Setting

namespace Config

variable {env env' : Environment} {file file' : List (Datum × Datum)} {s t : Setting}
  {c c' : Config} {key : Text} {value d : Datum} {os os' : List (Text × Datum)}

/-! ## Without overrides -/

/-- What a setting is without overrides: its variable counts even if it is empty, then the file
    unless it says null, and then the default.  What counts is cast, which may fail. -/
inductive Resolves (env : Environment) (file : List (Datum × Datum)) (s : Setting) :
    Except Fault Datum → Prop where
  | ofVariable {t : Text} (h : env.get? s.variableName = some t) :
      Resolves env file s (s.cast (.text t))
  | ofFile {raw : Datum} (hunset : env.get? s.variableName = none)
      (h : Datum.lookup file (.text s.key) = raw) (hvalue : raw ≠ .null) :
      Resolves env file s (s.cast raw)
  | ofDefault (hunset : env.get? s.variableName = none)
      (h : Datum.lookup file (.text s.key) = .null) : Resolves env file s (.ok s.default)

theorem raw_of_set {t : Text} (h : env.get? s.variableName = some t) :
    raw env file s = .text t := by rw [raw, h]

theorem raw_of_unset (h : env.get? s.variableName = none) :
    raw env file s = Datum.lookup file (.text s.key) := by rw [raw, h]

theorem resolve_cast (h : raw env file s = d) (hd : d ≠ .null) :
    resolve env file s = s.cast d := by
  subst h
  unfold resolve
  split
  · contradiction
  · rfl

theorem resolve_default (h : raw env file s = .null) : resolve env file s = .ok s.default := by
  rw [resolve, h]

theorem resolves_resolve (env : Environment) (file : List (Datum × Datum)) (s : Setting) :
    Resolves env file s (resolve env file s) := by
  cases hvariable : env.get? s.variableName with
  | some t =>
    rw [resolve_cast (raw_of_set hvariable) nofun]
    exact .ofVariable hvariable
  | none =>
    have hraw : raw env file s = Datum.lookup file (.text s.key) := raw_of_unset hvariable
    by_cases hnull : Datum.lookup file (.text s.key) = .null
    · rw [resolve_default (hraw.trans hnull)]
      exact .ofDefault hvariable hnull
    · rw [resolve_cast hraw hnull]
      exact .ofFile hvariable rfl hnull

theorem resolves_iff {r : Except Fault Datum} :
    Resolves env file s r ↔ resolve env file s = r := by
  constructor
  · intro h
    cases h with
    | ofVariable h => exact resolve_cast (raw_of_set h) nofun
    | ofFile hunset h hvalue => exact resolve_cast ((raw_of_unset hunset).trans h) hvalue
    | ofDefault hunset h => exact resolve_default ((raw_of_unset hunset).trans h)
  · rintro rfl
    exact resolves_resolve env file s

/-- Settings that all have a value. -/
theorem resolveAll_eq_ok {ss : List Setting} {values : List (Setting × Datum)}
    (h : resolveAll env file ss = .ok values) :
    values.map Prod.fst = ss ∧ ∀ v ∈ values, resolve env file v.1 = .ok v.2 := by
  induction ss generalizing values with
  | nil =>
    cases h
    exact ⟨rfl, by simp⟩
  | cons s ss ih =>
    rw [resolveAll] at h
    simp only [bind_eq_ok, pure_eq_ok] at h
    obtain ⟨value, hvalue, others, hothers, rfl⟩ := h
    obtain ⟨hnames, hvalues⟩ := ih hothers
    exact ⟨by rw [List.map_cons, hnames], List.forall_mem_cons.mpr ⟨hvalue, hvalues⟩⟩

/-- A setting without a value that only settings with values stand in front of. -/
def FirstFault (env : Environment) (file : List (Datum × Datum)) (f : Fault)
    (ss : List Setting) : Prop :=
  ∃ before s after, ss = before ++ s :: after
    ∧ (∀ t ∈ before, ∃ v, Resolves env file t (.ok v)) ∧ Resolves env file s (.error f)

theorem firstFault_cons {ss : List Setting} {f : Fault} :
    FirstFault env file f (s :: ss) ↔
      Resolves env file s (.error f)
        ∨ (∃ v, Resolves env file s (.ok v)) ∧ FirstFault env file f ss := by
  constructor
  · rintro ⟨before, t, after, hss, hbefore, hfault⟩
    cases before with
    | nil =>
      obtain ⟨rfl, -⟩ := List.cons.inj hss
      exact .inl hfault
    | cons u before =>
      obtain ⟨rfl, rfl⟩ := List.cons.inj hss
      obtain ⟨hfirst, hbefore⟩ := List.forall_mem_cons.mp hbefore
      exact .inr ⟨hfirst, before, t, after, rfl, hbefore, hfault⟩
  · rintro (hfault | ⟨hfirst, before, t, after, rfl, hbefore, hfault⟩)
    · exact ⟨[], s, ss, rfl, by simp, hfault⟩
    · exact ⟨s :: before, t, after, rfl, List.forall_mem_cons.mpr ⟨hfirst, hbefore⟩, hfault⟩

/-- Settings of which one has no value: the first such setting tells why. -/
theorem resolveAll_eq_error_iff {ss : List Setting} {f : Fault} :
    resolveAll env file ss = .error f ↔ FirstFault env file f ss := by
  induction ss with
  | nil => simp [resolveAll, FirstFault]
  | cons s ss ih =>
    rw [resolveAll, firstFault_cons, ← ih]
    simp only [resolves_iff, bind_eq_error, pure_ne_error, and_false, exists_false, or_false,
      exists_and_right]

theorem make_eq_error_iff {f : Fault} :
    make env file = .error f ↔ FirstFault env file f Setting.all := by
  rw [← resolveAll_eq_error_iff, make]
  simp only [bind_eq_error, pure_ne_error, and_false, exists_false, or_false]

/-- A configuration has the value that every setting resolves to. -/
theorem make_get (h : make env file = .ok c) (s : Setting) :
    Resolves env file s (.ok (c.get s)) := by
  rw [make] at h
  simp only [bind_eq_ok, pure_eq_ok] at h
  obtain ⟨values, hvalues, rfl⟩ := h
  obtain ⟨hnames, hresolve⟩ := resolveAll_eq_ok hvalues
  obtain ⟨v, hv, hname⟩ : ∃ v ∈ values, v.1 = s := by
    rw [← List.mem_map, hnames]
    exact s.mem_all
  -- the setting is found, and what is found is its value
  cases hfound : values.find? (·.1 == s) with
  | none => simpa [hname] using List.find?_eq_none.mp hfound v hv
  | some w =>
    have hw : w.1 = s := by simpa using List.find?_some hfound
    rw [resolves_iff, get, hfound, ← hw]
    exact hresolve w (List.mem_of_find?_eq_some hfound)

/-! ## One override -/

@[simp] theorem get_set_self (c : Config) (s : Setting) (d : Datum) : (c.set s d).get s = d := by
  simp [get, set]

theorem get_set_ne (c : Config) (d : Datum) (h : t ≠ s) : (c.set s d).get t = c.get t := by
  have hother : ∀ v : Setting × Datum,
      decide ((v.1 != s) = true ∧ (v.1 == t) = true) = (v.1 == t) := by
    intro v
    by_cases hv : v.1 = t
    · simp [hv, h]
    · simp [hv]
  have hfirst : (s == t) = false := by simpa using h.symm
  simp only [get, set, List.find?_cons, hfirst, List.find?_filter, hother]

/-- What is overridden, in capitals. -/
def Target.capitals : Target → Text
  | .setting s => s.capitals
  | .options => Text.ofString "PARSER_OPTIONS"

/-- A key names what it is in capitals. -/
theorem target?_eq_some_iff {target : Target} :
    target? key = some target ↔ key.upper = target.capitals := by
  constructor
  · intro h
    simp only [target?] at h
    split at h
    · next hoptions =>
      cases h
      exact eq_of_beq hoptions
    · obtain ⟨s, hs, rfl⟩ := Option.map_eq_some_iff.mp h
      have hname := List.find?_some hs
      simp only [beq_iff_eq] at hname
      exact hname.symm
  · intro h
    rw [target?, h]
    cases target with
    | options => rfl
    | setting s => cases s <;> rfl

/-- A key names one thing. -/
theorem target_unique {t u : Target} (ht : key.upper = t.capitals) (hu : key.upper = u.capitals) :
    t = u :=
  Option.some.inj ((target?_eq_some_iff.mpr ht).symm.trans (target?_eq_some_iff.mpr hu))

theorem target?_eq_none_iff :
    target? key = none ↔ ∀ target : Target, key.upper ≠ target.capitals := by
  simp only [ne_eq, ← target?_eq_some_iff]
  exact Option.eq_none_iff_forall_ne_some

theorem overrideOne_null (c : Config) (key : Text) : c.overrideOne key .null = .ok c := rfl

theorem overrideOne_unknown (h : ∀ target : Target, key.upper ≠ target.capitals)
    (hvalue : value ≠ .null) : c.overrideOne key value = .error (.unknownSetting key) := by
  unfold overrideOne
  rw [target?_eq_none_iff.mpr h]
  cases value with
  | null => exact absurd rfl hvalue
  | _ => rfl

theorem overrideOne_options (h : key.upper = Target.options.capitals) (hvalue : value ≠ .null) :
    c.overrideOne key value = .ok { c with options := value } := by
  unfold overrideOne
  rw [target?_eq_some_iff.mpr h]
  cases value with
  | null => exact absurd rfl hvalue
  | _ => rfl

theorem overrideOne_setting (h : key.upper = s.capitals) (hvalue : value ≠ .null) :
    c.overrideOne key value = (s.replacement value).map (c.set s) := by
  have htarget : target? key = some (.setting s) := target?_eq_some_iff.mpr h
  unfold overrideOne
  rw [htarget, Setting.replacement]
  cases value with
  | null => exact absurd rfl hvalue
  | _ => cases s <;> rfl

/-- What one override does: nothing if it is null, and else it replaces what its key names. -/
theorem overrideOne_cases (h : c.overrideOne key value = .ok c') :
    (value = .null ∧ c' = c)
      ∨ (key.upper = Target.options.capitals ∧ c' = { c with options := value })
      ∨ ∃ s d, key.upper = s.capitals ∧ value ≠ .null ∧ s.replacement value = .ok d
        ∧ c' = c.set s d := by
  by_cases hvalue : value = .null
  · rw [hvalue, overrideOne_null] at h
    exact .inl ⟨hvalue, (Except.ok.inj h).symm⟩
  · cases htarget : target? key with
    | none =>
      rw [overrideOne_unknown (target?_eq_none_iff.mp htarget) hvalue] at h
      cases h
    | some target =>
      have hkey := target?_eq_some_iff.mp htarget
      cases target with
      | options =>
        rw [overrideOne_options hkey hvalue] at h
        exact .inr (.inl ⟨hkey, (Except.ok.inj h).symm⟩)
      | setting s =>
        rw [overrideOne_setting hkey hvalue, map_eq_ok] at h
        obtain ⟨d, hd, rfl⟩ := h
        exact .inr (.inr ⟨s, d, hkey, hvalue, hd, rfl⟩)

/-- It replaces a setting that it names unless it is null, and no other. -/
theorem overrideOne_get (h : c.overrideOne key value = .ok c') (s : Setting) :
    (key.upper = s.capitals ∧ value ≠ .null ∧ s.replacement value = .ok (c'.get s))
      ∨ ((key.upper = s.capitals → value = .null) ∧ c'.get s = c.get s) := by
  rcases overrideOne_cases h with ⟨hvalue, rfl⟩ | ⟨hkey, rfl⟩ | ⟨t, d, hkey, hvalue, hd, rfl⟩
  · exact .inr ⟨fun _ => hvalue, rfl⟩
  · refine .inr ⟨fun hs => ?_, rfl⟩
    have hnames : Target.options = .setting s := target_unique hkey hs
    cases hnames
  · by_cases hs : s = t
    · subst hs
      rw [get_set_self]
      exact .inl ⟨hkey, hvalue, hd⟩
    · refine .inr ⟨fun hname => ?_, get_set_ne c d hs⟩
      exact absurd (Setting.capitals_injective (hname.symm.trans hkey)) hs

/-! ## Overrides -/

/-- Overrides that name settings or the options of the parser and that can be applied: extensions
    are a text or a list of texts, unless they are null. -/
structure Accepted (os : List (Text × Datum)) : Prop where
  known : ∀ o ∈ os, ∃ target : Target, o.1.upper = target.capitals
  extensions : ∀ o ∈ os, o.1.upper = Setting.extensions.capitals →
    o.2 = .null ∨ (∃ t, o.2 = .text t) ∨ ∃ ts : List Text, o.2 = .list (ts.map .text)

/-- What a setting is with overrides over what it is without them. -/
inductive Overridden (below : Datum → Prop) (os : List (Text × Datum)) (s : Setting) :
    Datum → Prop where
  | replaced {key : Text} {value d : Datum} (hmem : (key, value) ∈ os)
      (hkey : key.upper = s.capitals) (hvalue : value ≠ .null)
      (h : s.replacement value = .ok d) : Overridden below os s d
  | kept {d : Datum} (hnull : ∀ o ∈ os, o.1.upper = s.capitals → o.2 = .null) (h : below d) :
      Overridden below os s d

variable {below : Datum → Prop}

theorem Accepted.cons {o : Text × Datum} (h : Accepted (o :: os)) : Accepted os where
  known := (List.forall_mem_cons.mp h.known).2
  extensions := (List.forall_mem_cons.mp h.extensions).2

theorem Accepted.overrideOne (h : Accepted os) (hmem : (key, value) ∈ os) (c : Config) :
    ∃ c', c.overrideOne key value = .ok c' := by
  by_cases hvalue : value = .null
  · exact ⟨c, by rw [hvalue, overrideOne_null]⟩
  · obtain ⟨target, hkey⟩ := h.known _ hmem
    cases target with
    | options => exact ⟨_, overrideOne_options hkey hvalue⟩
    | setting s =>
      rw [overrideOne_setting hkey hvalue, Setting.replacement]
      split
      · next hs =>
        subst hs
        rcases h.extensions _ hmem hkey with hnull | ⟨t, rfl⟩ | ⟨ts, rfl⟩
        · exact absurd hnull hvalue
        · exact ⟨_, rfl⟩
        · exact ⟨_, by rw [Setting.splitExtensions_texts]; rfl⟩
      · exact ⟨_, rfl⟩

/-- Overrides that are accepted are applied, all of them. -/
theorem override_accepted (h : Accepted os) (c : Config) :
    ∃ c', c.override os = (c', none) ∧ ∀ s, Overridden (· = c.get s) os s (c'.get s) := by
  induction os generalizing c with
  | nil => exact ⟨c, rfl, fun s => .kept (by simp) rfl⟩
  | cons o os ih =>
    obtain ⟨key, value⟩ := o
    obtain ⟨c₁, hc₁⟩ := h.overrideOne List.mem_cons_self c
    obtain ⟨c', hc', hget⟩ := ih h.cons c₁
    refine ⟨c', ?_, fun s => ?_⟩
    · simp only [override, hc₁, hc']
    · generalize hd : c'.get s = d
      have hover := hd ▸ hget s
      cases hover with
      | replaced hmem hkey hvalue h => exact .replaced (List.mem_cons_of_mem _ hmem) hkey hvalue h
      | kept hnull hbelow =>
        -- no later override counts, so the first one does if it names the setting
        rcases overrideOne_get hc₁ s with ⟨hkey, hvalue, hreplaced⟩ | ⟨hother, hsame⟩
        · exact .replaced List.mem_cons_self hkey hvalue (hbelow ▸ hreplaced)
        · exact .kept (List.forall_mem_cons.mpr ⟨hother, hnull⟩) (hbelow.trans hsame)

/-- There is one such value. -/
theorem Overridden.unique (hdistinct : (os.map (·.1.upper)).Nodup) {d d' : Datum}
    (hbelow : ∀ a b, below a → below b → a = b) (h : Overridden below os s d)
    (h' : Overridden below os s d') : d = d' := by
  cases h with
  | replaced hmem hkey hvalue hd =>
    cases h' with
    | replaced hmem' hkey' hvalue' hd' =>
      have hsame := List.inj_on_of_nodup_map hdistinct hmem hmem' (hkey.trans hkey'.symm)
      obtain ⟨-, rfl⟩ := Prod.mk.inj hsame
      exact Except.ok.inj (hd.symm.trans hd')
    | kept hnull => exact absurd (hnull _ hmem hkey) hvalue
  | kept hnull hd =>
    cases h' with
    | replaced hmem hkey hvalue => exact absurd (hnull _ hmem hkey) hvalue
    | kept _ hd' => exact hbelow _ _ hd hd'

theorem override_append (h : c.override os = (c', none)) (os' : List (Text × Datum)) :
    c.override (os ++ os') = c'.override os' := by
  induction os generalizing c with
  | nil =>
    cases h
    rfl
  | cons o os ih =>
    rw [List.cons_append]
    simp only [override] at h ⊢
    cases hone : c.overrideOne o.1 o.2 with
    | ok c₁ =>
      rw [hone] at h
      exact ih h
    | error f =>
      rw [hone] at h
      cases h

/-- Null replaces nothing. -/
theorem override_filter (c : Config) (os : List (Text × Datum)) :
    c.override (os.filter fun o => o.2 != .null) = c.override os := by
  induction os generalizing c with
  | nil => rfl
  | cons o os ih =>
    obtain ⟨key, value⟩ := o
    cases hnull : value != .null with
    | true =>
      have hfilter : ((key, value) :: os).filter (fun o => o.2 != .null)
          = (key, value) :: os.filter fun o => o.2 != .null := List.filter_cons_of_pos hnull
      rw [hfilter, override, override]
      cases c.overrideOne key value with
      | ok c₁ => exact ih c₁
      | error f => rfl
    | false =>
      have hvalue : value = .null := by
        cases value <;> first | rfl | cases hnull
      rw [List.filter_cons_of_neg (by simp [hnull]), ih, hvalue]
      rfl

/-- An override of something that does not exist fails, after those in front of it have been
    applied. -/
theorem override_unknown (h : Accepted os) (hunknown : ∀ target : Target,
    key.upper ≠ target.capitals) (hvalue : value ≠ .null) (c : Config)
    (after : List (Text × Datum)) :
    c.override (os ++ (key, value) :: after)
      = ((c.override (os.filter fun o => o.2 != .null)).1, some (.unknownSetting key)) := by
  obtain ⟨c', hc', -⟩ := override_accepted h c
  rw [override_filter, override_append hc', hc']
  simp only [override, overrideOne_unknown hunknown hvalue]

/-! ## All layers -/

/-- Two environments, files and lists of overrides that differ at most in what they say about one
    setting. -/
structure Beside (t : Setting) (env env' : Environment) (file file' : List (Datum × Datum))
    (os os' : List (Text × Datum)) : Prop where
  environment : ∀ name, name ≠ t.variableName → env.get? name = env'.get? name
  entries : ∀ key, key ≠ t.key → Datum.lookup file (.text key) = Datum.lookup file' (.text key)
  overrides : ∀ o : Text × Datum, o.1.upper ≠ t.capitals → (o ∈ os ↔ o ∈ os')

/-- Only its variable and, without one, its entry in the file matter to a setting. -/
theorem Resolves.congr {r : Except Fault Datum} (h : Resolves env file s r)
    (hvariable : env.get? s.variableName = env'.get? s.variableName)
    (hentry : env.get? s.variableName = none →
      Datum.lookup file (.text s.key) = Datum.lookup file' (.text s.key)) :
    Resolves env' file' s r := by
  cases h with
  | ofVariable hset => exact .ofVariable (hvariable ▸ hset)
  | ofFile hunset hraw hvalue =>
    exact .ofFile (hvariable ▸ hunset) (hentry hunset ▸ hraw) hvalue
  | ofDefault hunset hraw => exact .ofDefault (hvariable ▸ hunset) (hentry hunset ▸ hraw)

theorem Beside.resolves {r : Except Fault Datum} (h : Beside t env env' file file' os os')
    (hs : s ≠ t) (hr : Resolves env file s r) : Resolves env' file' s r := by
  refine hr.congr (h.environment s.variableName fun heq => ?_) fun _ => h.entries s.key fun heq => ?_
  · exact hs (Setting.variableName_injective heq)
  · exact hs (Setting.key_injective heq)

theorem Beside.overridden (h : Beside t env env' file file' os os') (hs : s ≠ t)
    (hd : Overridden (fun d => Resolves env file s (.ok d)) os s d) :
    Overridden (fun d => Resolves env' file' s (.ok d)) os' s d := by
  have hother : ∀ o : Text × Datum, o.1.upper = s.capitals → (o ∈ os ↔ o ∈ os') := by
    intro o ho
    exact h.overrides o fun heq => hs (Setting.capitals_injective (ho.symm.trans heq))
  cases hd with
  | replaced hmem hkey hvalue hreplaced =>
    exact .replaced ((hother _ hkey).mp hmem) hkey hvalue hreplaced
  | kept hnull hbelow =>
    refine .kept (fun o ho hname => ?_) (h.resolves hs hbelow)
    exact hnull o ((hother o hname).mpr ho) hname

/-- Every value is what the layers say. -/
theorem override_get_iff (hmake : make env file = .ok c) (haccepted : Accepted os)
    (hdistinct : (os.map (·.1.upper)).Nodup) (hoverride : c.override os = (c', none)) :
    c'.get s = d ↔ Overridden (fun d => Resolves env file s (.ok d)) os s d := by
  have hvalue : Overridden (fun d => Resolves env file s (.ok d)) os s (c'.get s) := by
    obtain ⟨c₁, hc₁, hget⟩ := override_accepted haccepted c
    obtain rfl : c₁ = c' := congrArg Prod.fst (hc₁.symm.trans hoverride)
    generalize hd : c₁.get s = d
    have hover := hd ▸ hget s
    cases hover with
    | replaced hmem hkey hvalue h => exact .replaced hmem hkey hvalue h
    | kept hnull hbelow => exact .kept hnull (hbelow ▸ make_get hmake s)
  constructor
  · rintro rfl
    exact hvalue
  · intro hd
    refine hvalue.unique hdistinct (fun a b ha hb => ?_) hd
    exact Except.ok.inj ((resolves_iff.mp ha).symm.trans (resolves_iff.mp hb))

/-- Configurations with and without overrides.  Without them there is none exactly if the value
    of a setting that counts cannot be cast; the first such setting tells why, and what the file
    says about a setting with a variable does not matter.  With them every setting is its
    override unless that is null, and what it is without overrides otherwise, so it does not
    depend on what is said about another setting.  A key that names nothing is told, and the
    overrides in front of it that are not null are applied, no others. -/
theorem layers (env : Environment) (file : List (Datum × Datum)) :
    (∀ f, make env file = .error f ↔ FirstFault env file f Setting.all)
      ∧ (∀ file', (∀ s : Setting, env.get? s.variableName = none →
            Datum.lookup file (.text s.key) = Datum.lookup file' (.text s.key)) →
          ∀ f, make env file = .error f ↔ make env file' = .error f)
      ∧ ∀ c, make env file = .ok c →
        (∀ os, Accepted os → (os.map (·.1.upper)).Nodup →
          ∃ c', c.override os = (c', none) ∧ ∀ s d,
            c'.get s = d ↔ Overridden (fun d => Resolves env file s (.ok d)) os s d)
        ∧ (∀ t env' file' os os' c₂, Beside t env env' file file' os os' →
            make env' file' = .ok c₂ → Accepted os → (os.map (·.1.upper)).Nodup →
            Accepted os' → (os'.map (·.1.upper)).Nodup →
            ∀ s, s ≠ t → (c.override os).1.get s = (c₂.override os').1.get s)
        ∧ ∀ before key value after, Accepted before → value ≠ .null →
            (∀ target : Target, key.upper ≠ target.capitals) →
            c.override (before ++ (key, value) :: after)
              = ((c.override (before.filter fun o => o.2 != .null)).1,
                some (.unknownSetting key)) := by
  refine ⟨fun f => make_eq_error_iff, fun file' hfile f => ?_, fun c hmake => ⟨?_, ?_, ?_⟩⟩
  · rw [make_eq_error_iff, make_eq_error_iff]
    have hresolves : ∀ s r, Resolves env file s r ↔ Resolves env file' s r := fun s r =>
      ⟨fun h => h.congr rfl (hfile s), fun h => h.congr rfl fun hunset => (hfile s hunset).symm⟩
    simp only [FirstFault, hresolves]
  · intro os haccepted hdistinct
    obtain ⟨c', hc', -⟩ := override_accepted haccepted c
    exact ⟨c', hc', fun s d => override_get_iff hmake haccepted hdistinct hc'⟩
  · intro t env' file' os os' c₂ hbeside hmake' haccepted hdistinct haccepted' hdistinct' s hs
    obtain ⟨c₁, hc₁, -⟩ := override_accepted haccepted c
    obtain ⟨c₂', hc₂, -⟩ := override_accepted haccepted' c₂
    have hvalue := (override_get_iff (s := s) hmake haccepted hdistinct hc₁).mp rfl
    rw [hc₁, hc₂]
    exact ((override_get_iff hmake' haccepted' hdistinct' hc₂).mpr
      (hbeside.overridden hs hvalue)).symm
  · intro before key value after haccepted hvalue hunknown
    exact override_unknown haccepted hunknown hvalue c after

/-! An empty variable counts, a version in the file does not where there is a variable, and a null
    override replaces nothing. -/

namespace Shop

def environment : Environment :=
  [("IMPORT_ANALYZER_PARSER", []), ("IMPORT_ANALYZER_ESPRIMA_VERSION", Text.ofString "3")]

def entries : List (Datum × Datum) :=
  [(.str "esprima_version", .str "four"), (.str "tree_type", .str "addon")]

def overrides : List (Text × Datum) :=
  [("Extensions", .str ".ts, tsx"), ("tree_type", .null), ("NAME", .str "shop")]

theorem accepted : Accepted overrides where
  known := by
    refine List.forall_mem_cons.mpr ⟨⟨.setting .extensions, by decide +kernel⟩, ?_⟩
    refine List.forall_mem_cons.mpr ⟨⟨.setting .treeType, by decide +kernel⟩, ?_⟩
    exact List.forall_mem_singleton.mpr ⟨.setting .name, by decide +kernel⟩
  extensions := by
    refine List.forall_mem_cons.mpr ⟨fun _ => .inr (.inl ⟨_, rfl⟩), ?_⟩
    refine List.forall_mem_cons.mpr ⟨fun _ => .inl rfl, ?_⟩
    exact List.forall_mem_singleton.mpr fun _ => .inr (.inl ⟨_, rfl⟩)

theorem kept (hextensions : s ≠ .extensions) (hname : s ≠ .name) :
    ∀ o ∈ overrides, o.1.upper = s.capitals → o.2 = .null := by
  have hfirst : Text.upper "Extensions" = Setting.extensions.capitals := by decide +kernel
  have hlast : Text.upper "NAME" = Setting.name.capitals := by decide +kernel
  refine List.forall_mem_cons.mpr ⟨fun h => ?_, List.forall_mem_cons.mpr ⟨fun _ => rfl, ?_⟩⟩
  · exact absurd (Setting.capitals_injective (h.symm.trans hfirst)) hextensions
  · refine List.forall_mem_singleton.mpr fun h => ?_
    exact absurd (Setting.capitals_injective (h.symm.trans hlast)) hname

theorem unknown (target : Target) : Text.upper "colour" ≠ target.capitals := by
  have hupper : Text.upper "colour" = "COLOUR" := by decide +kernel
  rw [hupper]
  cases target with
  | options => decide
  | setting s => cases s <;> decide

theorem split : Setting.extensions.replacement (.str ".ts, tsx")
    = .ok (.list [.str "ts", .str "tsx"]) := by
  have htrimmed : Setting.trimExtensions
      ((Text.ofString ".ts, tsx").splitOn (CodePoint.ofChar ',')) = ["ts", "tsx"] := by
    decide +kernel
  show Except.ok (Datum.list ((Setting.trimExtensions _).map .text)) = _
  rw [htrimmed]
  rfl

theorem version : Resolves environment entries .version (.ok (.int 3)) := by
  have hread : Number.readInt? (Text.ofString "3") = some 3 := by decide +kernel
  have hcast : Setting.version.cast (.str "3") = .ok (.int 3) := by
    rw [Setting.cast, Datum.str, Setting.toInt, hread]
  rw [← hcast]
  exact .ofVariable rfl

end Shop

theorem layers_shop :
    ∃ c c', make Shop.environment Shop.entries = .ok c
      ∧ c.override Shop.overrides = (c', none)
      ∧ c'.get .parser = .text [] ∧ c'.get .version = .int 3
      ∧ c'.get .treeType = .str "addon"
      ∧ c'.get .extensions = .list [.str "ts", .str "tsx"]
      ∧ c.override (Shop.overrides ++ [(Text.ofString "colour", Datum.str "blue")])
        = (c', some (.unknownSetting "colour")) := by
  have hsome : (make Shop.environment Shop.entries).toOption.isSome := by decide +kernel
  obtain ⟨c, hc⟩ := Option.isSome_iff_exists.mp hsome
  have hmake := eq_ok_of_toOption hc
  obtain ⟨hset, -, hunknown⟩ := (layers Shop.environment Shop.entries).2.2 c hmake
  obtain ⟨c', hc', hget⟩ := hset Shop.overrides Shop.accepted (by decide +kernel)
  refine ⟨c, c', hmake, hc', ?_, ?_, ?_, ?_, ?_⟩
  · exact (hget _ _).mpr (.kept (Shop.kept nofun nofun) (.ofVariable rfl))
  · exact (hget _ _).mpr (.kept (Shop.kept nofun nofun) Shop.version)
  · exact (hget _ _).mpr (.kept (Shop.kept nofun nofun) (.ofFile rfl rfl nofun))
  · exact (hget _ _).mpr (.replaced List.mem_cons_self (by decide +kernel) nofun Shop.split)
  · rw [hunknown Shop.overrides "colour" (.str "blue") [] Shop.accepted nofun Shop.unknown,
      override_filter, hc']

end Config

end ImportScan
