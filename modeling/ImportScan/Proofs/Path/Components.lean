import ImportScan.Path

/-! # Paths and their components

    A path and the list of its components determine each other, as long as no component holds
    a slash.  The path of the directory that holds another is an initial segment of it.
-/

namespace ImportScan

namespace Text

theorem splitOn_eq (sep : CodePoint) (t : Text) : splitOn sep t = List.splitOn sep t := by
  induction t with
  | nil => rfl
  | cons c rest ih =>
    rw [List.splitOn_cons_eq_if_modifyHead, splitOn, ih]
    by_cases h : c = sep
    · simp [h]
    · cases hs : List.splitOn sep rest with
      | nil => exact absurd hs (List.splitOn_ne_nil _ _)
      | cons piece pieces => simp [h]

theorem join_eq (sep : Text) (ts : List Text) : join sep ts = List.intercalate sep ts := by
  induction ts with
  | nil => rfl
  | cons t ts ih =>
    cases ts with
    | nil => simp [join]
    | cons u us => rw [List.intercalate_cons_cons, ← ih, join]; simp

theorem splitOn_ne_nil (sep : CodePoint) (t : Text) : splitOn sep t ≠ [] := by
  rw [splitOn_eq]
  exact List.splitOn_ne_nil _ _

/-- Splitting at the slash between two paths splits both. -/
theorem splitOn_append (sep : CodePoint) (a b : Text) :
    splitOn sep (a ++ sep :: b) = splitOn sep a ++ splitOn sep b := by
  simp only [splitOn_eq]
  exact List.splitOn_append_cons_self a b

theorem length_splitOn_le (sep : CodePoint) (t : Text) :
    (splitOn sep t).length ≤ t.length + 1 := by
  induction t with
  | nil => simp [splitOn]
  | cons c rest ih =>
    unfold splitOn
    split
    · simpa using ih
    · split
      · simp
      · next hsplit =>
        rw [hsplit] at ih
        simp only [List.length_cons] at ih ⊢
        omega

/-- No piece between separators holds a separator. -/
theorem notMem_of_mem_splitOn {sep : CodePoint} {t piece : Text} (h : piece ∈ splitOn sep t) :
    sep ∉ piece := by
  induction t generalizing piece with
  | nil => simp_all [splitOn]
  | cons c rest ih =>
    unfold splitOn at h
    split at h
    · rcases List.mem_cons.mp h with rfl | h
      · simp
      · exact ih h
    · next hc =>
      split at h
      · next hnil => exact absurd hnil (splitOn_ne_nil sep rest)
      · next first others hsplit =>
        rw [hsplit] at ih
        rcases List.mem_cons.mp h with rfl | h
        · intro hmem
          rcases List.mem_cons.mp hmem with heq | hmem
          · exact hc heq.symm
          · exact ih List.mem_cons_self hmem
        · exact ih (List.mem_cons_of_mem _ h)

theorem join_splitOn (sep : CodePoint) (t : Text) : join [sep] (splitOn sep t) = t := by
  rw [join_eq, splitOn_eq]
  exact List.intercalate_splitOn sep

theorem splitOn_join {sep : CodePoint} {ts : List Text} (hne : ts ≠ []) (h : ∀ t ∈ ts, sep ∉ t) :
    splitOn sep (join [sep] ts) = ts := by
  rw [join_eq, splitOn_eq]
  exact List.splitOn_intercalate sep h hne

theorem splitOn_of_notMem {sep : CodePoint} {t : Text} (h : sep ∉ t) : splitOn sep t = [t] := by
  have hjoin : splitOn sep (join [sep] [t]) = [t] := splitOn_join (by simp) (by simpa using h)
  simpa [join] using hjoin

/-- Joining one more text adds a separator and the text. -/
theorem join_snoc {sep : Text} {ts : List Text} (hne : ts ≠ []) (t : Text) :
    join sep (ts ++ [t]) = join sep ts ++ sep ++ t := by
  induction ts with
  | nil => exact absurd rfl hne
  | cons u us ih =>
    cases us with
    | nil => simp [join]
    | cons w ws =>
      have ih' := ih (by simp)
      simp only [List.cons_append, join] at ih' ⊢
      rw [ih']
      simp

/-- More texts come behind a separator. -/
theorem join_append {sep : CodePoint} {ts us : List Text} (ht : ts ≠ []) (hu : us ≠ []) :
    join [sep] (ts ++ us) = join [sep] ts ++ sep :: join [sep] us := by
  induction ts with
  | nil => exact absurd rfl ht
  | cons t ts ih =>
    cases ts with
    | nil =>
      obtain ⟨u, us, rfl⟩ := List.exists_cons_of_ne_nil hu
      simp [join]
    | cons t' ts =>
      have ih' := ih (by simp)
      simp only [List.cons_append, join] at ih' ⊢
      rw [ih']
      simp

end Text

namespace Path

/-- A component that names something, rather than the directory it stands in or the one
    above. -/
structure Named (c : Text) : Prop where
  nonempty : c ≠ []
  not_here : c ≠ Text.ofString "."
  not_up : c ≠ Text.ofString ".."

/-- A name that is one component of every path in which it is written. -/
structure Proper (c : Text) : Prop extends Named c where
  no_slash : slash ∉ c

instance (c : Text) : Decidable (Proper c) :=
  decidable_of_iff (c ≠ [] ∧ c ≠ Text.ofString "." ∧ c ≠ Text.ofString ".." ∧ slash ∉ c)
    ⟨fun ⟨h₁, h₂, h₃, h₄⟩ => ⟨⟨h₁, h₂, h₃⟩, h₄⟩,
     fun h => ⟨h.nonempty, h.not_here, h.not_up, h.no_slash⟩⟩

/-- The directory that holds a path from a root, if that is not the root itself. -/
def holder? (p : Text) : Option Text :=
  match (p.splitOn slash).dropLast with
  | [] => none
  | cs => some (Text.join [slash] cs)

/-- The components before the last one lead to the directory that holds a path. -/
theorem holder?_eq {p m : Text} {rs : List Text} (h : p.splitOn slash = rs ++ [m]) (hrs : rs ≠ []) :
    holder? p = some (Text.join [slash] rs) := by
  unfold holder?
  rw [h, List.dropLast_concat]
  cases rs with
  | nil => exact absurd rfl hrs
  | cons => rfl

theorem splitOn_holder {p m : Text} {rs : List Text} (h : p.splitOn slash = rs ++ [m])
    (hrs : rs ≠ []) : Text.splitOn slash (Text.join [slash] rs) = rs := by
  refine Text.splitOn_join hrs fun n hn => Text.notMem_of_mem_splitOn (t := p) ?_
  rw [h]
  exact List.mem_append_left _ hn

/-- The path of a holder is an initial segment that ends before a slash. -/
theorem exists_of_holder?_eq_some {p dir : Text} (h : holder? p = some dir) :
    ∃ name, p = dir ++ slash :: name := by
  have hp := Text.join_splitOn slash p
  obtain ⟨init, last, hs⟩ := (List.eq_nil_or_concat (p.splitOn slash)).resolve_left
    (Text.splitOn_ne_nil slash p)
  rw [List.concat_eq_append] at hs
  unfold holder? at h
  rw [hs, List.dropLast_concat] at h
  cases init with
  | nil => cases h
  | cons c cs =>
    cases h
    refine ⟨last, ?_⟩
    rw [hs, Text.join_snoc (by simp)] at hp
    simpa using hp.symm

/-- A path whose components are names is relative. -/
theorem isAbsolute_eq_false {p : Text} (h : ∀ n ∈ p.splitOn slash, Proper n) :
    isAbsolute p = false := by
  cases p with
  | nil => rfl
  | cons x rest =>
    simp only [isAbsolute, List.head?_cons, beq_eq_false_iff_ne, ne_eq, Option.some.injEq]
    rintro rfl
    have hsplit : Text.splitOn slash (slash :: rest) = [] :: Text.splitOn slash rest :=
      Text.splitOn_append slash [] rest
    exact (h [] (by simp [hsplit])).nonempty rfl

/-! ## Resolved paths -/

/-- The resolved path of components: one or two slashes, and the components, which are names. -/
structure Resolved (path : Text) (cs : List Text) : Prop where
  proper : ∀ c ∈ cs, Proper c
  spelled : path = slash :: Text.join [slash] cs ∨ path = slash :: slash :: Text.join [slash] cs

/-- Lexical resolution leaves names. -/
theorem components_proper (p : Text) : ∀ c ∈ components p, Proper c := by
  -- the components kept so far are names, whatever comes next
  have hfold : ∀ (cs before : List Text), (∀ c ∈ cs, slash ∉ c) → (∀ c ∈ before, Proper c) →
      ∀ c ∈ cs.foldl enter before, Proper c := by
    intro cs
    induction cs with
    | nil => exact fun before _ hbefore => hbefore
    | cons c cs ih =>
      intro before hcs hbefore
      obtain ⟨hc, hcs⟩ := List.forall_mem_cons.mp hcs
      refine ih _ hcs ?_
      unfold enter
      split
      · exact hbefore
      · split
        · exact fun c' hc' => hbefore c' (List.mem_of_mem_tail hc')
        · next hskip hup =>
          simp only [Bool.or_eq_true, List.isEmpty_iff, beq_iff_eq, not_or] at hskip hup
          exact List.forall_mem_cons.mpr ⟨⟨⟨hskip.1, hskip.2, hup⟩, hc⟩, hbefore⟩
  intro c hc
  exact hfold _ [] (fun c hc => Text.notMem_of_mem_splitOn hc) (by simp) c (List.mem_reverse.mp hc)

/-- The slashes at the end of a path that ends with a name are none. -/
theorem trimEnd_append {c : Text} (hc : Proper c) (t : Text) :
    Text.trimEnd (· == slash) (t ++ c) = t ++ c := by
  obtain ⟨init, x, hx⟩ := (List.eq_nil_or_concat c).resolve_left hc.nonempty
  rw [List.concat_eq_append] at hx
  have hne : (x == slash) = false := by
    simp only [beq_eq_false_iff_ne]
    rintro rfl
    exact hc.no_slash (by simp [hx])
  rw [hx, ← List.append_assoc, Text.trimEnd, List.reverse_append, List.reverse_singleton,
    List.singleton_append, List.dropWhile_cons, hne]
  simp

/-- What is before the last name of a path. -/
theorem head_append_name {c : Text} (hc : Proper c) (t : Text) :
    (((t ++ slash :: c).reverse.dropWhile (· != slash)).reverse) = t ++ [slash] := by
  have hdrop : (c.reverse ++ slash :: t.reverse).dropWhile (· != slash) = slash :: t.reverse := by
    rw [List.dropWhile_append_of_pos, List.dropWhile_cons]
    · simp
    · intro x hx
      simp only [bne_iff_ne]
      rintro rfl
      exact hc.no_slash (List.mem_reverse.mp hx)
  rw [List.reverse_append, List.reverse_cons, List.append_assoc, List.singleton_append, hdrop]
  simp

/-- A join of names ends with a name. -/
theorem join_names_concat (init : List Text) (c : Text) :
    ∃ t, Text.join [slash] (init ++ [c]) = t ++ c ∧
      (init ≠ [] → t = Text.join [slash] init ++ [slash]) := by
  by_cases hinit : init = []
  · exact ⟨[], by simp [hinit, Text.join], fun h => absurd hinit h⟩
  · exact ⟨Text.join [slash] init ++ [slash], Text.join_snoc hinit c, fun _ => rfl⟩

namespace Resolved

variable {path : Text} {cs init : List Text} {c : Text}

/-- A resolved path ends with its last name. -/
theorem exists_append (h : Resolved path (init ++ [c])) : ∃ t, path = t ++ c := by
  obtain ⟨t, ht, -⟩ := join_names_concat init c
  rcases h.spelled with rfl | rfl
  · exact ⟨slash :: t, by rw [ht]; rfl⟩
  · exact ⟨slash :: slash :: t, by rw [ht]; rfl⟩

theorem trimSlashes (h : Resolved path (init ++ [c])) : trimSlashes path = path := by
  obtain ⟨t, rfl⟩ := h.exists_append
  exact trimEnd_append (h.proper c (by simp)) t

/-- A relative path is put behind a resolved one with a slash between them. -/
theorem join (h : Resolved path (init ++ [c])) {p : Text} (hp : isAbsolute p = false) :
    Path.join path p = path ++ slash :: p := by
  have hc := h.proper c (by simp)
  obtain ⟨t, rfl⟩ := h.exists_append
  have hlast : c.getLast? ≠ some slash := fun heq => hc.no_slash (List.mem_of_getLast? heq)
  have hne : c ≠ [] := hc.nonempty
  simp [Path.join, hp, hne, hlast]

/-- The path of the directory that holds a resolved path is resolved. -/
theorem parent (h : Resolved path (init ++ [c])) : Resolved (parent path) init := by
  have hc := h.proper c (by simp)
  have hproper : ∀ c' ∈ init, Proper c' := fun c' hc' => h.proper c' (List.mem_append_left _ hc')
  -- the parent of a path behind a text that ends with a slash
  have hparent : ∀ t : Text, Path.parent (t ++ slash :: c) =
      if (t ++ [slash]).all (· == slash) then t ++ [slash]
      else Text.trimEnd (· == slash) (t ++ [slash]) := by
    intro t
    rw [Path.parent, head_append_name hc]
  refine ⟨hproper, ?_⟩
  by_cases hinit : init = []
  · subst hinit
    rcases h.spelled with rfl | rfl
    · exact .inl (hparent [])
    · exact .inr (hparent [slash])
  · obtain ⟨init', m, hm⟩ := (List.eq_nil_or_concat init).resolve_left hinit
    rw [List.concat_eq_append] at hm
    obtain ⟨t, ht, -⟩ := join_names_concat init' m
    have hmp : Proper m := hproper m (by simp [hm])
    have hjoin : Text.join [slash] (init ++ [c]) = t ++ m ++ slash :: c := by
      rw [Text.join_snoc hinit, hm, ht]
      simp
    -- with a name before the last one there are no slashes but one to drop
    have hshort : ∀ lead : Text, Path.parent (lead ++ (t ++ m ++ slash :: c)) = lead ++ (t ++ m) := by
      intro lead
      rw [← List.append_assoc, hparent, if_neg]
      · have hslash : Text.trimEnd (· == slash) (lead ++ (t ++ m) ++ [slash]) =
            Text.trimEnd (· == slash) (lead ++ (t ++ m)) := by
          simp [Text.trimEnd]
        rw [hslash, ← List.append_assoc]
        exact trimEnd_append hmp _
      · obtain ⟨x, hx⟩ := List.exists_mem_of_ne_nil m hmp.nonempty
        intro hall
        have hxs : x = slash := by
          simpa using List.all_eq_true.mp hall x (by simp [hx])
        exact hmp.no_slash (hxs ▸ hx)
    rw [hm, ht]
    rcases h.spelled with rfl | rfl
    · left
      rw [hjoin]
      exact hshort [slash]
    · right
      rw [hjoin]
      exact hshort [slash, slash]

/-- The components of a resolved path are its names, behind the empty ones of its start. -/
theorem splitOn (h : Resolved path cs) :
    ∃ start, (∀ x ∈ start, x = []) ∧ path.splitOn slash = start ++ cs := by
  have hcons : ∀ t : Text, Text.splitOn slash (slash :: t) = [] :: t.splitOn slash :=
    fun t => Text.splitOn_append slash [] t
  by_cases hcs : cs = []
  · subst hcs
    rcases h.spelled with rfl | rfl
    · exact ⟨[[], []], by simp, rfl⟩
    · exact ⟨[[], [], []], by simp, rfl⟩
  · have hjoin := Text.splitOn_join hcs fun c hc => (h.proper c hc).no_slash
    rcases h.spelled with rfl | rfl
    · exact ⟨[[]], by simp, by rw [hcons, hjoin]; rfl⟩
    · exact ⟨[[], []], by simp, by rw [hcons, hcons, hjoin]; rfl⟩

end Resolved

/-- The names of a path that is resolved are the components that remain. -/
theorem resolved_components (cwd p : Text) :
    Resolved (absolute cwd p) (components (join cwd p)) := by
  refine ⟨components_proper _, ?_⟩
  unfold absolute lead
  simp only
  split
  · split
    · exact .inr rfl
    · exact .inl rfl
  · exact .inl rfl

theorem resolved_absolute (cwd p : Text) : ∃ cs, Resolved (absolute cwd p) cs :=
  ⟨_, resolved_components cwd p⟩

/-! ## Nested paths -/

/-- Joined names do not start with a slash. -/
theorem head?_join_ne {cs : List Text} (hcs : ∀ c ∈ cs, Proper c) :
    (Text.join [slash] cs).head? ≠ some slash := by
  have hfirst : ∀ (c : Text) (rest : Text), Proper c → (c ++ rest).head? ≠ some slash := by
    intro c rest hc heq
    cases c with
    | nil => exact hc.nonempty rfl
    | cons x c =>
      simp only [List.cons_append, List.head?_cons, Option.some.injEq] at heq
      exact hc.no_slash (by simp [heq])
  match cs with
  | [] => simp [Text.join]
  | [c] =>
    rw [Text.join, ← List.append_nil c]
    exact hfirst c [] (hcs c (by simp))
  | c :: b :: rest =>
    rw [Text.join, List.append_assoc]
    · exact hfirst c _ (hcs c (by simp))
    · simp

/-- A resolved path is its leading slashes and its names. -/
theorem Resolved.eq_lead {path : Text} {cs : List Text} (h : Resolved path cs) :
    path = lead path ++ Text.join [slash] cs := by
  have hhead := head?_join_ne h.proper
  rcases h.spelled with rfl | rfl
  · cases hjoin : Text.join [slash] cs with
    | nil => rfl
    | cons x rest =>
      have hx : x ≠ slash := by simpa [hjoin] using hhead
      simp [lead, hx]
  · simp [lead, hhead]

/-- A path whose names begin with those of another lies within it, if both are led by as many
    slashes. -/
theorem isWithin_of_prefix {path root : Text} {cs rs : List Text} (hpath : Resolved path cs)
    (hroot : Resolved root rs) (hlead : lead path = lead root) (hpre : rs <+: cs) :
    isWithin path root = true := by
  obtain ⟨rest, rfl⟩ := hpre
  have heq := hpath.eq_lead
  have heq' := hroot.eq_lead
  rw [hlead] at heq
  by_cases hrest : rest = []
  · subst hrest
    rw [List.append_nil, ← heq'] at heq
    simp [isWithin, heq]
  · have hstarts : path.startsWith (trimSlashes root ++ [slash]) = true := by
      unfold Text.startsWith
      rw [List.isPrefixOf_iff_prefix]
      obtain rfl | ⟨init, c, rfl⟩ := List.eq_nil_or_concat rs
      · -- the root has no names, and every resolved path starts with a slash
        have htrim : trimSlashes root = [] := by
          rcases hroot.spelled with rfl | rfl <;> rfl
        rw [htrim]
        rcases hpath.spelled with rfl | rfl
        · exact ⟨_, rfl⟩
        · exact ⟨_, rfl⟩
      · rw [List.concat_eq_append] at hroot heq heq'
        rw [hroot.trimSlashes]
        refine ⟨Text.join [slash] rest, ?_⟩
        rw [heq, Text.join_append (by simp) hrest, ← List.append_assoc, ← heq']
        simp
    simp [isWithin, hstarts]

end Path

end ImportScan
