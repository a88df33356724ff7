import ImportScan.Platform
import ImportScan.Proofs.Text.Utf8

/-! # Text files

    A file that is UTF-8 has the portions of its text to give, however its octets are taken and
    wherever characters and line ends are cut.  A file that is not never comes to its end, and a
    short one has nothing to give.

    * `TextFile.portions_of_utf8?`   : the portions of a file that is UTF-8.
    * `TextFile.notMem_portions`     : a file that is not has no last portion.
    * `TextFile.portions_of_short`   : and no portion at all if it is short.
    * `Yaml.told?_portionsOf`        : a whole text is told to be something.
-/

namespace ImportScan

/-! ## Decoding bit by bit -/

namespace Utf8

variable {s s' : State} {a b : Bytes} {t u : Text}

theorem decodeFrom_cons (s : State) (x : UInt8) (rest : Bytes) :
    decodeFrom s (x :: rest) = (step s x.toNat).1 ++ decodeFrom (step s x.toNat).2 rest := rfl

theorem advance_cons_eq_some {x : UInt8} :
    advance s (x :: a) = some (t, s') ↔ ∃ u v, (step s x.toNat).1 = u.map some
      ∧ advance (step s x.toNat).2 a = some (v, s') ∧ u ++ v = t := by
  simp only [advance, Option.bind_eq_bind, Option.bind_eq_some_iff, Option.pure_def,
    Option.some.injEq, Prod.mk.injEq]
  constructor
  · rintro ⟨u, hu, ⟨v, s₁⟩, hv, rfl, rfl⟩
    exact ⟨u, v, Text.eq_map_some_of_mapM hu, hv, rfl⟩
  · rintro ⟨u, v, hu, hv, rfl⟩
    exact ⟨u, hu ▸ Text.mapM_map_some u, (v, s'), hv, rfl, rfl⟩

/-- What is decoded in one go is decoded bit by bit. -/
theorem exists_advance (h : decodeFrom s (a ++ b) = t.map some) :
    ∃ u v s', advance s a = some (u, s') ∧ decodeFrom s' b = v.map some ∧ t = u ++ v := by
  induction a generalizing s t with
  | nil => exact ⟨[], t, s, rfl, h, rfl⟩
  | cons x a ih =>
    rw [List.cons_append, decodeFrom_cons] at h
    -- what the octet completes is the beginning of the text
    obtain ⟨u, v, rfl, hu, hv⟩ := List.map_eq_append_iff.mp h.symm
    obtain ⟨u', v', s', hadvance, hrest, rfl⟩ := ih hv.symm
    exact ⟨u ++ u', v', s', advance_cons_eq_some.mpr ⟨u, u', hu.symm, hadvance, rfl⟩, hrest,
      (List.append_assoc ..).symm⟩

/-- And the other way round. -/
theorem decodeFrom_of_advance (hadvance : advance s a = some (u, s'))
    (h : decodeFrom s' b = t.map some) : decodeFrom s (a ++ b) = (u ++ t).map some := by
  induction a generalizing s u with
  | nil =>
    obtain ⟨rfl, rfl⟩ := Prod.mk.inj (Option.some.inj hadvance)
    exact h
  | cons x a ih =>
    obtain ⟨v, more, hv, hmore, rfl⟩ := advance_cons_eq_some.mp hadvance
    rw [List.cons_append, decodeFrom_cons, ih hmore, hv, ← List.map_append, List.append_assoc]

theorem length_enter (x : Nat) : (enter x).1.length ≤ 1 := by
  unfold enter
  split
  · exact Nat.le_refl 1
  · split
    · exact Nat.zero_le 1
    · exact Nat.le_refl 1

/-- An octet completes one code point at most. -/
theorem length_step {x : Nat} (h : (step s x).1 = t.map some) : t.length ≤ 1 := by
  rw [← List.length_map some, ← h]
  unfold step at h ⊢
  split
  · exact length_enter x
  · next owed low high value =>
    by_cases hx : low ≤ x ∧ x ≤ high
    · simp only [hx, and_self, if_true]
      split
      · exact Nat.le_refl 1
      · exact Nat.zero_le 1
    · -- an ill-formed part is no code point
      simp only [hx, if_false] at h
      cases t <;> simp at h

theorem length_advance (h : advance s a = some (t, s')) : t.length ≤ a.length := by
  induction a generalizing s t with
  | nil =>
    obtain ⟨rfl, -⟩ := Prod.mk.inj (Option.some.inj h)
    exact Nat.le_refl 0
  | cons x a ih =>
    obtain ⟨u, v, hu, hv, rfl⟩ := advance_cons_eq_some.mp h
    have hone := length_step hu
    have hrest := ih hv
    rw [List.length_append, List.length_cons]
    omega

/-- At the end of the octets the decoder stands between characters if nothing is missing. -/
theorem decodeFrom_nil (h : decodeFrom s [] = t.map some) : s = .start ∧ t = [] := by
  cases s with
  | start => exact ⟨rfl, List.map_eq_nil_iff.mp h.symm⟩
  | within => cases t <;> simp [decodeFrom] at h

end Utf8

/-! ## Line ends bit by bit -/

namespace Text

variable {s t : Text}

theorem normalizeNewlines_cons {c : CodePoint} (hc : c.is '\r' = false) (t : Text) :
    normalizeNewlines (c :: t) = c :: t.normalizeNewlines := by
  cases t with
  | nil => simp [normalizeNewlines, hc]
  | cons d rest => simp [normalizeNewlines, hc]

/-- A carriage return without a line feed behind it. -/
theorem normalizeNewlines_return {c : CodePoint} (hc : c.is '\r' = true)
    (ht : ∀ d ∈ t.head?, d.is '\n' = false) :
    normalizeNewlines (c :: t) = CodePoint.ofChar '\n' :: t.normalizeNewlines := by
  cases t with
  | nil => simp [normalizeNewlines, hc]
  | cons d rest => simp [normalizeNewlines, hc, ht d rfl]

theorem mem_getLast?_cons {c d : CodePoint} (h : c ∈ t.getLast?) : c ∈ (d :: t).getLast? := by
  rw [List.getLast?_cons, Option.mem_def.mp h]
  rfl

/-- Line ends are made uniform part by part where no line end is cut. -/
theorem normalizeNewlines_append
    (h : ∀ c ∈ s.getLast?, c.is '\r' = true → ∀ d ∈ t.head?, d.is '\n' = false) :
    normalizeNewlines (s ++ t) = s.normalizeNewlines ++ t.normalizeNewlines := by
  fun_induction normalizeNewlines s with
  | case1 => rfl
  | case2 c hc => exact normalizeNewlines_return hc (h c rfl hc)
  | case3 c hc => exact normalizeNewlines_cons (by simpa using hc) t
  | case4 c d rest hc hd ih =>
    have hrest := ih fun e he => h e (mem_getLast?_cons (mem_getLast?_cons he))
    simp only [List.cons_append, normalizeNewlines, hc, hd, if_true, hrest]
  | case5 c d rest hc hd ih =>
    have hrest := ih fun e he => h e (mem_getLast?_cons he)
    rw [List.cons_append, normalizeNewlines_return hc (by simpa using hd), hrest,
      List.cons_append]
  | case6 c d rest hc ih =>
    have hrest := ih fun e he => h e (mem_getLast?_cons he)
    rw [List.cons_append, normalizeNewlines_cons (by simpa using hc), hrest, List.cons_append]

theorem length_normalizeNewlines (t : Text) : t.normalizeNewlines.length ≤ t.length := by
  fun_induction normalizeNewlines t with
  | case1 => exact Nat.le_refl 0
  | case2 c hc => exact Nat.le_refl 1
  | case3 c hc => exact Nat.le_refl 1
  | case4 c d rest hc hd ih => exact Nat.succ_le_succ (Nat.le_succ_of_le ih)
  | case5 c d rest hc hd ih => exact Nat.succ_le_succ ih
  | case6 c d rest hc ih => exact Nat.succ_le_succ ih

/-- Uniform line ends and what is held back take no more than a part and what was held back. -/
theorem length_normalizePart (returned : Bool) (t : Text) :
    (t.normalizePart returned false).1.length + (t.normalizePart returned false).2.toNat
      ≤ returned.toNat + t.length := by
  have hjoin : (if returned then CodePoint.ofChar '\r' :: t else t).length
      = returned.toNat + t.length := by
    cases returned <;> simp [Nat.add_comm]
  rw [← hjoin, normalizePart]
  generalize (if returned then CodePoint.ofChar '\r' :: t else t) = u
  simp only [Bool.not_false, Bool.true_and]
  split
  · next hlast =>
    have hne : u ≠ [] := by
      rintro rfl
      cases hlast
    have hpos := List.length_pos_iff.mpr hne
    have hrest := length_normalizeNewlines u.dropLast
    rw [List.length_dropLast] at hrest
    simp only [Bool.toNat_true]
    omega
  · exact length_normalizeNewlines u

/-- What a part comes to, and what is held back of it, make up the uniform text. -/
theorem normalizePart_append (returned : Bool) (s t : Text) :
    normalizeNewlines ((if returned then [CodePoint.ofChar '\r'] else []) ++ (s ++ t))
      = (s.normalizePart returned false).1
        ++ normalizeNewlines
          ((if (s.normalizePart returned false).2 then [CodePoint.ofChar '\r'] else []) ++ t) := by
  have hjoin : (if returned then [CodePoint.ofChar '\r'] else []) ++ (s ++ t)
      = (if returned then CodePoint.ofChar '\r' :: s else s) ++ t := by
    cases returned <;> simp
  rw [hjoin, normalizePart]
  generalize (if returned then CodePoint.ofChar '\r' :: s else s) = u
  by_cases hu : u.getLast? = some (CodePoint.ofChar '\r')
  · -- the carriage return at the end goes to the next part
    obtain ⟨v, rfl⟩ := List.getLast?_eq_some_iff.mp hu
    have hreturn : (v ++ [CodePoint.ofChar '\r']).getLast?.any (·.is '\r') = true := by
      rw [hu]
      rfl
    simp only [hreturn, Bool.not_false, Bool.true_and, if_true, List.dropLast_concat,
      List.append_assoc]
    exact normalizeNewlines_append fun _ _ _ d hd => by cases hd; rfl
  · have hreturn : u.getLast?.any (·.is '\r') = false := by
      rw [Option.any_eq_false]
      exact fun c hc => Bool.eq_false_iff.mpr fun hlast =>
        hu (hc.trans (congrArg some (CodePoint.is_iff.mp hlast)))
    simp only [hreturn, Bool.not_false, Bool.true_and, Bool.false_eq_true, if_false,
      List.nil_append]
    exact normalizeNewlines_append fun c hc hlast =>
      absurd (hc.trans (congrArg some (CodePoint.is_iff.mp hlast))) hu

end Text

/-! ## Portions -/

namespace TextFile

variable {f g : TextFile} {before t : Text} {content : Bytes} {n wanted : Nat}

theorem cut_append (before s t : Text) :
    cut before (s ++ t) = ((cut before s).1 ++ (cut (cut before s).2 t).1, (cut (cut before s).2 t).2) := by
  induction s generalizing before with
  | nil => rfl
  | cons c s ih =>
    rw [List.cons_append, cut, cut]
    split
    · exact ih _
    · rw [ih]
      rfl

/-- A text that is too short for a portion is left over. -/
theorem cut_of_short (h : before.length + t.length < portionSize) : cut before t = ([], before ++ t) := by
  induction t generalizing before with
  | nil => rw [cut, List.append_nil]
  | cons c t ih =>
    rw [List.length_cons] at h
    have hshort : (before ++ [c]).length + t.length < portionSize := by
      rw [List.length_append, List.length_singleton]
      omega
    rw [cut, if_pos (by omega), ih hshort, List.append_assoc, List.singleton_append]

theorem chunkSize_pos (f : TextFile) (wanted : Nat) : 0 < f.chunkSize wanted := by
  rw [chunkSize]
  omega

/-- The text that a file has to give when its octets are decoded as some text: what is held back
    comes first, and line ends are made uniform. -/
def coming (f : TextFile) (t : Text) : Text :=
  Text.normalizeNewlines ((if f.returned then [CodePoint.ofChar '\r'] else []) ++ t)

/-- The octets of a file are decoded as a text. -/
abbrev Decodes (f : TextFile) (t : Text) : Prop := Utf8.decodeFrom f.state f.octets = t.map some

/-- A chunk that is not the last. -/
theorem next_of_advance {u : Text} {state : Utf8.State} (hmore : f.octets ≠ [])
    (h : Utf8.advance f.state (f.octets.take (f.chunkSize wanted)) = some (u, state)) :
    f.next wanted
      = some ((u.normalizePart f.returned false).1,
          { octets := f.octets.drop (f.chunkSize wanted)
            state
            returned := (u.normalizePart f.returned false).2
            taken := (f.octets.take (f.chunkSize wanted)).length
            given := (u.normalizePart f.returned false).1.length }) := by
  have hlast : f.octets.isEmpty = false := List.isEmpty_eq_false_iff.mpr hmore
  simp only [next, h, hlast]
  rfl

theorem length_drop_chunk (hmore : f.octets ≠ []) :
    (f.octets.drop (f.chunkSize wanted)).length < f.octets.length := by
  have hpos := f.chunkSize_pos wanted
  have hlength := List.length_pos_iff.mpr hmore
  rw [List.length_drop]
  omega

/-- A chunk of a text, with more octets to come. -/
theorem exists_next (wanted : Nat) (hmore : f.octets ≠ []) (h : f.Decodes t) :
    ∃ u v g, f.next wanted = some (u, g) ∧ g.octets.length < f.octets.length
      ∧ g.Decodes v ∧ f.coming t = u ++ g.coming v := by
  rw [Decodes, ← List.take_append_drop (f.chunkSize wanted) f.octets] at h
  obtain ⟨u, v, state, hadvance, hrest, rfl⟩ := Utf8.exists_advance h
  exact ⟨_, v, _, next_of_advance hmore hadvance, length_drop_chunk hmore, hrest,
    Text.normalizePart_append f.returned u v⟩

/-- The last chunk of a text gives what was held back. -/
theorem next_last (wanted : Nat) (hlast : f.octets = []) (h : f.Decodes t) :
    ∃ g, f.next wanted = some (f.coming t, g) := by
  rw [Decodes, hlast] at h
  obtain ⟨hstate, rfl⟩ := Utf8.decodeFrom_nil h
  have hnext : f.next wanted = some (f.coming [],
      { octets := [], state := .start, returned := false, taken := 0,
        given := (f.coming []).length }) := by
    simp [next, hlast, hstate, Utf8.advance, Text.normalizePart, coming]
  exact ⟨_, hnext⟩

/-- The portions of a text that comes behind some code points. -/
theorem portionsFrom_eq (h : f.Decodes t) (hn : f.octets.length < n) :
    portionsFrom before n f
      = (cut before (f.coming t)).1 ++ ending (cut before (f.coming t)).2 := by
  induction n generalizing before f t with
  | zero => omega
  | succ n ih =>
    rw [portionsFrom]
    by_cases hmore : f.octets = []
    · obtain ⟨g, hnext⟩ := next_last (portionSize - before.length) hmore h
      simp only [hnext, hmore, List.isEmpty_nil, if_true]
    · obtain ⟨u, v, g, hnext, hless, hrest, hcoming⟩ :=
        exists_next (portionSize - before.length) hmore h
      have hlast : f.octets.isEmpty = false := List.isEmpty_eq_false_iff.mpr hmore
      simp only [hnext, hlast, Bool.false_eq_true, if_false, hcoming, cut_append]
      rw [ih hrest (by omega), List.append_assoc]

/-- The portions of a file that is UTF-8 are those of its text. -/
theorem portions_of_utf8? (h : t.utf8? = some content) :
    portions content = portionsOf t.normalizeNewlines := by
  obtain ⟨rfl, ht⟩ := Text.utf8?_eq_some h
  have hdecodes : Decodes { octets := t.utf8 } t := Text.decode_utf8 ht
  rw [portions, portionsFrom_eq hdecodes (Nat.lt_succ_self _)]
  rfl

/-! ## Files that are not UTF-8 -/

/-- What is known of a file from a chunk that could be decoded. -/
theorem of_next (h : f.next wanted = some (t, g)) :
    ∃ u, Utf8.advance f.state (f.octets.take (f.chunkSize wanted)) = some (u, g.state)
      ∧ g.octets = f.octets.drop (f.chunkSize wanted)
      ∧ (t, g.returned) = u.normalizePart f.returned f.octets.isEmpty
      ∧ (f.octets = [] → g.state = .start) := by
  simp only [next, Option.bind_eq_bind, Option.bind_eq_some_iff] at h
  obtain ⟨⟨u, state⟩, hadvance, h⟩ := h
  split at h
  · cases h
  · next hcomplete =>
    cases h
    refine ⟨u, hadvance, rfl, rfl, fun hlast => ?_⟩
    simpa [hlast] using hcomplete

/-- A file is decoded if it is decoded behind a chunk. -/
theorem Decodes.of_next (hnext : f.next wanted = some (t, g)) {u : Text} (h : g.Decodes u) :
    ∃ v, f.Decodes v := by
  obtain ⟨v, hadvance, hrest, -⟩ := TextFile.of_next hnext
  rw [Decodes, hrest] at h
  have hwhole := Utf8.decodeFrom_of_advance hadvance h
  rw [List.take_append_drop] at hwhole
  exact ⟨v ++ u, hwhole⟩

/-- A file that is not decoded is not decoded behind a chunk either. -/
theorem not_decodes_next (h : ∀ u, ¬ f.Decodes u) (hnext : f.next wanted = some (t, g)) :
    ∀ u, ¬ g.Decodes u := by
  intro u hu
  obtain ⟨v, hv⟩ := Decodes.of_next hnext hu
  exact h v hv

/-- And a chunk that it gives is not the last, which would show that the file is decoded. -/
theorem octets_ne_nil (h : ∀ u, ¬ f.Decodes u) (hnext : f.next wanted = some (t, g)) :
    f.octets ≠ [] := by
  intro hlast
  obtain ⟨-, -, hrest, -, hstate⟩ := TextFile.of_next hnext
  refine not_decodes_next h hnext [] ?_
  rw [Decodes, hrest, hlast, hstate hlast, List.drop_nil]
  rfl

theorem ne_nil_of_mem_cut {p : Text} (h : p ∈ (cut before t).1) : p ≠ [] := by
  induction t generalizing before with
  | nil => cases h
  | cons c t ih =>
    rw [cut] at h
    split at h
    · exact ih h
    · rcases List.mem_cons.mp h with rfl | h
      · exact List.append_ne_nil_of_right_ne_nil _ (List.cons_ne_nil _ _)
      · exact ih h

/-- A file that is not decoded does not come to its end. -/
theorem notMem_portionsFrom (h : ∀ t, ¬ f.Decodes t) : [] ∉ portionsFrom before n f := by
  induction n generalizing before f with
  | zero => exact List.not_mem_nil
  | succ n ih =>
    rw [portionsFrom]
    cases hnext : f.next (portionSize - before.length) with
    | none => exact List.not_mem_nil
    | some chunk =>
      obtain ⟨t, g⟩ := chunk
      have hmore : f.octets.isEmpty = false := List.isEmpty_eq_false_iff.mpr (octets_ne_nil h hnext)
      simp only [hmore, Bool.false_eq_true, if_false, List.mem_append, not_or]
      exact ⟨fun hmem => ne_nil_of_mem_cut hmem rfl, ih (not_decodes_next h hnext)⟩

/-- A file that is not decoded gives nothing if it is too short for a portion. -/
theorem portionsFrom_of_short (h : ∀ t, ¬ f.Decodes t)
    (hshort : before.length + f.returned.toNat + f.octets.length < portionSize) :
    portionsFrom before n f = [] := by
  induction n generalizing before f with
  | zero => rfl
  | succ n ih =>
    rw [portionsFrom]
    cases hnext : f.next (portionSize - before.length) with
    | none => rfl
    | some chunk =>
      obtain ⟨t, g⟩ := chunk
      have hmore : f.octets ≠ [] := octets_ne_nil h hnext
      -- the chunk has at most as many code points as octets, too few for a portion
      obtain ⟨u, hadvance, hrest, hpart, -⟩ := TextFile.of_next hnext
      rw [List.isEmpty_eq_false_iff.mpr hmore] at hpart ⊢
      obtain rfl : t = (u.normalizePart f.returned false).1 := congrArg Prod.fst hpart
      have hreturned : g.returned = (u.normalizePart f.returned false).2 := congrArg Prod.snd hpart
      have htaken := Utf8.length_advance hadvance
      have hpart := Text.length_normalizePart f.returned u
      rw [List.length_take] at htaken
      have hless : before.length + (u.normalizePart f.returned false).1.length
          + g.returned.toNat + g.octets.length < portionSize := by
        rw [hreturned, hrest, List.length_drop]
        omega
      have hcut : cut before (u.normalizePart f.returned false).1
          = ([], before ++ (u.normalizePart f.returned false).1) := cut_of_short (by omega)
      simp only [hcut, List.nil_append, Bool.false_eq_true, if_false]
      exact ih (not_decodes_next h hnext) (by rwa [List.length_append])

theorem not_decodes (h : ∀ t : Text, t.utf8? ≠ some content) (t : Text) :
    ¬ Decodes { octets := content } t := by
  intro hdecodes
  obtain ⟨rfl, ht⟩ := Utf8.utf8_of_decode hdecodes
  exact h t (if_neg (by simpa using ht))

/-- A file that is not UTF-8 does not come to its end. -/
theorem notMem_portions (h : ∀ t : Text, t.utf8? ≠ some content) : [] ∉ portions content :=
  notMem_portionsFrom (not_decodes h)

/-- A file that is not UTF-8 and shorter than a portion has nothing to give. -/
theorem portions_of_short (h : ∀ t : Text, t.utf8? ≠ some content)
    (hshort : content.length < portionSize) : portions content = [] :=
  portionsFrom_of_short (not_decodes h) (by simpa using hshort)

end TextFile

/-! ## What is told -/

namespace Yaml

variable [Platform] {given portions : List Text} {d : Datum}

/-- Something is told as soon as the portions come to the end. -/
theorem isSome_toldAfter? (h : [] ∈ given ++ portions) : (toldAfter? given portions).isSome := by
  induction portions generalizing given with
  | nil => exact Platform.yaml_ended (by simpa using h)
  | cons p rest ih =>
    rw [toldAfter?]
    cases Platform.yaml given with
    | some told => rfl
    | none => exact ih (by simpa using h)

/-- Data are told of portions that come to the end only. -/
theorem mem_of_toldAfter? (h : toldAfter? given portions = some (.ok d)) :
    [] ∈ given ++ portions := by
  induction portions generalizing given with
  | nil => simpa using Platform.yaml_ok h
  | cons p rest ih =>
    rw [toldAfter?] at h
    cases htold : Platform.yaml given with
    | some told =>
      simp only [htold, Option.some.injEq] at h
      exact List.mem_append_left _ (Platform.yaml_ok (htold.trans (congrArg some h)))
    | none =>
      simp only [htold] at h
      simpa using ih h

/-- A whole text is told to be something. -/
theorem told?_portionsOf (t : Text) : told? (TextFile.portionsOf t) = some (load t) := by
  have hend : [] ∈ [] ++ TextFile.portionsOf t := by
    simp only [TextFile.portionsOf, TextFile.ending, List.nil_append, List.mem_append]
    split <;> simp
  obtain ⟨told, htold⟩ := Option.isSome_iff_exists.mp (isSome_toldAfter? hend)
  rw [load, told?, htold]
  rfl

theorem told?_nil : told? [] = none := Platform.yaml_nil

end Yaml

end ImportScan
