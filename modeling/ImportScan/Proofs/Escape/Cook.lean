import ImportScan.Proofs.Escape.Pieces
import ImportScan.Proofs.Text.Units

/-! # The value of raw text

    The code units of the value of a raw text are those of its pieces, one piece after the
    other.  There is no value only if a number in braces is beyond the last code point.

    * `Escape.Piece.units`   : the code units that a piece stands for.
    * `Escape.Piece.Beyond`  : an escape whose number no code point has.
    * `Escape.cook_units`    : the code units of a value.
    * `Escape.cook_error`    : when there is no value, and why.
-/

namespace ImportScan

namespace Escape

open CodePoint (ofChar)

/-! ## What pieces stand for -/

/-- The number that hexadecimal digits spell. -/
def digitsNumber (digits : Text) : Nat := Nat.ofDigits 16 (digits.reverse.map CodePoint.hexValue)

/-- The UTF-16 code units of the code point with a number. -/
def numberUnits (n : Nat) : List Nat :=
  if n < 0x10000 then [n] else [0xD800 + (n - 0x10000) / 0x400, 0xDC00 + (n - 0x10000) % 0x400]

/-- The characters that stand for nothing after a backslash. -/
def lineTerminators : List CodePoint :=
  [ofChar '\n', CodePoint.ofNat 0x2028, CodePoint.ofNat 0x2029]

/-- The control characters that letters name after a backslash. -/
def controls : List (CodePoint × Nat) :=
  [(ofChar 'n', 10), (ofChar 't', 9), (ofChar 'r', 13), (ofChar 'b', 8), (ofChar 'f', 12),
   (ofChar 'v', 11), (ofChar '0', 0)]

/-- The code units that a piece stands for. -/
def Piece.units : Piece → List Nat
  | .char c => numberUnits c.val
  | .braced digits => numberUnits (digitsNumber digits)
  | .four digits => numberUnits (digitsNumber digits)
  | .two digits => numberUnits (digitsNumber digits)
  | .single c =>
    if c ∈ lineTerminators then []
    else
      match controls.lookup c with
      | some n => [n]
      | none => numberUnits c.val

/-- An escape whose number is beyond the last code point. -/
def Piece.Beyond : Piece → Prop
  | .braced digits => 0x10FFFF < digitsNumber digits
  | _ => False

/-- Why an escape with too large a number has no value. -/
def beyondFault (n : Nat) : Fault := if n ≤ 0x7FFFFFFF then .codePointRange else .codePointOverflow

/-! ## Values of tokens -/

theorem hexNumber_eq (digits : Text) : hexNumber digits = digitsNumber digits := by
  rw [hexNumber, digitsNumber, Nat.ofDigits_eq_foldr, List.map_reverse, List.foldr_reverse,
    List.foldl_map]
  simp only [Nat.cast_id, Nat.add_comm]

theorem digitsNumber_lt (digits : Text) : digitsNumber digits < 16 ^ digits.length := by
  have hlt := Nat.ofDigits_lt_base_pow_length (b := 16)
    (l := digits.reverse.map CodePoint.hexValue) (by omega) (by
      intro x hx
      obtain ⟨c, -, rfl⟩ := List.mem_map.mp hx
      exact c.hexValue_lt)
  simpa [digitsNumber] using hlt

theorem singleValue_units (c : CodePoint) : (singleValue c).units = (Piece.single c).units := by
  by_cases hline : c ∈ lineTerminators
  · rw [Piece.units, if_pos hline]
    simp only [lineTerminators, List.mem_cons, List.not_mem_nil, or_false] at hline
    rcases hline with rfl | rfl | rfl <;> rfl
  · by_cases hcontrol : c ∈ controls.map Prod.fst
    · simp only [controls, List.map_cons, List.map_nil, List.mem_cons, List.not_mem_nil,
        or_false] at hcontrol
      rcases hcontrol with rfl | rfl | rfl | rfl | rfl | rfl | rfl <;> rfl
    · -- neither a line terminator nor one of the letters
      have hlookup : controls.lookup c = none := by
        rw [List.lookup_eq_none_iff]
        intro q hq
        rw [bne_iff_ne]
        rintro rfl
        exact hcontrol (List.mem_map_of_mem hq)
      have hvalue : singleValue c = [c] := by
        simp only [lineTerminators, List.mem_cons, List.not_mem_nil, or_false, not_or,
          ← CodePoint.is_iff] at hline
        simp only [controls, List.map_cons, List.map_nil, List.mem_cons, List.not_mem_nil,
          or_false, not_or, ← CodePoint.is_iff] at hcontrol
        have hsecond : c.val ≠ 0x2028 := fun h => hline.2.1 (Fin.ext h)
        have hthird : c.val ≠ 0x2029 := fun h => hline.2.2 (Fin.ext h)
        simp [singleValue, hline, hcontrol, hsecond, hthird]
      rw [hvalue, Piece.units, if_neg hline, hlookup]
      exact List.append_nil _

theorem value_number {n : Nat} (h : n ≤ 0x10FFFF) :
    ∃ v, (Token.number n).value = .ok v ∧ v.units = numberUnits n := by
  have hlt : n < 0x110000 := by omega
  exact ⟨[⟨n, hlt⟩], by rw [Token.value, dif_pos hlt], List.append_nil _⟩

theorem value_number_beyond {n : Nat} (h : 0x10FFFF < n) :
    (Token.number n).value = .error (beyondFault n) := by
  rw [Token.value, dif_neg (by omega), beyondFault]
  split <;> rfl

/-- Four digits or fewer are a code point, whatever they are. -/
theorem value_short {digits : Text} (h : digits.length ≤ 4) :
    ∃ v, (Token.number (hexNumber digits)).value = .ok v
      ∧ v.units = numberUnits (digitsNumber digits) := by
  have hlt := digitsNumber_lt digits
  have hpow : 16 ^ digits.length ≤ 16 ^ 4 := Nat.pow_le_pow_right (by omega) h
  rw [hexNumber_eq]
  exact value_number (by omega)

/-- A piece of a text has a value with its code units, unless it is beyond. -/
theorem First.value {t rest : Text} {p : Piece} (h : First t p rest) (hp : ¬ p.Beyond) :
    ∃ v, p.token.value = .ok v ∧ v.units = p.units := by
  cases h with
  | numeric hnumeric =>
    cases hnumeric with
    | @braced digits _ _ =>
      rw [Piece.token, hexNumber_eq]
      exact value_number (Nat.not_lt.mp hp)
    | four hlength _ => exact value_short (by omega)
    | two hlength _ => exact value_short (by omega)
  | @single c _ _ => exact ⟨singleValue c, rfl, singleValue_units c⟩
  | @char c _ _ => exact ⟨[c], rfl, List.append_nil _⟩

/-- Pieces none of which is beyond have values with the code units of the pieces. -/
theorem Cut.values_ok {t : Text} {ps : List Piece} (h : Cut t ps) (hps : ∀ p ∈ ps, ¬ p.Beyond) :
    ∃ v, values (ps.map Piece.token) = .ok v ∧ v.units = ps.flatMap Piece.units := by
  induction h with
  | nil => exact ⟨[], rfl, rfl⟩
  | @cons t rest p ps hfirst hrest ih =>
    obtain ⟨hp, hps⟩ := List.forall_mem_cons.mp hps
    obtain ⟨v, hv, hunits⟩ := hfirst.value hp
    obtain ⟨vs, hvs, hvunits⟩ := ih hps
    refine ⟨v ++ vs, ?_, ?_⟩
    · rw [List.map_cons, values, hv, hvs]
      rfl
    · rw [List.flatMap_cons, ← hunits, ← hvunits]
      exact List.flatMap_append

/-- The first piece that is beyond decides why there are no values. -/
theorem Cut.values_error {t digits : Text} {before after : List Piece}
    (h : Cut t (before ++ .braced digits :: after)) (hbefore : ∀ p ∈ before, ¬ p.Beyond)
    (hdigits : 0x10FFFF < digitsNumber digits) :
    values ((before ++ .braced digits :: after).map Piece.token)
      = .error (beyondFault (digitsNumber digits)) := by
  induction before generalizing t with
  | nil =>
    rw [List.nil_append, List.map_cons, values, Piece.token, hexNumber_eq,
      value_number_beyond hdigits]
    rfl
  | cons p before ih =>
    obtain ⟨hp, hbefore⟩ := List.forall_mem_cons.mp hbefore
    cases h with
    | cons hfirst hrest =>
      obtain ⟨v, hv, -⟩ := hfirst.value hp
      rw [List.cons_append, List.map_cons, values, hv, ih hrest hbefore]
      rfl

/-- Either no piece is beyond, or there is a first one that is. -/
theorem beyond_cases (ps : List Piece) :
    (∀ p ∈ ps, ¬ p.Beyond) ∨
      ∃ before digits after, ps = before ++ .braced digits :: after
        ∧ (∀ p ∈ before, ¬ p.Beyond) ∧ 0x10FFFF < digitsNumber digits := by
  induction ps with
  | nil => exact .inl (by simp)
  | cons p ps ih =>
    by_cases hp : p.Beyond
    · -- only a number in braces is beyond
      cases p with
      | braced digits => exact .inr ⟨[], digits, ps, rfl, by simp, hp⟩
      | _ => exact hp.elim
    · rcases ih with hnone | ⟨before, digits, after, rfl, hbefore, hdigits⟩
      · exact .inl (List.forall_mem_cons.mpr ⟨hp, hnone⟩)
      · exact .inr ⟨p :: before, digits, after, rfl, List.forall_mem_cons.mpr ⟨hp, hbefore⟩,
          hdigits⟩

/-! ## Joining pairs -/

theorem units_joinPairs (t : Text) : (joinPairs t).units = t.units :=
  Text.units_ofUnits fun _ => Text.lt_of_mem_units

theorem joined_joinPairs (t : Text) : (joinPairs t).Joined :=
  Text.joined_ofUnits fun _ => Text.lt_of_mem_units

/-! ## Text without a backslash -/

/-- Line breaks are all that normalisation brings in. -/
theorem mem_normalizeNewlines {t : Text} {c : CodePoint} (h : c ∈ t.normalizeNewlines) :
    c ∈ t ∨ c = ofChar '\n' := by
  fun_induction Text.normalizeNewlines t with
  | case1 => exact .inl h
  | case2 d hd => exact .inr (List.mem_singleton.mp h)
  | case3 d hd => exact .inl h
  | case4 d e rest hd he ih =>
    rcases List.mem_cons.mp h with rfl | h
    · exact .inr rfl
    · exact (ih h).imp_left fun hc => List.mem_cons_of_mem _ (List.mem_cons_of_mem _ hc)
  | case5 d e rest hd he ih =>
    rcases List.mem_cons.mp h with rfl | h
    · exact .inr rfl
    · exact (ih h).imp_left (List.mem_cons_of_mem _)
  | case6 d e rest hd ih =>
    rcases List.mem_cons.mp h with rfl | h
    · exact .inl List.mem_cons_self
    · exact (ih h).imp_left (List.mem_cons_of_mem _)

theorem joined_normalizeNewlines {raw : Text} (h : ∀ c ∈ raw, c.isSurrogate = false) :
    raw.normalizeNewlines.Joined := by
  refine Text.joined_of_no_surrogate fun c hc => ?_
  rcases mem_normalizeNewlines hc with hc | rfl
  · exact h c hc
  · rfl

/-- Every character of a text without a backslash is a piece. -/
theorem cut_plain {t : Text} (h : t.any (·.is '\\') = false) : Cut t (t.map .char) := by
  induction t with
  | nil => exact .nil
  | cons c t ih =>
    rw [List.any_cons, Bool.or_eq_false_iff] at h
    refine .cons (.char fun hslash => ?_) (ih h.2)
    rw [CodePoint.is_iff.mpr hslash] at h
    cases h.1

theorem values_plain (t : Text) : values (t.map .char) = .ok t := by
  induction t with
  | nil => rfl
  | cons c t ih =>
    rw [List.map_cons, values, ih]
    rfl

/-- A text without a backslash is the value of its tokens. -/
theorem values_tokens_plain {t : Text} (h : t.any (·.is '\\') = false) :
    values (tokens t) = .ok t := by
  obtain ⟨ps, hcut, htokens⟩ := exists_cut t
  rw [htokens, hcut.unique (cut_plain h), List.map_map]
  exact values_plain t

/-! ## Values of raw text -/

/-- Where no pair stands apart, the value of a raw text is that of its tokens, also if there
    is no backslash in it. -/
theorem cook_eq {raw : Text} (h : raw.normalizeNewlines.Joined) :
    cook raw = (values (tokens raw.normalizeNewlines)).map joinPairs := by
  rw [cook]
  split
  · rfl
  · next hplain =>
    rw [Bool.not_eq_true] at hplain
    rw [values_tokens_plain hplain]
    exact congrArg Except.ok (Text.ofUnits_units h).symm

/-- A raw text has no value exactly if its tokens have none. -/
theorem cook_eq_error_iff {raw : Text} {f : Fault} :
    cook raw = .error f ↔ values (tokens raw.normalizeNewlines) = .error f := by
  rw [cook]
  split
  · cases values (tokens raw.normalizeNewlines) <;> simp [Except.map]
  · next hplain =>
    rw [Bool.not_eq_true] at hplain
    rw [values_tokens_plain hplain]

/-- The meaning of raw text.  Without surrogates in it, the code units of its value are
    those of its pieces, no pair stands apart in the value, and the value is that of the
    tokens with the pairs joined, whether or not there is a backslash. -/
theorem cook_units {raw t : Text} (hraw : ∀ c ∈ raw, c.isSurrogate = false)
    (hcook : cook raw = .ok t) :
    (∃ ps, Cut raw.normalizeNewlines ps ∧ (∀ qs, Cut raw.normalizeNewlines qs → qs = ps)
        ∧ t.units = ps.flatMap Piece.units)
      ∧ t.Joined
      ∧ (values (tokens raw.normalizeNewlines)).map joinPairs = .ok t := by
  have hfull : (values (tokens raw.normalizeNewlines)).map joinPairs = .ok t := by
    rw [← cook_eq (joined_normalizeNewlines hraw), hcook]
  obtain ⟨ps, hcut, htokens⟩ := exists_cut raw.normalizeNewlines
  -- there is a value, so no piece is beyond
  have hps : ∀ p ∈ ps, ¬ p.Beyond := by
    rcases beyond_cases ps with hnone | ⟨before, digits, after, rfl, hbefore, hdigits⟩
    · exact hnone
    · rw [htokens, hcut.values_error hbefore hdigits] at hfull
      cases hfull
  obtain ⟨v, hv, hunits⟩ := hcut.values_ok hps
  have ht : joinPairs v = t := by
    rw [htokens, hv] at hfull
    exact Except.ok.inj hfull
  refine ⟨⟨ps, hcut, fun qs hqs => hqs.unique hcut, ?_⟩, ?_, hfull⟩
  · rw [← ht, units_joinPairs, hunits]
  · rw [← ht]
    exact joined_joinPairs v

/-- The two halves of a pair, a half on its own, a line break, a code point beyond the first
    65536, a line continuation and an escape that is cut short. -/
def halves : Text :=
  Text.ofString "\\uD83D\\uDE00\\uD800\r\n\\u\x7b1F4A9\x7d\\\n\\u12"

theorem cook_units_halves :
    (∀ c ∈ halves, c.isSurrogate = false)
      ∧ ∃ t, cook halves = .ok t ∧ t.map (·.val) = [0x1F600, 0xD800, 10, 0x1F4A9, 117, 49, 50]
      ∧ t.Joined
      ∧ ∃ ps, Cut halves.normalizeNewlines ps ∧ t.units = ps.flatMap Piece.units := by
  have hraw : ∀ c ∈ halves, c.isSurrogate = false := by
    have hall : (halves.all fun c => !c.isSurrogate) = true := rfl
    simpa using hall
  obtain ⟨t, hcook, hvalue⟩ : ∃ t, cook halves = .ok t
      ∧ t.map (·.val) = [0x1F600, 0xD800, 10, 0x1F4A9, 117, 49, 50] := ⟨_, rfl, rfl⟩
  obtain ⟨⟨ps, hcut, -, hunits⟩, hjoined, -⟩ := cook_units hraw hcook
  exact ⟨hraw, t, hcook, hvalue, hjoined, ps, hcut, hunits⟩

/-- When raw text has no value.  It has none exactly if one of its pieces is a number in
    braces beyond the last code point, and the first of these tells why. -/
theorem cook_error (raw : Text) :
    ∃ ps, Cut raw.normalizeNewlines ps ∧ (∀ qs, Cut raw.normalizeNewlines qs → qs = ps) ∧
      ∀ f, cook raw = .error f ↔
        ∃ before digits after, ps = before ++ .braced digits :: after
          ∧ (∀ p ∈ before, ¬ p.Beyond) ∧ 0x10FFFF < digitsNumber digits
          ∧ f = beyondFault (digitsNumber digits) := by
  obtain ⟨ps, hcut, htokens⟩ := exists_cut raw.normalizeNewlines
  refine ⟨ps, hcut, fun qs hqs => hqs.unique hcut, fun f => ?_⟩
  rw [cook_eq_error_iff, htokens]
  constructor
  · intro hf
    rcases beyond_cases ps with hnone | ⟨before, digits, after, rfl, hbefore, hdigits⟩
    · obtain ⟨v, hv, -⟩ := hcut.values_ok hnone
      rw [hv] at hf
      cases hf
    · rw [hcut.values_error hbefore hdigits] at hf
      exact ⟨before, digits, after, rfl, hbefore, hdigits, (Except.error.inj hf).symm⟩
  · rintro ⟨before, digits, after, rfl, hbefore, hdigits, rfl⟩
    exact hcut.values_error hbefore hdigits

-- after an escaped backslash there is no escape, and the next one is too large to be looked at
example :
    cook (Text.ofString "\\\\u\x7b110000\x7d\\u\x7b80000000\x7d\\u\x7b110000\x7d")
      = .error .codePointOverflow := rfl

end Escape

end ImportScan
