import Mathlib.Data.Nat.Digits.Lemmas
import ImportScan.Escape
import ImportScan.Proofs.Text.Units

/-! # Raw text in pieces

    Raw text falls into pieces, which are characters and escapes, from left to right and in
    exactly one way.  The tokens of a text are those of its pieces.

    * `Escape.Piece`      : a piece as it is spelled.
    * `Escape.First`      : the piece that a text begins with, and the text after it.
    * `Escape.Cut`        : a text cut into pieces.
    * `Escape.Cut.unique` : there is only one way to cut a text.
    * `Escape.exists_cut` : there is one, and the tokens follow it.
-/

namespace ImportScan

namespace CodePoint

theorem hexValue_lt (c : CodePoint) : c.hexValue < 16 := by
  unfold hexValue
  split
  · next h =>
    simp only [isDigit, isBetween, Bool.and_eq_true, decide_eq_true_eq] at h
    have hnine : '9'.toNat = 57 := rfl
    omega
  · split
    · next h =>
      simp only [isBetween, Bool.and_eq_true, decide_eq_true_eq] at h
      have hf : 'f'.toNat = 102 := rfl
      omega
    · split
      · next h =>
        simp only [isBetween, Bool.and_eq_true, decide_eq_true_eq] at h
        have hf : 'F'.toNat = 70 := rfl
        omega
      · omega

end CodePoint

namespace Escape

open CodePoint (ofChar)

/-! ## Pieces -/

/-- A piece of raw text. -/
inductive Piece where
  /-- A character on its own. -/
  | char (c : CodePoint)
  /-- An escape with hexadecimal digits in braces. -/
  | braced (digits : Text)
  /-- An escape with four hexadecimal digits. -/
  | four (digits : Text)
  /-- An escape with two hexadecimal digits. -/
  | two (digits : Text)
  /-- A backslash and one character. -/
  | single (c : CodePoint)
deriving Repr, DecidableEq

namespace Piece

/-- The spelling of a piece. -/
def raw : Piece → Text
  | .char c => [c]
  | .braced digits => ofChar '\\' :: ofChar 'u' :: ofChar '{' :: (digits ++ [ofChar '}'])
  | .four digits => ofChar '\\' :: ofChar 'u' :: digits
  | .two digits => ofChar '\\' :: ofChar 'x' :: digits
  | .single c => [ofChar '\\', c]

/-- An escape that gives a number, spelled as it has to be. -/
inductive Numeric : Piece → Prop where
  | braced {digits : Text} (hsome : digits ≠ []) (hhex : ∀ d ∈ digits, d.isHexDigit = true) :
      Numeric (.braced digits)
  | four {digits : Text} (hlength : digits.length = 4)
      (hhex : ∀ d ∈ digits, d.isHexDigit = true) : Numeric (.four digits)
  | two {digits : Text} (hlength : digits.length = 2)
      (hhex : ∀ d ∈ digits, d.isHexDigit = true) : Numeric (.two digits)

/-- The digits of an escape that gives a number. -/
def digits : Piece → Text
  | .braced digits => digits
  | .four digits => digits
  | .two digits => digits
  | _ => []

/-- The token of a piece. -/
def token : Piece → Token
  | .char c => .char c
  | .braced digits => .number (hexNumber digits)
  | .four digits => .number (hexNumber digits)
  | .two digits => .number (hexNumber digits)
  | .single c => .single c

end Piece

/-- What a text begins with and what follows it: an escape that gives a number wherever one
    is spelled; else, after a backslash, the next character whatever it is; else a character.
    A backslash at the very end is a character, too. -/
inductive First : Text → Piece → Text → Prop where
  | numeric {p : Piece} {rest : Text} (h : p.Numeric) : First (p.raw ++ rest) p rest
  | single {c : CodePoint} {rest : Text}
      (h : ∀ p : Piece, p.Numeric → ¬ p.raw <+: ofChar '\\' :: c :: rest) :
      First (ofChar '\\' :: c :: rest) (.single c) rest
  | char {c : CodePoint} {rest : Text} (h : c = ofChar '\\' → rest = []) :
      First (c :: rest) (.char c) rest

/-- A text cut into pieces, from left to right. -/
inductive Cut : Text → List Piece → Prop where
  | nil : Cut [] []
  | cons {t rest : Text} {p : Piece} {ps : List Piece} (hfirst : First t p rest)
      (hrest : Cut rest ps) : Cut t (p :: ps)

/-! ## Digits -/

theorem braced?_eq_some_iff {t digits rest : Text} :
    braced? t = some (digits, rest) ↔
      t = digits ++ ofChar '}' :: rest ∧ digits ≠ [] ∧ ∀ d ∈ digits, d.isHexDigit = true := by
  constructor
  · intro h
    have hsplit := List.takeWhile_append_dropWhile (p := CodePoint.isHexDigit) (l := t)
    simp only [braced?] at h
    split at h
    · next c after hdrop =>
      rw [hdrop] at hsplit
      split at h
      · next hclosed =>
        rw [Bool.and_eq_true, CodePoint.is_iff] at hclosed
        simp only [Option.some.injEq, Prod.mk.injEq] at h
        obtain ⟨rfl, rfl⟩ := h
        refine ⟨by rw [← hclosed.1, hsplit], by simpa using hclosed.2, ?_⟩
        exact List.all_eq_true.mp List.all_takeWhile
      · cases h
    · cases h
  · rintro ⟨rfl, hsome, hhex⟩
    -- the digits end at the brace, which is none
    have hbrace : (ofChar '}').isHexDigit = false := by decide
    have htake : (digits ++ ofChar '}' :: rest).takeWhile CodePoint.isHexDigit = digits := by
      rw [List.takeWhile_append_of_pos hhex, List.takeWhile_cons_of_neg (by simp [hbrace]),
        List.append_nil]
    have hdrop : (digits ++ ofChar '}' :: rest).dropWhile CodePoint.isHexDigit
        = ofChar '}' :: rest := by
      rw [List.dropWhile_append_of_pos hhex, List.dropWhile_cons_of_neg (by simp [hbrace])]
    unfold braced?
    rw [hdrop, htake]
    have hclosed : (ofChar '}').is '}' = true := CodePoint.is_iff.mpr rfl
    simp [hclosed, hsome]

theorem fixed?_eq_some_iff {n : Nat} {t digits rest : Text} :
    fixed? n t = some (digits, rest) ↔
      t = digits ++ rest ∧ digits.length = n ∧ ∀ d ∈ digits, d.isHexDigit = true := by
  constructor
  · intro h
    simp only [fixed?] at h
    split at h
    · next hfits =>
      simp only [Option.some.injEq, Prod.mk.injEq] at h
      obtain ⟨rfl, rfl⟩ := h
      exact ⟨(List.take_append_drop n t).symm, hfits.1, List.all_eq_true.mp hfits.2⟩
    · cases h
  · rintro ⟨rfl, rfl, hhex⟩
    have hall : digits.all CodePoint.isHexDigit = true := List.all_eq_true.mpr hhex
    simp [fixed?, hall]

/-! ## Escapes that give a number -/

theorem map_eq_some_number {found : Option (Text × Text)} {n : Nat} {rest : Text}
    (h : (found.map fun (digits, rest) => (hexNumber digits, rest)) = some (n, rest)) :
    ∃ digits, found = some (digits, rest) ∧ hexNumber digits = n := by
  obtain ⟨⟨digits, after⟩, hfound, heq⟩ := Option.map_eq_some_iff.mp h
  simp only [Prod.mk.injEq] at heq
  obtain ⟨hnumber, rfl⟩ := heq
  exact ⟨digits, hfound, hnumber⟩

/-- A numeric escape that is found is spelled there. -/
theorem numeric_of_numeric? {t rest : Text} {n : Nat} (h : numeric? t = some (n, rest)) :
    ∃ p : Piece, p.Numeric ∧ ofChar '\\' :: t = p.raw ++ rest ∧ p.token = .number n := by
  obtain ⟨digits, hfound, hnumber⟩ := map_eq_some_number h
  have hfour {after : Text} (ht : t = ofChar 'u' :: after)
      (hfixed : fixed? 4 after = some (digits, rest)) :
      ∃ p : Piece, p.Numeric ∧ ofChar '\\' :: t = p.raw ++ rest ∧ p.token = .number n := by
    obtain ⟨rfl, hlength, hhex⟩ := fixed?_eq_some_iff.mp hfixed
    exact ⟨.four digits, .four hlength hhex, by rw [ht]; rfl, by rw [← hnumber]; rfl⟩
  cases t with
  | nil => cases hfound
  | cons c after =>
    simp only at hfound
    by_cases hu : c.is 'u' = true
    · have hc := CodePoint.is_iff.mp hu
      rw [if_pos hu] at hfound
      cases after with
      | nil => cases hfound
      | cons d more =>
        simp only at hfound
        by_cases hbrace : d.is '{' = true
        · rw [if_pos hbrace] at hfound
          rcases Option.or_eq_some_iff.mp hfound with hbraced | ⟨-, hfixed⟩
          · obtain ⟨rfl, hsome, hhex⟩ := braced?_eq_some_iff.mp hbraced
            have hd := CodePoint.is_iff.mp hbrace
            refine ⟨.braced digits, .braced hsome hhex, ?_, by rw [← hnumber]; rfl⟩
            rw [hc, hd]
            simp [Piece.raw]
          · exact hfour (by rw [hc]) hfixed
        · rw [if_neg hbrace] at hfound
          exact hfour (by rw [hc]) hfound
    · rw [if_neg hu] at hfound
      by_cases hx : c.is 'x' = true
      · rw [if_pos hx] at hfound
        obtain ⟨rfl, hlength, hhex⟩ := fixed?_eq_some_iff.mp hfound
        rw [CodePoint.is_iff.mp hx]
        exact ⟨.two digits, .two hlength hhex, rfl, by rw [← hnumber]; rfl⟩
      · rw [if_neg hx] at hfound
        cases hfound

/-- A numeric escape that is spelled is found. -/
theorem numeric?_of_numeric {p : Piece} {t rest : Text} (hp : p.Numeric)
    (h : ofChar '\\' :: t = p.raw ++ rest) : numeric? t = some (hexNumber p.digits, rest) := by
  have hu : (ofChar 'u').is 'u' = true := CodePoint.is_iff.mpr rfl
  have hxu : (ofChar 'x').is 'u' = false := by decide
  have hx : (ofChar 'x').is 'x' = true := CodePoint.is_iff.mpr rfl
  have hbrace : (ofChar '{').is '{' = true := CodePoint.is_iff.mpr rfl
  cases hp with
  | @braced digits hsome hhex =>
    simp only [Piece.raw, List.cons_append, List.append_assoc, List.nil_append, List.cons.injEq,
      true_and] at h
    have hfound : braced? (digits ++ ofChar '}' :: rest) = some (digits, rest) :=
      braced?_eq_some_iff.mpr ⟨rfl, hsome, hhex⟩
    rw [h]
    simp [numeric?, hu, hbrace, hfound, Piece.digits]
  | @four digits hlength hhex =>
    simp only [Piece.raw, List.cons_append, List.cons.injEq, true_and] at h
    have hfound : fixed? 4 (digits ++ rest) = some (digits, rest) :=
      fixed?_eq_some_iff.mpr ⟨rfl, hlength, hhex⟩
    rw [h]
    -- the first digit is no brace, so the braces are not tried
    cases digits with
    | nil => cases hlength
    | cons d more =>
      have hd : d.is '{' = false := by
        rw [Bool.eq_false_iff]
        intro hopen
        have hhexd := hhex d List.mem_cons_self
        rw [CodePoint.is_iff.mp hopen] at hhexd
        exact absurd hhexd (by decide)
      rw [List.cons_append] at hfound ⊢
      simp [numeric?, hu, hd, hfound, Piece.digits]
  | @two digits hlength hhex =>
    simp only [Piece.raw, List.cons_append, List.cons.injEq, true_and] at h
    have hfound : fixed? 2 (digits ++ rest) = some (digits, rest) :=
      fixed?_eq_some_iff.mpr ⟨rfl, hlength, hhex⟩
    rw [h]
    simp [numeric?, hxu, hx, hfound, Piece.digits]

/-! ## One way to cut -/

theorem Piece.Numeric.head {p : Piece} (h : p.Numeric) : ∃ t, p.raw = ofChar '\\' :: t := by
  cases h <;> exact ⟨_, rfl⟩

/-- Numeric escapes that are spelled alike are the same. -/
theorem Piece.Numeric.raw_inj {p q : Piece} (hp : p.Numeric) (hq : q.Numeric)
    (h : p.raw = q.raw) : p = q := by
  -- a brace is no digit, so four digits are never taken for braces
  have hopen {digits more : Text} (hhex : ∀ d ∈ digits, d.isHexDigit = true) :
      (Piece.four digits).raw ≠ (Piece.braced more).raw := by
    intro heq
    simp only [Piece.raw, List.cons.injEq, true_and] at heq
    rw [heq] at hhex
    exact absurd (hhex _ List.mem_cons_self) (by decide)
  have hux : ofChar 'u' ≠ ofChar 'x' := by decide
  cases hp with
  | braced _ _ =>
    cases hq with
    | braced _ _ => simpa [Piece.raw] using h
    | four _ hhex => exact absurd h.symm (hopen hhex)
    | two _ _ => exact absurd h (by simp [Piece.raw, hux])
  | four _ hhex =>
    cases hq with
    | braced _ _ => exact absurd h (hopen hhex)
    | four _ _ => simpa [Piece.raw] using h
    | two _ _ => exact absurd h (by simp [Piece.raw, hux])
  | two _ _ =>
    cases hq with
    | braced _ _ => exact absurd h (by simp [Piece.raw, hux.symm])
    | four _ _ => exact absurd h (by simp [Piece.raw, hux.symm])
    | two _ _ => simpa [Piece.raw] using h

/-- A text begins with at most one numeric escape. -/
theorem Piece.Numeric.first_unique {p q : Piece} {r s : Text} (hp : p.Numeric) (hq : q.Numeric)
    (h : p.raw ++ r = q.raw ++ s) : p = q ∧ r = s := by
  obtain ⟨t, ht⟩ := hp.head
  have hfirst : ofChar '\\' :: (t ++ r) = p.raw ++ r := by rw [ht, List.cons_append]
  -- both escapes are what is found there, so the same text is left
  have hfound := (numeric?_of_numeric hp hfirst).symm.trans
    (numeric?_of_numeric hq (hfirst.trans h))
  simp only [Option.some.injEq, Prod.mk.injEq] at hfound
  obtain ⟨-, rfl⟩ := hfound
  exact ⟨hp.raw_inj hq (List.append_cancel_right h), rfl⟩

theorem Piece.Numeric.two_le {p : Piece} (h : p.Numeric) : 2 ≤ p.raw.length := by
  cases h <;> simp [Piece.raw]

/-- A text begins with one piece only. -/
theorem First.unique {t r s : Text} {p q : Piece} (hp : First t p r) (hq : First t q s) :
    p = q ∧ r = s := by
  -- a numeric escape leaves neither a single character after the backslash nor a lone one
  have hclash {p : Piece} {c : CodePoint} {r rest : Text} (hn : p.Numeric)
      (hraw : p.raw ++ r = c :: rest) (hc : c = ofChar '\\' → rest = []) : False := by
    obtain ⟨u, hu⟩ := hn.head
    have htwo := hn.two_le
    have hlength := congrArg List.length hraw
    rw [hu, List.cons_append, List.cons.injEq] at hraw
    rw [hc hraw.1.symm, List.length_append, List.length_singleton] at hlength
    omega
  cases hp with
  | @numeric p _ hnumeric =>
    generalize htext : p.raw ++ r = text at hq
    cases hq with
    | numeric hq => exact hnumeric.first_unique hq htext
    | single hnone => exact absurd ⟨r, htext⟩ (hnone p hnumeric)
    | char hc => exact (hclash hnumeric htext hc).elim
  | @single c _ hnone =>
    generalize htext : ofChar '\\' :: c :: r = text at hq
    cases hq with
    | @numeric q _ hq => exact absurd ⟨s, htext.symm⟩ (hnone q hq)
    | single _ =>
      simp only [List.cons.injEq, true_and] at htext
      exact ⟨by rw [htext.1], htext.2⟩
    | char hc =>
      rw [List.cons.injEq] at htext
      rw [hc htext.1.symm] at htext
      cases htext.2
  | @char c _ hc =>
    generalize htext : c :: r = text at hq
    cases hq with
    | numeric hq => exact (hclash hq htext.symm hc).elim
    | single _ =>
      rw [List.cons.injEq] at htext
      rw [hc htext.1] at htext
      cases htext.2
    | char _ =>
      rw [List.cons.injEq] at htext
      exact ⟨by rw [htext.1], htext.2⟩

/-- A piece takes something off the text. -/
theorem First.length_lt {t rest : Text} {p : Piece} (h : First t p rest) :
    rest.length < t.length := by
  cases h with
  | numeric hnumeric =>
    have htwo := hnumeric.two_le
    rw [List.length_append]
    omega
  | single _ => simp
  | char _ => simp

/-- There is only one way to cut a text into pieces. -/
theorem Cut.unique {t : Text} {ps qs : List Piece} (hp : Cut t ps) (hq : Cut t qs) : ps = qs := by
  induction hp generalizing qs with
  | nil =>
    cases hq with
    | nil => rfl
    | cons hfirst _ => exact absurd hfirst.length_lt (by simp)
  | cons hfirst _ ih =>
    cases hq with
    | nil => exact absurd hfirst.length_lt (by simp)
    | cons hfirst' hrest' =>
      obtain ⟨rfl, rfl⟩ := hfirst.unique hfirst'
      rw [ih hrest']

/-! ## The tokens of a text -/

/-- A text that is not empty begins with a piece, whose token is the first one. -/
theorem exists_first (n : Nat) (c : CodePoint) (after : Text) :
    ∃ p rest, First (c :: after) p rest
      ∧ tokensWithin (n + 1) (c :: after) = p.token :: tokensWithin n rest := by
  by_cases hc : c.is '\\' = true
  · have hslash := CodePoint.is_iff.mp hc
    cases hfound : numeric? after with
    | some found =>
      obtain ⟨number, rest⟩ := found
      obtain ⟨p, hp, hraw, htoken⟩ := numeric_of_numeric? hfound
      refine ⟨p, rest, ?_, ?_⟩
      · rw [hslash, hraw]
        exact .numeric hp
      · simp [tokensWithin, hc, hfound, htoken]
    | none =>
      cases after with
      | nil =>
        refine ⟨.char c, [], .char fun _ => rfl, ?_⟩
        cases n <;> simp [tokensWithin, hc, hfound, Piece.token]
      | cons d rest =>
        refine ⟨.single d, rest, ?_, by simp [tokensWithin, hc, hfound, Piece.token]⟩
        rw [hslash]
        refine .single fun p hp hspelled => ?_
        -- an escape that is spelled would have been found
        obtain ⟨after, hafter⟩ := hspelled
        rw [numeric?_of_numeric hp hafter.symm] at hfound
        cases hfound
  · refine ⟨.char c, after, .char fun hslash => ?_, by simp [tokensWithin, hc, Piece.token]⟩
    exact absurd (CodePoint.is_iff.mpr hslash) hc

/-- With enough rounds the tokens of a text are those of its pieces. -/
theorem exists_cut_within {n : Nat} {t : Text} (h : t.length ≤ n) :
    ∃ ps, Cut t ps ∧ tokensWithin n t = ps.map Piece.token := by
  induction n generalizing t with
  | zero =>
    have hnil : t = [] := List.length_eq_zero_iff.mp (by omega)
    subst hnil
    exact ⟨[], .nil, rfl⟩
  | succ n ih =>
    cases t with
    | nil => exact ⟨[], .nil, rfl⟩
    | cons c after =>
      obtain ⟨p, rest, hfirst, htokens⟩ := exists_first n c after
      have hshorter := hfirst.length_lt
      obtain ⟨ps, hcut, hrest⟩ := ih (t := rest) (by omega)
      exact ⟨p :: ps, .cons hfirst hcut, by rw [htokens, hrest, List.map_cons]⟩

/-- Every text can be cut into pieces, and its tokens are those of the pieces. -/
theorem exists_cut (t : Text) : ∃ ps, Cut t ps ∧ tokens t = ps.map Piece.token :=
  exists_cut_within (Nat.le_refl t.length)

end Escape

end ImportScan
