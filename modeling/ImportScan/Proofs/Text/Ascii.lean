import ImportScan.Datum.Json
import Mathlib.Tactic.IntervalCases

/-! # Texts in ASCII

    Numbers and JSON documents are written in ASCII, whatever the data are.

    * `Text.Ascii`       : a text all of whose code points are below 128.
    * `Datum.ascii_json` : the JSON document of a datum is such a text.
-/

namespace ImportScan

namespace Text

/-- A text in ASCII. -/
def Ascii (t : Text) : Prop := ∀ c ∈ t, c.val < 0x80

instance (t : Text) : Decidable t.Ascii := List.decidableBAll _ t

variable {s t : Text}

theorem Ascii.nil : Ascii [] := List.forall_mem_nil _

theorem Ascii.cons {c : CodePoint} (hc : c.val < 0x80) (ht : t.Ascii) : Ascii (c :: t) :=
  List.forall_mem_cons.mpr ⟨hc, ht⟩

theorem Ascii.append (hs : s.Ascii) (ht : t.Ascii) : Ascii (s ++ t) :=
  List.forall_mem_append.mpr ⟨hs, ht⟩

theorem Ascii.flatMap {α : Type} {xs : List α} {f : α → Text} (h : ∀ x ∈ xs, (f x).Ascii) :
    Ascii (xs.flatMap f) := by
  intro c hc
  obtain ⟨x, hx, hc⟩ := List.mem_flatMap.mp hc
  exact h x hx c hc

theorem Ascii.replicate {c : CodePoint} (hc : c.val < 0x80) (n : Nat) :
    Ascii (List.replicate n c) := by
  intro d hd
  rwa [List.eq_of_mem_replicate hd]

theorem Ascii.take (h : t.Ascii) (n : Nat) : Ascii (t.take n) := fun c hc =>
  h c (List.mem_of_mem_take hc)

theorem Ascii.drop (h : t.Ascii) (n : Nat) : Ascii (t.drop n) := fun c hc =>
  h c (List.mem_of_mem_drop hc)

theorem Ascii.join {sep : Text} {ts : List Text} (hsep : sep.Ascii) (h : ∀ t ∈ ts, t.Ascii) :
    Ascii (Text.join sep ts) := by
  fun_induction Text.join sep ts with
  | case1 => exact .nil
  | case2 t => exact h t List.mem_cons_self
  | case3 t ts hne ih =>
    obtain ⟨ht, hts⟩ := List.forall_mem_cons.mp h
    exact (ht.append hsep).append (ih hts)

/-! ## Numbers -/

theorem ascii_digitChar (n : Nat) : (CodePoint.ofChar n.digitChar).val < 0x80 := by
  by_cases hn : n < 16
  · interval_cases n <;> decide
  · -- there is no digit beyond the sixteenth
    have hstar : n.digitChar = '*' := by
      unfold Nat.digitChar
      repeat rw [if_neg (by omega)]
    rw [hstar]
    decide

theorem ascii_toDigitsCore (base : Nat) {fuel n : Nat} {cs : List Char}
    (h : Ascii (cs.map CodePoint.ofChar)) :
    Ascii ((Nat.toDigitsCore base fuel n cs).map CodePoint.ofChar) := by
  induction fuel generalizing n cs with
  | zero => exact h
  | succ fuel ih =>
    have hcons : Ascii (((n % base).digitChar :: cs).map CodePoint.ofChar) :=
      .cons (ascii_digitChar _) h
    rw [Nat.toDigitsCore]
    split
    · exact hcons
    · exact ih hcons

theorem ascii_toDigits (base n : Nat) : Ascii ((Nat.toDigits base n).map CodePoint.ofChar) :=
  ascii_toDigitsCore base .nil

theorem ascii_ofNat (n : Nat) : (ofNat n).Ascii := by
  rw [ofNat, ofString, Nat.toString_eq_ofList_toDigits, String.toList_ofList]
  exact ascii_toDigits 10 n

theorem ascii_ofInt (n : Int) : (ofInt n).Ascii := by
  unfold ofInt
  split
  · exact .cons (by decide) (ascii_ofNat _)
  · exact ascii_ofNat _

theorem ascii_hex (width n : Nat) : (hex width n).Ascii := by
  have hdigits : Ascii (ofString (String.ofList (Nat.toDigits 16 n))) := by
    rw [ofString, String.toList_ofList]
    exact ascii_toDigits 16 n
  exact (Ascii.replicate (by decide) _).append hdigits

end Text

theorem Binary64.ascii_text (x : Binary64) : x.text.Ascii := by
  unfold text
  split
  · decide
  · split <;> decide
  · next negative m e =>
    have hsign : Text.Ascii (if negative then Text.ofString "-" else []) := by
      split
      · decide
      · exact .nil
    have hzeros : ∀ n, Text.Ascii (List.replicate n (CodePoint.ofChar '0')) :=
      Text.Ascii.replicate (by decide)
    simp only
    split
    · exact hsign.append (by decide)
    · have hdigits := Text.ascii_ofNat (dropZeros 20 (shortest m e).1 (shortest m e).2).1
      refine hsign.append ?_
      split
      · split
        · exact (Text.Ascii.append (by decide) (hzeros _)).append hdigits
        · split
          · exact ((hdigits.take _).append (by decide)).append (hdigits.drop _)
          · exact (hdigits.append (hzeros _)).append (by decide)
      · -- with a mark for the exponent
        refine .append (.append (.append (.append (hdigits.take 1) ?_) ?_) (hzeros _))
          (Text.ascii_ofNat _)
        · split
          · exact .nil
          · exact Text.Ascii.append (by decide) (hdigits.drop 1)
        · split <;> decide

/-! ## JSON -/

namespace Json

theorem ascii_escape (c : CodePoint) : (escape c).Ascii := by
  unfold escape
  -- seven code points have an escape of their own
  iterate 7
    split
    · decide
  split
  · exact .cons (by omega) .nil
  · exact .flatMap fun u _ => .append (by decide) (Text.ascii_hex 4 u)

theorem ascii_string (t : Text) : (string t).Ascii :=
  (Text.Ascii.append (by decide) (.flatMap fun c _ => ascii_escape c)).append (by decide)

theorem ascii_newline (level : Nat) : (newline level).Ascii :=
  .cons (by decide) (.replicate (by decide) _)

theorem ascii_bracketed {opening closing : Char} (hopening : (CodePoint.ofChar opening).val < 0x80)
    (hclosing : (CodePoint.ofChar closing).val < 0x80) (level : Nat) {lines : List Text}
    (h : ∀ t ∈ lines, t.Ascii) : (bracketed opening closing level lines).Ascii := by
  unfold bracketed
  split
  · exact .cons hopening (.cons hclosing .nil)
  · have hjoined : (Text.join (Text.ofString "," ++ newline (level + 1)) lines).Ascii :=
      .join (.append (by decide) (ascii_newline _)) h
    exact .cons hopening
      ((((ascii_newline _).append hjoined).append (ascii_newline _)).append (.cons hclosing .nil))

theorem ascii_number (x : Binary64) : (number x).Ascii := by
  unfold number
  split
  · decide
  · split <;> decide
  · exact x.ascii_text

mutual

theorem ascii_document (level : Nat) : ∀ d : Datum, (document level d).Ascii
  | .null => by rw [document]; decide
  | .bool b => by rw [document]; cases b <;> decide
  | .int n => by rw [document]; exact Text.ascii_ofInt n
  | .real x => by rw [document]; exact ascii_number x
  | .text t => by rw [document]; exact ascii_string t
  | .moment m => by rw [document]; exact ascii_string m.text
  | .list xs => by
    rw [document]
    exact ascii_bracketed (by decide) (by decide) level (ascii_items (level + 1) xs)
  | .map es => by
    rw [document]
    exact ascii_bracketed (by decide) (by decide) level (ascii_fields (level + 1) es)

theorem ascii_items (level : Nat) : ∀ xs : List Datum, ∀ t ∈ items level xs, t.Ascii
  | [] => by simp [items]
  | x :: xs => by
    rw [items]
    exact List.forall_mem_cons.mpr ⟨ascii_document level x, ascii_items level xs⟩

theorem ascii_fields (level : Nat) : ∀ es : List (Datum × Datum), ∀ t ∈ fields level es, t.Ascii
  | [] => by simp [fields]
  | (k, v) :: rest => by
    rw [fields]
    exact List.forall_mem_cons.mpr
      ⟨((ascii_string k.display).append (by decide)).append (ascii_document level v),
        ascii_fields level rest⟩

end

end Json

/-- A JSON document is in ASCII, whatever the datum is. -/
theorem Datum.ascii_json (d : Datum) : d.json.Ascii := Json.ascii_document 0 d

end ImportScan
