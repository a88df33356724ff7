import Mathlib.Data.List.DropRight
import ImportScan.Text.Basic

/-! # Trimming

    A trimmed text neither starts nor ends with what is trimmed, and such a text is trimmed to
    itself.

    * `Text.head?_trimStart`, `Text.getLast?_trimEnd` : the ends of what is left.
    * `Text.trim_eq_self_iff` : the texts that trimming leaves as they are.
-/

namespace ImportScan.Text

variable {p : CodePoint → Bool} {s t : Text} {c : CodePoint}

/-! ## Ends of parts -/

/-- A text that is not empty starts as every text that it is the start of. -/
theorem head?_of_isPrefix (h : s <+: t) (hc : c ∈ s.head?) : c ∈ t.head? := by
  obtain ⟨rest, rfl⟩ := h
  rw [List.head?_append, Option.mem_def.mp hc]
  rfl

theorem getLast?_of_isSuffix (h : s <:+ t) (hc : c ∈ s.getLast?) : c ∈ t.getLast? := by
  obtain ⟨init, rfl⟩ := h
  rw [List.getLast?_append, Option.mem_def.mp hc]
  rfl

/-! ## One end -/

theorem trimStart_isSuffix (p : CodePoint → Bool) (t : Text) : t.trimStart p <:+ t :=
  List.dropWhile_suffix p

theorem trimEnd_isPrefix (p : CodePoint → Bool) (t : Text) : t.trimEnd p <+: t :=
  List.rdropWhile_prefix p t

theorem head?_trimStart (h : c ∈ (t.trimStart p).head?) : p c = false := by
  have hhead := List.head?_dropWhile_not p t
  rw [trimStart] at h
  rw [h] at hhead
  exact hhead

theorem getLast?_trimEnd (h : c ∈ (t.trimEnd p).getLast?) : p c = false := by
  rw [trimEnd, List.getLast?_reverse] at h
  exact head?_trimStart (t := t.reverse) h

theorem trimStart_eq_self_iff : t.trimStart p = t ↔ ∀ c ∈ t.head?, p c = false := by
  constructor
  · intro h c hc
    rw [← h] at hc
    exact head?_trimStart hc
  · intro h
    cases t with
    | nil => rfl
    | cons c rest => exact List.dropWhile_cons_of_neg (by simp [h c rfl])

theorem trimEnd_eq_self_iff : t.trimEnd p = t ↔ ∀ c ∈ t.getLast?, p c = false := by
  have hreverse : t.trimEnd p = t ↔ trimStart p t.reverse = t.reverse := by
    rw [trimEnd, List.reverse_eq_iff]
    rfl
  rw [hreverse, trimStart_eq_self_iff, List.head?_reverse]

/-! ## Both ends -/

theorem head?_trim (h : c ∈ (t.trim p).head?) : p c = false :=
  head?_trimStart (head?_of_isPrefix (trimEnd_isPrefix p _) h)

theorem getLast?_trim (h : c ∈ (t.trim p).getLast?) : p c = false := getLast?_trimEnd h

theorem trim_isInfix (p : CodePoint → Bool) (t : Text) : t.trim p <:+: t :=
  (trimEnd_isPrefix p _).isInfix.trans (trimStart_isSuffix p t).isInfix

theorem trim_eq_self_iff :
    t.trim p = t ↔ (∀ c ∈ t.head?, p c = false) ∧ ∀ c ∈ t.getLast?, p c = false := by
  constructor
  · intro h
    constructor
    · intro c hc
      rw [← h] at hc
      exact head?_trim hc
    · intro c hc
      rw [← h] at hc
      exact getLast?_trim hc
  · rintro ⟨hfirst, hlast⟩
    rw [trim, trimStart_eq_self_iff.mpr hfirst, trimEnd_eq_self_iff.mpr hlast]

end ImportScan.Text
