import Mathlib.Data.List.Chain
import ImportScan.Text.Encoding

/-! # UTF-16 code units

    A text and its code units determine each other as soon as no surrogate pair stands apart
    in the text.  Reading the units back joins the pairs and nothing else.

    * `Text.Joined`          : no high surrogate stands right before a low one.
    * `Text.units_ofUnits`   : reading units back loses none of them.
    * `Text.joined_ofUnits`  : and leaves no pair apart.
    * `Text.ofUnits_units`   : a text in which no pair stands apart is read back as it was.
-/

namespace ImportScan

namespace CodePoint

theorem is_iff {c : CodePoint} {ch : Char} : c.is ch = true ↔ c = ofChar ch := by
  rw [is, beq_iff_eq, Fin.ext_iff]
  rfl

theorem val_ofNat {n : Nat} (h : n < 0x110000) : (ofNat n).val = n := by
  rw [ofNat, dif_pos h]

theorem ofNat_val (c : CodePoint) : ofNat c.val = c := by
  rw [ofNat, dif_pos c.isLt]

theorem units_of_lt {c : CodePoint} (h : c.val < 0x10000) : c.units = [c.val] := by
  rw [units, if_pos h]

theorem units_of_ge {c : CodePoint} (h : 0x10000 ≤ c.val) :
    c.units = [0xD800 + (c.val - 0x10000) / 0x400, 0xDC00 + (c.val - 0x10000) % 0x400] := by
  rw [units, if_neg (Nat.not_lt.mpr h)]

theorem lt_of_mem_units {c : CodePoint} {u : Nat} (h : u ∈ c.units) : u < 0x10000 := by
  have hc := c.isLt
  by_cases hlt : c.val < 0x10000
  · rw [units_of_lt hlt, List.mem_singleton] at h
    omega
  · rw [units_of_ge (Nat.not_lt.mp hlt)] at h
    rcases List.mem_cons.mp h with rfl | h
    · omega
    · rw [List.mem_singleton] at h
      omega

/-- A code point and the one after it are the halves of a surrogate pair. -/
def IsPair (c d : CodePoint) : Prop := c.isHighSurrogate = true ∧ d.isLowSurrogate = true

theorem isHighSurrogate_iff (c : CodePoint) :
    c.isHighSurrogate = true ↔ 0xD800 ≤ c.val ∧ c.val < 0xDC00 := by
  simp [isHighSurrogate]

theorem isLowSurrogate_iff (c : CodePoint) :
    c.isLowSurrogate = true ↔ 0xDC00 ≤ c.val ∧ c.val < 0xE000 := by
  simp [isLowSurrogate]

end CodePoint

namespace Text

open CodePoint

/-- No high surrogate stands right before a low one. -/
def Joined (t : Text) : Prop := t.IsChain fun c d => ¬ IsPair c d

@[simp]
theorem units_cons (c : CodePoint) (t : Text) : units (c :: t) = c.units ++ t.units := rfl

theorem lt_of_mem_units {t : Text} {u : Nat} (h : u ∈ t.units) : u < 0x10000 := by
  obtain ⟨c, -, hu⟩ := List.mem_flatMap.mp h
  exact CodePoint.lt_of_mem_units hu

/-! ## From units to text and back -/

/-- The code points that units stand for have these units. -/
theorem units_ofUnits {us : List Nat} (h : ∀ u ∈ us, u < 0x10000) : (ofUnits us).units = us := by
  fun_induction ofUnits us with
  | case1 => rfl
  | case2 u =>
    have hu : u < 0x10000 := h u List.mem_cons_self
    have hval : (CodePoint.ofNat u).val = u := val_ofNat (by omega)
    rw [units_cons, units_of_lt (by omega), hval]
    rfl
  | case3 u v rest hpair ih =>
    -- a pair is one code point beyond the first 65536, whose units are the pair
    have hval := val_ofNat (n := 0x10000 + (u - 0xD800) * 0x400 + (v - 0xDC00)) (by omega)
    have hrest := ih fun w hw => h w (List.mem_cons_of_mem _ (List.mem_cons_of_mem _ hw))
    have hunits :
        (CodePoint.ofNat (0x10000 + (u - 0xD800) * 0x400 + (v - 0xDC00))).units = [u, v] := by
      rw [units_of_ge (by omega), hval]
      simp only [List.cons.injEq, and_true]
      omega
    rw [units_cons, hunits, hrest]
    rfl
  | case4 u v rest hpair ih =>
    have hu : u < 0x10000 := h u List.mem_cons_self
    have hval : (CodePoint.ofNat u).val = u := val_ofNat (by omega)
    have hrest := ih fun w hw => h w (List.mem_cons_of_mem _ hw)
    rw [units_cons, units_of_lt (by omega), hval, hrest]
    rfl

/-- Only a unit that is a low surrogate is read as one. -/
theorem low_of_head_ofUnits {v : Nat} {rest : List Nat} {d : CodePoint} {t : Text}
    (hv : v < 0x10000) (h : ofUnits (v :: rest) = d :: t) (hlow : d.isLowSurrogate = true) :
    0xDC00 ≤ v ∧ v < 0xE000 := by
  rw [isLowSurrogate_iff] at hlow
  have hval : (CodePoint.ofNat v).val = v := val_ofNat (by omega)
  cases rest with
  | nil =>
    rw [ofUnits, List.cons.injEq] at h
    rw [← h.1, hval] at hlow
    exact hlow
  | cons w rest =>
    rw [ofUnits] at h
    split at h
    · -- the first code point is a joined pair, which is no surrogate
      next hpair =>
      have hjoined := val_ofNat (n := 0x10000 + (v - 0xD800) * 0x400 + (w - 0xDC00)) (by omega)
      rw [List.cons.injEq] at h
      rw [← h.1, hjoined] at hlow
      omega
    · rw [List.cons.injEq] at h
      rw [← h.1, hval] at hlow
      exact hlow

/-- What units stand for has no pair apart. -/
theorem joined_ofUnits {us : List Nat} (h : ∀ u ∈ us, u < 0x10000) : Joined (ofUnits us) := by
  unfold Joined
  fun_induction ofUnits us with
  | case1 => exact .nil
  | case2 u => exact .singleton _
  | case3 u v rest hpair ih =>
    have hval := val_ofNat (n := 0x10000 + (u - 0xD800) * 0x400 + (v - 0xDC00)) (by omega)
    have hrest := ih fun w hw => h w (List.mem_cons_of_mem _ (List.mem_cons_of_mem _ hw))
    refine List.isChain_cons.mpr ⟨fun d _ hd => ?_, hrest⟩
    have hhigh := (isHighSurrogate_iff _).mp hd.1
    omega
  | case4 u v rest hpair ih =>
    have hu : u < 0x10000 := h u List.mem_cons_self
    have hv : v < 0x10000 := h v (List.mem_cons_of_mem _ List.mem_cons_self)
    have hval : (CodePoint.ofNat u).val = u := val_ofNat (by omega)
    have hrest := ih fun w hw => h w (List.mem_cons_of_mem _ hw)
    refine List.isChain_cons.mpr ⟨fun d hd hp => ?_, hrest⟩
    -- a low surrogate after `u` would come from a low unit `v`, and the pair would be joined
    obtain ⟨t, ht⟩ := List.head?_eq_some_iff.mp hd
    have hlow := low_of_head_ofUnits hv ht hp.2
    have hhigh := (isHighSurrogate_iff _).mp hp.1
    omega

/-! ## From text to units and back -/

/-- The units of a text that begins with no low surrogate begin with none. -/
theorem head_units {t : Text} {v : Nat} {rest : List Nat} (h : t.units = v :: rest) :
    ∃ d t', t = d :: t' ∧ (0xDC00 ≤ v ∧ v < 0xE000 → d.isLowSurrogate = true) := by
  cases t with
  | nil => cases h
  | cons d t' =>
    refine ⟨d, t', rfl, fun hv => (isLowSurrogate_iff d).mpr ?_⟩
    have hd := d.isLt
    by_cases hlt : d.val < 0x10000
    · rw [units_cons, units_of_lt hlt, List.singleton_append, List.cons.injEq] at h
      omega
    · rw [units_cons, units_of_ge (Nat.not_lt.mp hlt), List.cons_append, List.cons.injEq] at h
      omega

/-- A text without a pair apart is what its units stand for. -/
theorem ofUnits_units {t : Text} (h : Joined t) : ofUnits t.units = t := by
  induction t with
  | nil => rfl
  | cons c t ih =>
    have hchain := List.isChain_cons.mp h
    have hrest : ofUnits (units t) = t := ih hchain.2
    have hc := c.isLt
    rw [units_cons]
    by_cases hlt : c.val < 0x10000
    · rw [units_of_lt hlt, List.singleton_append]
      cases hunits : units t with
      | nil =>
        rw [hunits] at hrest
        rw [ofUnits, ofNat_val, ← hrest]
        rfl
      | cons v rest =>
        obtain ⟨d, t', rfl, hlow⟩ := head_units hunits
        -- the unit after a high surrogate is low only if the next code point is
        have hpair : ¬ (0xD800 ≤ c.val ∧ c.val < 0xDC00 ∧ 0xDC00 ≤ v ∧ v < 0xE000) := by
          intro hp
          exact hchain.1 d rfl ⟨(isHighSurrogate_iff c).mpr ⟨hp.1, hp.2.1⟩, hlow hp.2.2⟩
        rw [ofUnits, if_neg hpair, ofNat_val, ← hunits, hrest]
    · rw [units_of_ge (Nat.not_lt.mp hlt)]
      have hval : 0x10000 + (0xD800 + (c.val - 0x10000) / 0x400 - 0xD800) * 0x400
          + (0xDC00 + (c.val - 0x10000) % 0x400 - 0xDC00) = c.val := by omega
      rw [List.cons_append, List.singleton_append, ofUnits, if_pos (by omega), hval, ofNat_val,
        hrest]

theorem joined_of_no_surrogate {t : Text} (h : ∀ c ∈ t, c.isSurrogate = false) : Joined t := by
  induction t with
  | nil => exact .nil
  | cons c t ih =>
    obtain ⟨hc, ht⟩ := List.forall_mem_cons.mp h
    refine List.isChain_cons.mpr ⟨fun d _ hp => ?_, ih ht⟩
    have hhigh := (isHighSurrogate_iff c).mp hp.1
    simp only [isSurrogate, Bool.and_eq_false_iff, decide_eq_false_iff_not] at hc
    omega

end Text

end ImportScan
