import ImportScan.Proofs.Text.Units

/-! # UTF-8

    The octets of a text are read back as the text, and so is every part of them that cuts no
    character.

    * `Text.ofUtf8?_utf8`   : a text without surrogates is read back as it was.
    * `Text.ofUtf8?_eq_some_iff` : octets are read as a text exactly if they are its octets.
    * `Text.Boundary`       : an offset where no character is cut.
    * `Text.boundary_of_lt` : an octet below 128 is a character of its own.
    * `Text.exists_part`    : between two such offsets stands a part of the text.
-/

namespace ImportScan

namespace Utf8

variable {low high value n x : Nat} {rest : Bytes}

/-! ## Steps of the decoder -/

theorem toNat_toUInt8 (h : n < 256) : n.toUInt8.toNat = n := UInt8.toNat_ofNat_of_lt h

/-- The first octet of a character that has more than one. -/
theorem decodeFrom_lead {owed : Nat} (hn : 0x80 ≤ n ∧ n < 256)
    (h : lead? n = some (owed, low, high, value)) :
    decodeFrom .start (n.toUInt8 :: rest) = decodeFrom (.within owed low high value) rest := by
  have hnot : ¬ n < 0x80 := Nat.not_lt.mpr hn.1
  simp [decodeFrom, step, enter, toNat_toUInt8 hn.2, hnot, h]

/-- An octet inside a character, with more to come. -/
theorem decodeFrom_more {owed : Nat} (hx : x < 64) (h : low ≤ 0x80 + x ∧ 0x80 + x ≤ high) :
    decodeFrom (.within (owed + 2) low high value) ((0x80 + x).toUInt8 :: rest)
      = decodeFrom (.within (owed + 1) 0x80 0xBF (value * 64 + x)) rest := by
  rw [decodeFrom, step, toNat_toUInt8 (by omega), if_pos h, Nat.add_sub_cancel_left]
  simp

/-- The last octet of a character. -/
theorem decodeFrom_last (hx : x < 64) (h : low ≤ 0x80 + x ∧ 0x80 + x ≤ high) :
    decodeFrom (.within 1 low high value) ((0x80 + x).toUInt8 :: rest)
      = some (CodePoint.ofNat (value * 64 + x)) :: decodeFrom .start rest := by
  rw [decodeFrom, step, toNat_toUInt8 (by omega), if_pos h, Nat.add_sub_cancel_left]
  simp

/-- What the first of three octets announces: the next one has to show that the code point
    needs three octets and is no surrogate. -/
theorem lead?_three (hlow : 0x800 ≤ n) (hhigh : n < 0x10000)
    (hsurrogate : ¬ (0xD800 ≤ n ∧ n < 0xE000)) :
    ∃ low high, lead? (0xE0 + n / 4096) = some (2, low, high, n / 4096) ∧
      low ≤ 0x80 + n / 64 % 64 ∧ 0x80 + n / 64 % 64 ≤ high := by
  by_cases hzero : n / 4096 = 0
  · exact ⟨0xA0, 0xBF, by simp [lead?, hzero], by omega, by omega⟩
  · by_cases hbefore : n / 4096 = 0xD
    · exact ⟨0x80, 0x9F, by simp [lead?, hbefore], by omega, by omega⟩
    · refine ⟨0x80, 0xBF, ?_, by omega, by omega⟩
      unfold lead?
      rw [if_neg (by omega), if_neg (by omega), if_neg (by omega), if_pos (by omega),
        Nat.add_sub_cancel_left]

/-- What the first of four octets announces: the next one has to show that the code point needs
    four octets and is not beyond the last one. -/
theorem lead?_four (hlow : 0x10000 ≤ n) (hhigh : n < 0x110000) :
    ∃ low high, lead? (0xF0 + n / 262144) = some (3, low, high, n / 262144) ∧
      low ≤ 0x80 + n / 4096 % 64 ∧ 0x80 + n / 4096 % 64 ≤ high := by
  by_cases hzero : n / 262144 = 0
  · exact ⟨0x90, 0xBF, by simp [lead?, hzero], by omega, by omega⟩
  · by_cases hlast : n / 262144 = 4
    · exact ⟨0x80, 0x8F, by simp [lead?, hlast], by omega, by omega⟩
    · refine ⟨0x80, 0xBF, ?_, by omega, by omega⟩
      unfold lead?
      rw [if_neg (by omega), if_neg (by omega), if_neg (by omega), if_neg (by omega),
        if_neg (by omega), if_neg (by omega), if_pos (by omega), Nat.add_sub_cancel_left]

/-! ## Characters -/

theorem ofNat_eq {c : CodePoint} (h : n = c.val) : CodePoint.ofNat n = c := by
  subst h
  rw [CodePoint.ofNat, dif_pos c.isLt]

/-- The octets of a code point are read as the code point. -/
theorem decodeFrom_utf8 {c : CodePoint} (hc : c.isSurrogate = false) (rest : Bytes) :
    decodeFrom .start (c.utf8 ++ rest) = some c :: decodeFrom .start rest := by
  have hlt := c.isLt
  have hsurrogate : ¬ (0xD800 ≤ c.val ∧ c.val < 0xE000) := by
    simpa [CodePoint.isSurrogate] using hc
  unfold CodePoint.utf8
  simp only
  split
  · next hone =>
    have hb : c.val.toUInt8.toNat = c.val := toNat_toUInt8 (by omega)
    have hc : CodePoint.ofNat c.val = c := ofNat_eq rfl
    simp [decodeFrom, step, enter, hb, hone, hc]
  · split
    · next htwo =>
      have hlead : lead? (0xC0 + c.val / 64) = some (1, 0x80, 0xBF, c.val / 64) := by
        rw [lead?, if_pos (by omega), Nat.add_sub_cancel_left]
      have hc : CodePoint.ofNat (c.val / 64 * 64 + c.val % 64) = c := ofNat_eq (by omega)
      simp only [List.cons_append, List.nil_append]
      rw [decodeFrom_lead (by omega) hlead, decodeFrom_last (by omega) (by omega), hc]
    · split
      · next hthree =>
        obtain ⟨low, high, hlead, hbounds⟩ := lead?_three (by omega) hthree hsurrogate
        have hc : CodePoint.ofNat ((c.val / 4096 * 64 + c.val / 64 % 64) * 64 + c.val % 64) = c :=
          ofNat_eq (by omega)
        simp only [List.cons_append, List.nil_append]
        rw [decodeFrom_lead (by omega) hlead, decodeFrom_more (by omega) hbounds,
          decodeFrom_last (by omega) (by omega), hc]
      · obtain ⟨low, high, hlead, hbounds⟩ := lead?_four (by omega) hlt
        have hc : CodePoint.ofNat (((c.val / 262144 * 64 + c.val / 4096 % 64) * 64
            + c.val / 64 % 64) * 64 + c.val % 64) = c := ofNat_eq (by omega)
        simp only [List.cons_append, List.nil_append]
        rw [decodeFrom_lead (by omega) hlead, decodeFrom_more (by omega) hbounds,
          decodeFrom_more (by omega) (by omega), decodeFrom_last (by omega) (by omega), hc]

/-! ## Octets that are read -/

theorem toUInt8_eq {b : UInt8} (h : n = b.toNat) : n.toUInt8 = b := by
  subst h
  exact UInt8.ofNat_toNat

/-- What a lead octet announces, by the number of octets that follow it.  The bounds of the next
    octet leave out what fewer octets would do for, the surrogates, and what is beyond the last
    code point. -/
theorem lead?_cases {b owed : Nat} (h : lead? b = some (owed, low, high, value)) :
    (owed = 1 ∧ b = 0xC0 + value ∧ 2 ≤ value ∧ value < 32 ∧ 0x80 ≤ low ∧ high ≤ 0xBF)
      ∨ (owed = 2 ∧ b = 0xE0 + value ∧ value < 16 ∧ 0x80 ≤ low ∧ high ≤ 0xBF
          ∧ (value = 0 → 0xA0 ≤ low) ∧ (value = 0xD → high ≤ 0x9F))
      ∨ (owed = 3 ∧ b = 0xF0 + value ∧ value ≤ 4 ∧ 0x80 ≤ low ∧ high ≤ 0xBF
          ∧ (value = 0 → 0x90 ≤ low) ∧ (value = 4 → high ≤ 0x8F)) := by
  unfold lead? at h
  repeat' split at h
  all_goals simp only [Option.some.injEq, Prod.mk.injEq, reduceCtorEq] at h
  all_goals omega

theorem not_surrogate (h : n < 0x110000) (hn : n < 0xD800 ∨ 0xE000 ≤ n) :
    (CodePoint.ofNat n).isSurrogate = false := by
  rw [CodePoint.isSurrogate, CodePoint.val_ofNat h]
  simp only [Bool.and_eq_false_iff, decide_eq_false_iff_not]
  omega

/-! The octets of the code points with a number, by how many they are. -/

theorem utf8_one {b : UInt8} (hb : b.toNat < 0x80) (hn : n = b.toNat) :
    (CodePoint.ofNat n).utf8 = [b] := by
  have hval : (CodePoint.ofNat n).val = n := CodePoint.val_ofNat (by omega)
  have hfirst : n.toUInt8 = b := toUInt8_eq hn
  rw [CodePoint.utf8]
  simp only [hval, hfirst]
  rw [if_pos (by omega)]

theorem utf8_two {b x : UInt8} (hn : 0x80 ≤ n ∧ n < 0x800)
    (hocts : b.toNat = 0xC0 + n / 64 ∧ x.toNat = 0x80 + n % 64) :
    (CodePoint.ofNat n).utf8 = [b, x] := by
  have hval : (CodePoint.ofNat n).val = n := CodePoint.val_ofNat (by omega)
  rw [CodePoint.utf8]
  simp only [hval, toUInt8_eq hocts.1.symm, toUInt8_eq hocts.2.symm]
  rw [if_neg (by omega), if_pos hn.2]

theorem utf8_three {b x y : UInt8} (hn : 0x800 ≤ n ∧ n < 0x10000)
    (hocts : b.toNat = 0xE0 + n / 4096 ∧ x.toNat = 0x80 + n / 64 % 64
      ∧ y.toNat = 0x80 + n % 64) :
    (CodePoint.ofNat n).utf8 = [b, x, y] := by
  have hval : (CodePoint.ofNat n).val = n := CodePoint.val_ofNat (by omega)
  rw [CodePoint.utf8]
  simp only [hval, toUInt8_eq hocts.1.symm, toUInt8_eq hocts.2.1.symm, toUInt8_eq hocts.2.2.symm]
  rw [if_neg (by omega), if_neg (by omega), if_pos hn.2]

theorem utf8_four {b x y z : UInt8} (hn : 0x10000 ≤ n ∧ n < 0x110000)
    (hocts : b.toNat = 0xF0 + n / 262144 ∧ x.toNat = 0x80 + n / 4096 % 64
      ∧ y.toNat = 0x80 + n / 64 % 64 ∧ z.toNat = 0x80 + n % 64) :
    (CodePoint.ofNat n).utf8 = [b, x, y, z] := by
  have hval : (CodePoint.ofNat n).val = n := CodePoint.val_ofNat hn.2
  rw [CodePoint.utf8]
  simp only [hval, toUInt8_eq hocts.1.symm, toUInt8_eq hocts.2.1.symm,
    toUInt8_eq hocts.2.2.1.symm, toUInt8_eq hocts.2.2.2.symm]
  rw [if_neg (by omega), if_neg (by omega), if_neg (by omega)]

/-- The last octet of a character that is read. -/
theorem exists_last {c : CodePoint} {cs : Text}
    (h : decodeFrom (.within 1 low high value) rest = (c :: cs).map some) :
    ∃ b rest', rest = b :: rest' ∧ (low ≤ b.toNat ∧ b.toNat ≤ high)
      ∧ c = CodePoint.ofNat (value * 64 + (b.toNat - 0x80))
      ∧ decodeFrom .start rest' = cs.map some := by
  cases rest with
  | nil => simp [decodeFrom] at h
  | cons b rest' =>
    rw [decodeFrom, step] at h
    by_cases hb : low ≤ b.toNat ∧ b.toNat ≤ high
    · simp only [hb, and_self, if_true, Nat.le_refl, List.singleton_append, List.map_cons,
        List.cons.injEq, Option.some.injEq] at h
      exact ⟨b, rest', rfl, hb, h.1.symm, h.2⟩
    · simp [hb] at h

/-- An octet inside a character that is read, with more to come. -/
theorem exists_more {owed : Nat} {cs : Text}
    (h : decodeFrom (.within (owed + 2) low high value) rest = cs.map some) :
    ∃ b rest', rest = b :: rest' ∧ (low ≤ b.toNat ∧ b.toNat ≤ high)
      ∧ decodeFrom (.within (owed + 1) 0x80 0xBF (value * 64 + (b.toNat - 0x80))) rest'
        = cs.map some := by
  cases rest with
  | nil => cases cs <;> simp [decodeFrom] at h
  | cons b rest' =>
    rw [decodeFrom, step] at h
    by_cases hb : low ≤ b.toNat ∧ b.toNat ≤ high
    · have howed : ¬ owed + 2 ≤ 1 := by omega
      simp only [hb, and_self, if_true, howed, if_false, List.nil_append] at h
      exact ⟨b, rest', rfl, hb, h⟩
    · cases cs <;> simp [hb] at h

/-- A character that is read comes from its own octets. -/
theorem exists_character {bytes : Bytes} {c : CodePoint} {cs : Text}
    (h : decodeFrom .start bytes = (c :: cs).map some) :
    ∃ rest, bytes = c.utf8 ++ rest ∧ c.isSurrogate = false
      ∧ decodeFrom .start rest = cs.map some := by
  cases bytes with
  | nil => simp [decodeFrom] at h
  | cons b rest =>
    rw [decodeFrom, step, enter] at h
    by_cases hone : b.toNat < 0x80
    · -- the octet is a character of its own
      simp only [hone, if_true, List.singleton_append, List.map_cons, List.cons.injEq,
        Option.some.injEq] at h
      obtain ⟨rfl, hrest⟩ := h
      refine ⟨rest, ?_, ?_, hrest⟩
      · rw [utf8_one hone rfl, List.singleton_append]
      · exact not_surrogate (by omega) (.inl (by omega))
    · cases hlead : lead? b.toNat with
      | none => simp [hone, hlead] at h
      | some lead =>
        obtain ⟨owed, low, high, value⟩ := lead
        simp only [hone, if_false, hlead, List.nil_append] at h
        rcases lead?_cases hlead with ⟨rfl, hb, hvalue⟩ | ⟨rfl, hb, hvalue⟩ | ⟨rfl, hb, hvalue⟩
        · obtain ⟨x, rest, rfl, hx, hc, hrest⟩ := exists_last h
          refine ⟨rest, ?_, ?_, hrest⟩
          · rw [hc, utf8_two (b := b) (x := x) (by omega) (by omega)]
            rfl
          · rw [hc]
            exact not_surrogate (by omega) (.inl (by omega))
        · obtain ⟨x, rest, rfl, hx, h⟩ := exists_more h
          obtain ⟨y, rest, rfl, hy, hc, hrest⟩ := exists_last h
          refine ⟨rest, ?_, ?_, hrest⟩
          · rw [hc, utf8_three (b := b) (x := x) (y := y) (by omega) (by omega)]
            rfl
          · rw [hc]
            exact not_surrogate (by omega) (by omega)
        · obtain ⟨x, rest, rfl, hx, h⟩ := exists_more h
          obtain ⟨y, rest, rfl, hy, h⟩ := exists_more h
          obtain ⟨z, rest, rfl, hz, hc, hrest⟩ := exists_last h
          refine ⟨rest, ?_, ?_, hrest⟩
          · rw [hc, utf8_four (b := b) (x := x) (y := y) (z := z) (by omega) (by omega)]
            rfl
          · rw [hc]
            exact not_surrogate (by omega) (.inr (by omega))

/-- The inside of a character is never passed over in silence. -/
theorem decodeFrom_within_ne_nil (owed low high value : Nat) (rest : Bytes) :
    decodeFrom (.within owed low high value) rest ≠ [] := by
  induction rest generalizing owed low high value with
  | nil => simp [decodeFrom]
  | cons b rest ih =>
    rw [decodeFrom, step]
    by_cases hb : low ≤ b.toNat ∧ b.toNat ≤ high
    · by_cases howed : owed ≤ 1
      · simp [hb, howed]
      · simpa [hb, howed] using ih _ _ _ _
    · simp [hb]

theorem decodeFrom_cons_ne_nil (b : UInt8) (rest : Bytes) : decodeFrom .start (b :: rest) ≠ [] := by
  rw [decodeFrom, step, enter]
  by_cases hone : b.toNat < 0x80
  · simp [hone]
  · cases hlead : lead? b.toNat with
    | none => simp [hone]
    | some lead => simpa [hone] using decodeFrom_within_ne_nil _ _ _ _ rest

/-- Octets without an ill-formed part are those of the text that they are read as. -/
theorem utf8_of_decode {bytes : Bytes} {t : Text} (h : decode bytes = t.map some) :
    bytes = t.utf8 ∧ ∀ c ∈ t, c.isSurrogate = false := by
  unfold decode at h
  induction t generalizing bytes with
  | nil =>
    refine ⟨?_, by simp⟩
    cases bytes with
    | nil => rfl
    | cons b rest => exact absurd h (decodeFrom_cons_ne_nil b rest)
  | cons c t ih =>
    obtain ⟨rest, rfl, hc, hrest⟩ := exists_character h
    obtain ⟨rfl, ht⟩ := ih hrest
    exact ⟨rfl, List.forall_mem_cons.mpr ⟨hc, ht⟩⟩

end Utf8

namespace CodePoint

/-- A code point that has an octet below 128 has no other. -/
theorem utf8_of_lt {c : CodePoint} {b : UInt8} (hb : b ∈ c.utf8) (hlt : b.toNat < 0x80) :
    c.utf8 = [b] := by
  have hc := c.isLt
  -- an octet of a longer form is at least 128
  have hlong : ∀ ns : List Nat, (∀ n ∈ ns, 0x80 ≤ n ∧ n < 256) → b ∉ ns.map Nat.toUInt8 := by
    intro ns hns hmem
    obtain ⟨n, hn, rfl⟩ := List.mem_map.mp hmem
    obtain ⟨hlow, hhigh⟩ := hns n hn
    rw [Utf8.toNat_toUInt8 hhigh] at hlt
    omega
  unfold utf8 at hb ⊢
  simp only at hb ⊢
  split at hb
  · next hone => rw [if_pos hone, List.mem_singleton.mp hb]
  · exfalso
    split at hb
    · refine hlong [0xC0 + c.val / 64, 0x80 + c.val % 64] ?_ hb
      simp only [List.forall_mem_cons, List.not_mem_nil, false_implies, implies_true, and_true]
      omega
    · split at hb
      · refine hlong [0xE0 + c.val / 4096, 0x80 + c.val / 64 % 64, 0x80 + c.val % 64] ?_ hb
        simp only [List.forall_mem_cons, List.not_mem_nil, false_implies, implies_true, and_true]
        omega
      · refine hlong [0xF0 + c.val / 262144, 0x80 + c.val / 4096 % 64, 0x80 + c.val / 64 % 64,
          0x80 + c.val % 64] ?_ hb
        simp only [List.forall_mem_cons, List.not_mem_nil, false_implies, implies_true, and_true]
        omega

end CodePoint

namespace Text

variable {t : Text} {i j : Nat}

/-! ## Texts -/

theorem utf8_cons (c : CodePoint) (t : Text) : utf8 (c :: t) = c.utf8 ++ t.utf8 := rfl

theorem utf8_append (s t : Text) : utf8 (s ++ t) = s.utf8 ++ t.utf8 := List.flatMap_append

theorem mapM_map_some (t : Text) : (t.map some).mapM id = some t := by
  induction t with
  | nil => rfl
  | cons c t ih =>
    rw [List.map_cons, List.mapM_cons, ih]
    rfl

theorem decode_utf8 (h : ∀ c ∈ t, c.isSurrogate = false) : Utf8.decode t.utf8 = t.map some := by
  induction t with
  | nil => rfl
  | cons c t ih =>
    obtain ⟨hc, ht⟩ := List.forall_mem_cons.mp h
    rw [utf8_cons, Utf8.decode, Utf8.decodeFrom_utf8 hc, List.map_cons, ← ih ht, Utf8.decode]

/-- A text without surrogates is read back as it was. -/
theorem ofUtf8?_utf8 (h : ∀ c ∈ t, c.isSurrogate = false) : ofUtf8? t.utf8 = some t := by
  rw [ofUtf8?, decode_utf8 h, mapM_map_some]

/-- The octets of a text that has some are those of its code points, none of them a surrogate. -/
theorem utf8?_eq_some {bytes : Bytes} (h : t.utf8? = some bytes) :
    bytes = t.utf8 ∧ ∀ c ∈ t, c.isSurrogate = false := by
  unfold utf8? at h
  split at h
  · cases h
  · next hnone => exact ⟨(Option.some.inj h).symm, by simpa using hnone⟩

/-- What has all its code points is made of them. -/
theorem eq_map_some_of_mapM {cs : List (Option CodePoint)} {t : Text}
    (h : cs.mapM id = some t) : cs = t.map some := by
  induction cs generalizing t with
  | nil =>
    cases h
    rfl
  | cons c cs ih =>
    rw [List.mapM_cons] at h
    simp only [id_eq, Option.bind_eq_bind, Option.bind_eq_some_iff, Option.pure_def,
      Option.some.injEq] at h
    obtain ⟨d, rfl, t, ht, rfl⟩ := h
    rw [ih ht, List.map_cons]

/-- Octets are read as a text exactly if the text has these octets. -/
theorem ofUtf8?_eq_some_iff {bytes : Bytes} {t : Text} : ofUtf8? bytes = some t ↔ t.utf8? = some bytes := by
  constructor
  · intro h
    obtain ⟨rfl, ht⟩ := Utf8.utf8_of_decode (eq_map_some_of_mapM h)
    rw [utf8?, if_neg (by simpa using ht)]
  · intro h
    obtain ⟨rfl, ht⟩ := utf8?_eq_some h
    exact ofUtf8?_utf8 ht

/-! ## Boundaries -/

/-- An offset into the octets of a text where no character is cut: behind a first part of the
    text. -/
def Boundary (t : Text) (i : Nat) : Prop :=
  ∃ before after : Text, t = before ++ after ∧ i = before.utf8.length

theorem boundary_zero (t : Text) : Boundary t 0 := ⟨[], t, rfl, rfl⟩

theorem boundary_take (t : Text) (n : Nat) : Boundary t (utf8 (t.take n)).length :=
  ⟨t.take n, t.drop n, (List.take_append_drop n t).symm, rfl⟩

theorem Boundary.cons (h : Boundary t i) (c : CodePoint) :
    Boundary (c :: t) (c.utf8.length + i) := by
  obtain ⟨before, after, rfl, rfl⟩ := h
  exact ⟨c :: before, after, rfl, by rw [utf8_cons, List.length_append]⟩

theorem Boundary.le_length (h : Boundary t i) : i ≤ t.utf8.length := by
  obtain ⟨before, after, rfl, rfl⟩ := h
  rw [utf8_append, List.length_append]
  exact Nat.le_add_right _ _

/-- An octet below 128 is a character of its own. -/
theorem boundary_of_lt {b : UInt8} (h : t.utf8[i]? = some b) (hb : b.toNat < 0x80) :
    Boundary t i ∧ Boundary t (i + 1) := by
  induction t generalizing i with
  | nil => simp [utf8] at h
  | cons c t ih =>
    rw [utf8_cons] at h
    by_cases hi : i < c.utf8.length
    · -- the first character has this octet, so it has no other
      rw [List.getElem?_append_left hi] at h
      have hc := CodePoint.utf8_of_lt (List.mem_of_getElem? h) hb
      obtain rfl : i = 0 := by simpa [hc] using hi
      have hone := (boundary_zero t).cons c
      rw [hc] at hone
      exact ⟨boundary_zero _, hone⟩
    · obtain ⟨i, rfl⟩ := Nat.exists_eq_add_of_le (Nat.not_lt.mp hi)
      rw [List.getElem?_append_right (Nat.le_add_right _ _), Nat.add_sub_cancel_left] at h
      obtain ⟨hstart, hstop⟩ := ih h
      exact ⟨hstart.cons c, hstop.cons c⟩

/-- The octets between two offsets that cut no character are those of a part of the text. -/
theorem exists_part (hi : Boundary t i) (hj : Boundary t j) (hij : i ≤ j) :
    ∃ part : Text, (∀ c ∈ part, c ∈ t) ∧ (t.utf8.drop i).take (j - i) = part.utf8 := by
  obtain ⟨before, after, rfl, rfl⟩ := hi
  obtain ⟨before', after', heq, rfl⟩ := hj
  rcases List.append_eq_append_iff.mp heq with ⟨part, rfl, rfl⟩ | ⟨part, rfl, rfl⟩
  · refine ⟨part, fun c hc => by simp [hc], ?_⟩
    simp [utf8_append]
  · -- the second offset is not before the first, so nothing stands between them
    refine ⟨[], by simp, ?_⟩
    rw [Nat.sub_eq_zero_of_le, List.take_zero]
    · rfl
    · simp [utf8_append]

end Text

end ImportScan
