import ImportScan.Proofs.Text.Units
import ImportScan.Text.Case

/-! # Lower case

    A lowered text stays as it is when it is lowered again, because no letter is moved to a
    place from which another is moved away.  White space and punctuation are never moved.

    * `Unicode.Lowered`    : a code point that has no other lower case.
    * `Unicode.LowersTo`   : what a code point is lowered to, wherever it stands.
    * `Unicode.Caseless`   : a test that lowering does not change the outcome of.
    * `Text.lowered_of_mem_lower` : a lowered text is made of such code points.
    * `Text.lower_eq_self` : a text that is made of such code points is lowered already.
    * `Unicode.caseless_blank` : white space is told apart before lowering as well as after it.
-/

namespace ImportScan

namespace Unicode

/-! ## Sets of code points -/

namespace CodeSet

theorem rankBetween_congr {changes : Array Nat} {m n : Nat}
    (h : ∀ i, changes.getD i 0 ≤ m ↔ changes.getD i 0 ≤ n) (lo hi : Nat) :
    rankBetween changes m lo hi = rankBetween changes n lo hi := by
  fun_induction rankBetween changes m lo hi with
  | case1 lo hi hlt mid hle ih =>
    have hle' : changes.getD ((lo + hi) / 2) 0 ≤ n := (h _).mp hle
    rw [ih]
    conv_rhs => rw [rankBetween]
    simp only [dif_pos hlt, if_pos hle', mid]
  | case2 lo hi hlt mid hgt ih =>
    have hgt' : ¬ changes.getD ((lo + hi) / 2) 0 ≤ n := fun hle => hgt ((h _).mpr hle)
    rw [ih]
    conv_rhs => rw [rankBetween]
    simp only [dif_pos hlt, if_neg hgt', mid]
  | case3 lo hi hge =>
    rw [rankBetween, dif_neg hge]

/-- Code points that no change separates are both members or neither is. -/
theorem contains_congr {s : CodeSet} {c d : CodePoint}
    (h : ∀ x ∈ s.changes, x ≤ c.val ↔ x ≤ d.val) : s.contains c = s.contains d := by
  have hrank : ∀ i, s.changes.getD i 0 ≤ c.val ↔ s.changes.getD i 0 ≤ d.val := by
    intro i
    by_cases hi : i < s.changes.size
    · rw [Array.getD, dif_pos hi]
      exact h _ (Array.getElem_mem hi)
    · simp [Array.getD, dif_neg hi]
  rw [contains, contains, rankBetween_congr hrank]

end CodeSet

/-! ## Runs of letters -/

/-- Every so many code points from one to another, and how far they are moved. -/
abbrev Run := Nat × Nat × Nat × Int

namespace Run

variable {r s : Run} {n : Nat}

def first (r : Run) : Nat := r.1

def last (r : Run) : Nat := r.2.1

def stride (r : Run) : Nat := r.2.2.1

/-- Where the run moves a code point. -/
def image (r : Run) (n : Nat) : Nat := ((n : Int) + r.2.2.2).toNat

/-- A code point that the run moves. -/
def Covers (r : Run) (n : Nat) : Prop := r.first ≤ n ∧ n ≤ r.last ∧ (n - r.first) % r.stride = 0

instance : Decidable (r.Covers n) := inferInstanceAs (Decidable (_ ∧ _ ∧ _))

/-- The run moves its code points to places that another run does not cover: before it, behind
    it, or between its members. -/
def clears (r s : Run) : Bool :=
  Nat.blt (r.image r.last) s.first || Nat.blt s.last (r.image r.first)
    || ((r.stride == 2 || r.first == r.last) && s.stride == 2
      && (r.image r.first + s.first) % 2 == 1)

theorem image_eq (hn : r.first ≤ n) (hpos : 0 < r.image r.first) :
    r.image n = r.image r.first + (n - r.first) := by
  simp only [image] at hpos ⊢
  omega

theorem not_covers_image (hclears : r.clears s = true) (hpos : 0 < r.image r.first)
    (hn : r.Covers n) : ¬ s.Covers (r.image n) := by
  obtain ⟨hfirst, hlast, hstep⟩ := hn
  have himage := image_eq hfirst hpos
  have hend := image_eq (hfirst.trans hlast) hpos
  simp only [clears, Bool.or_eq_true, Bool.and_eq_true, Nat.blt_eq, beq_iff_eq] at hclears
  rintro ⟨hafter, hbefore, hparity⟩
  rcases hclears with (hbehind | hahead) | ⟨⟨hr, hs⟩, hodd⟩
  · omega
  · omega
  · -- every other code point belongs to `s`, and the images are those in between
    rw [hs] at hparity
    rcases hr with hr | hr
    · rw [hr] at hstep
      omega
    · omega

end Run

/-- Every letter that has a lower case is moved past the punctuation of ASCII, to a code point. -/
theorem letters_of_mem_lowerRuns {r : Run} (h : r ∈ lowerRuns) :
    0x40 < r.first ∧ 0x40 < r.image r.first ∧ r.image r.last < 0x110000 := by
  have hall : lowerRuns.all (fun r : Run => Nat.blt 0x40 r.first && Nat.blt 0x40 (r.image r.first)
      && Nat.blt (r.image r.last) 0x110000) = true := by decide +kernel
  have hr := List.all_eq_true.mp hall r h
  simp only [Bool.and_eq_true, Nat.blt_eq] at hr
  exact ⟨hr.1.1, hr.1.2, hr.2⟩

/-- A letter is moved to a code point between those that the ends of its run are moved to. -/
theorem val_image {r : Run} {n : Nat} (hr : r ∈ lowerRuns) (hn : r.Covers n) :
    (CodePoint.ofNat (r.image n)).val = r.image n ∧ r.image r.first ≤ r.image n
      ∧ r.image n ≤ r.image r.last := by
  obtain ⟨-, hpast, hcode⟩ := letters_of_mem_lowerRuns hr
  obtain ⟨hfirst, hlast, -⟩ := hn
  have himage := Run.image_eq hfirst (by omega)
  have hend := Run.image_eq (hfirst.trans hlast) (by omega)
  refine ⟨CodePoint.val_ofNat ?_, ?_, ?_⟩ <;> omega

/-- The code points that have another lower case, the capital I with a dot first, which becomes
    two code points. -/
def capitals : List Run := (0x130, 0x130, 1, 0) :: lowerRuns

/-- No letter is moved to a place from which another is moved away. -/
theorem clears_of_mem {r s : Run} (hr : r ∈ lowerRuns) (hs : s ∈ capitals) :
    r.clears s = true := by
  have hall : lowerRuns.all (fun r : Run => capitals.all r.clears) = true := by decide +kernel
  exact List.all_eq_true.mp (List.all_eq_true.mp hall r hr) s hs

/-! ## One code point -/

variable {c d : CodePoint} {image before rest t : Text}

/-- A code point that has no other lower case. -/
def Lowered (c : CodePoint) : Prop := ∀ r ∈ capitals, ¬ r.Covers c.val

/-- What a code point is lowered to, wherever it stands: a capital sigma may get its final
    form. -/
inductive LowersTo (c : CodePoint) : Text → Prop where
  | kept (h : Lowered c) : LowersTo c [c]
  | moved {r : Run} (hr : r ∈ lowerRuns) (hc : r.Covers c.val) :
      LowersTo c [CodePoint.ofNat (r.image c.val)]
  | finalSigma (hc : c.val = 0x3A3) : LowersTo c [CodePoint.ofNat 0x3C2]
  | dotted (hc : c.val = 0x130) : LowersTo c [CodePoint.ofNat 0x69, CodePoint.ofNat 0x307]

instance : Decidable (Lowered c) := inferInstanceAs (Decidable (∀ r ∈ capitals, _))

/-- A capital sigma is also moved like its neighbours. -/
theorem exists_covers_sigma (hc : c.val = 0x3A3) :
    ∃ r : Run, r ∈ lowerRuns ∧ r.Covers c.val ∧ r.image c.val = 0x3C3 := by
  refine ⟨(0x3A3, 0x3AB, 1, 32), by decide, ?_⟩
  rw [hc]
  decide

theorem lowersTo_mapCase (c : CodePoint) : LowersTo c (mapCase lowerRuns lowerSpecial c) := by
  unfold mapCase
  split
  · next first codes hspecial =>
    -- one letter has an entry of its own
    have hcode : (first == c.val) = true := by
      have := List.find?_some hspecial
      exact this
    obtain ⟨rfl, rfl⟩ := Prod.mk.inj (List.mem_singleton.mp (List.mem_of_find?_eq_some hspecial))
    exact .dotted (eq_of_beq hcode).symm
  · next hspecial =>
    split
    · next first last stride offset hrun =>
      have hin := List.find?_some hrun
      simp only [Bool.and_eq_true, decide_eq_true_eq, beq_iff_eq] at hin
      exact .moved (List.mem_of_find?_eq_some hrun) ⟨hin.1.1, hin.1.2, hin.2⟩
    · next hrun =>
      -- the code point is no capital I with a dot and in no run
      refine .kept (List.forall_mem_cons.mpr ⟨?_, ?_⟩)
      · rintro ⟨hfirst, hlast, -⟩
        refine List.find?_eq_none.mp hspecial _ List.mem_cons_self ?_
        exact beq_iff_eq.mpr (Nat.le_antisymm hfirst hlast)
      · rintro ⟨first, last, stride, offset⟩ hr ⟨hfirst, hlast, hstep⟩
        have hout := List.find?_eq_none.mp hrun _ hr
        simp only [Bool.and_eq_true, decide_eq_true_eq, beq_iff_eq] at hout
        exact hout ⟨⟨hfirst, hlast⟩, hstep⟩

/-- What a code point is lowered to between others. -/
def lowerImage (before : Text) (c : CodePoint) (rest : Text) : Text :=
  if c.val == 0x3A3 then
    if meetsCased before && !meetsCased rest then [CodePoint.ofNat 0x3C2]
    else [CodePoint.ofNat 0x3C3]
  else mapCase lowerRuns lowerSpecial c

theorem lowerFrom_cons (before : Text) (c : CodePoint) (rest : Text) :
    lowerFrom before (c :: rest) = lowerImage before c rest ++ lowerFrom (c :: before) rest := rfl

theorem lowersTo_lowerImage (before : Text) (c : CodePoint) (rest : Text) :
    LowersTo c (lowerImage before c rest) := by
  unfold lowerImage
  split
  · next hsigma =>
    have hc : c.val = 0x3A3 := eq_of_beq hsigma
    split
    · exact .finalSigma hc
    · -- the other form is the one that its run moves it to
      obtain ⟨r, hr, hcovers, himage⟩ := exists_covers_sigma hc
      have hmoved := LowersTo.moved hr hcovers
      rw [himage] at hmoved
      exact hmoved
  · exact lowersTo_mapCase c

namespace LowersTo

theorem ne_nil (h : LowersTo c image) : image ≠ [] := by
  cases h <;> exact List.cons_ne_nil _ _

theorem eq_of_lowered (h : LowersTo c image) (hc : Lowered c) : image = [c] := by
  obtain ⟨hdot, hruns⟩ := List.forall_mem_cons.mp hc
  cases h with
  | kept _ => rfl
  | moved hr hcovers => exact absurd hcovers (hruns _ hr)
  | finalSigma hsigma =>
    obtain ⟨r, hr, hcovers, -⟩ := exists_covers_sigma hsigma
    exact absurd hcovers (hruns r hr)
  | dotted hdotted =>
    refine absurd ?_ hdot
    rw [hdotted]
    decide

/-- Nothing that comes out of lowering has another lower case. -/
theorem lowered (h : LowersTo c image) : ∀ d ∈ image, Lowered d := by
  cases h with
  | kept hc => exact List.forall_mem_singleton.mpr hc
  | moved hr hcovers =>
    refine List.forall_mem_singleton.mpr fun s hs => ?_
    rw [(val_image hr hcovers).1]
    apply Run.not_covers_image (clears_of_mem hr hs) _ hcovers
    have := (letters_of_mem_lowerRuns hr).2.1
    omega
  | finalSigma _ =>
    refine List.forall_mem_singleton.mpr ?_
    decide +kernel
  | dotted _ =>
    refine List.forall_mem_cons.mpr ⟨?_, List.forall_mem_singleton.mpr ?_⟩ <;> decide +kernel

end LowersTo

/-! ## Whole texts -/

theorem lowered_of_mem_lowerFrom (before t : Text) : ∀ d ∈ lowerFrom before t, Lowered d := by
  induction t generalizing before with
  | nil => simp [lowerFrom]
  | cons c rest ih =>
    rw [lowerFrom_cons]
    refine List.forall_mem_append.mpr ⟨?_, ih (c :: before)⟩
    exact (lowersTo_lowerImage before c rest).lowered

theorem lowerFrom_eq_self (before : Text) (ht : ∀ c ∈ t, Lowered c) : lowerFrom before t = t := by
  induction t generalizing before with
  | nil => rfl
  | cons c rest ih =>
    obtain ⟨hc, hrest⟩ := List.forall_mem_cons.mp ht
    rw [lowerFrom_cons, (lowersTo_lowerImage before c rest).eq_of_lowered hc, ih _ hrest]
    rfl

/-! ## Tests that do not depend on case -/

/-- A test that lowering does not change the outcome of. -/
def Caseless (p : CodePoint → Bool) : Prop :=
  ∀ c image, LowersTo c image → ∀ d ∈ image, p d = p c

namespace Caseless

variable {p : CodePoint → Bool}

/-- A test that only code points in front of the letters pass. -/
theorem of_le (h : ∀ c : CodePoint, 0x40 < c.val → p c = false) : Caseless p := by
  intro c image hlowers
  -- a letter fails the test, and so does every code point that it is moved to
  have hletters : c.val > 0x40 → (∀ d ∈ image, d.val > 0x40) → ∀ d ∈ image, p d = p c := by
    intro hc himage d hd
    rw [h c hc, h d (himage d hd)]
  cases hlowers with
  | kept _ => exact List.forall_mem_singleton.mpr rfl
  | moved hr hcovers =>
    obtain ⟨hfirst, hpast, -⟩ := letters_of_mem_lowerRuns hr
    obtain ⟨hval, hafter, -⟩ := val_image hr hcovers
    refine hletters (hfirst.trans_le hcovers.1) (List.forall_mem_singleton.mpr ?_)
    rw [hval]
    exact hpast.trans_le hafter
  | finalSigma hc => exact hletters (by omega) (List.forall_mem_singleton.mpr (by decide))
  | dotted hc =>
    refine hletters (by omega) (List.forall_mem_cons.mpr ⟨by decide, ?_⟩)
    exact List.forall_mem_singleton.mpr (by decide)

/-- A test for one character in front of the letters. -/
theorem of_char {ch : Char} (h : ch.toNat ≤ 0x40) : Caseless (·.is ch) := by
  apply of_le
  intro c hc
  simp only [CodePoint.is, beq_eq_false_iff_ne]
  omega

theorem exists_of_mem_lowerFrom (hp : Caseless p) (before : Text) (h : d ∈ lowerFrom before t) :
    ∃ c ∈ t, p d = p c := by
  induction t generalizing before with
  | nil => simp [lowerFrom] at h
  | cons c rest ih =>
    rw [lowerFrom_cons] at h
    rcases List.mem_append.mp h with himage | hrest
    · exact ⟨c, List.mem_cons_self, hp c _ (lowersTo_lowerImage before c rest) d himage⟩
    · obtain ⟨b, hb, hpb⟩ := ih _ hrest
      exact ⟨b, List.mem_cons_of_mem c hb, hpb⟩

theorem head?_lowerFrom (hp : Caseless p) (before t : Text) :
    (lowerFrom before t).head?.map p = t.head?.map p := by
  cases t with
  | nil => rfl
  | cons c rest =>
    have hlowers := lowersTo_lowerImage before c rest
    obtain ⟨d, more, himage⟩ := List.exists_cons_of_ne_nil hlowers.ne_nil
    have hd : p d = p c := hp c _ hlowers d (by simp [himage])
    rw [lowerFrom_cons, himage]
    exact congrArg some hd

theorem getLast?_lowerFrom (hp : Caseless p) (before t : Text) :
    (lowerFrom before t).getLast?.map p = t.getLast?.map p := by
  induction t generalizing before with
  | nil => rfl
  | cons c rest ih =>
    have hlowers := lowersTo_lowerImage before c rest
    rw [lowerFrom_cons, List.getLast?_append]
    cases rest with
    | nil =>
      obtain ⟨init, d, himage⟩ := (List.eq_nil_or_concat _).resolve_left hlowers.ne_nil
      rw [List.concat_eq_append] at himage
      have hd : p d = p c := hp c _ hlowers d (by simp [himage])
      rw [himage, List.getLast?_concat]
      exact congrArg some hd
    | cons b rest =>
      -- something is behind the image, and it ends as the rest does
      have hrest := ih (c :: before)
      rw [List.getLast?_cons_cons, ← hrest]
      cases hlast : (lowerFrom (c :: before) (b :: rest)).getLast? with
      | none =>
        rw [hlast, List.getLast?_cons] at hrest
        cases hrest
      | some d => rfl

end Caseless

/-! ## White space -/

/-- Whether no code point from one to another is white space: the first is none, and no change
    lies behind it. -/
def isInked (a b : Nat) : Bool :=
  !blank.contains (CodePoint.ofNat a) && blank.changes.all fun x => Nat.ble x a || Nat.blt b x

theorem not_blank_of_isInked {a b : Nat} (h : isInked a b = true) (hac : a ≤ c.val)
    (hcb : c.val ≤ b) : blank.contains c = false := by
  simp only [isInked, Bool.and_eq_true, Bool.not_eq_true', Array.all_eq_true_iff_forall_mem,
    Bool.or_eq_true, Nat.ble_eq, Nat.blt_eq] at h
  obtain ⟨hfirst, hchanges⟩ := h
  rw [← hfirst]
  -- a change that separated the two would lie between them
  apply CodeSet.contains_congr
  intro x hx
  rw [CodePoint.val_ofNat (hac.trans_lt c.isLt)]
  have := hchanges x hx
  omega

theorem isInked_of_mem_lowerRuns {r : Run} (hr : r ∈ lowerRuns) :
    isInked r.first r.last = true ∧ isInked (r.image r.first) (r.image r.last) = true := by
  have hall : lowerRuns.all (fun r : Run =>
      isInked r.first r.last && isInked (r.image r.first) (r.image r.last)) = true := by
    decide +kernel
  have h := List.all_eq_true.mp hall r hr
  simp only [Bool.and_eq_true] at h
  exact h

/-- No letter is white space, and none is moved there. -/
theorem caseless_blank : Caseless blank.contains := by
  intro c image hlowers
  cases hlowers with
  | kept _ => exact List.forall_mem_singleton.mpr rfl
  | moved hr hcovers =>
    obtain ⟨hplaces, himages⟩ := isInked_of_mem_lowerRuns hr
    obtain ⟨hval, hafter, hbefore⟩ := val_image hr hcovers
    rw [← hval] at hafter hbefore
    refine List.forall_mem_singleton.mpr ?_
    rw [not_blank_of_isInked hplaces hcovers.1 hcovers.2.1]
    exact not_blank_of_isInked himages hafter hbefore
  -- the letters that are lowered in a way of their own, one by one
  | finalSigma hc =>
    have hsigma : c = CodePoint.ofNat 0x3A3 := Fin.ext hc
    rw [hsigma]
    exact List.forall_mem_singleton.mpr (by decide +kernel)
  | dotted hc =>
    have hdotted : c = CodePoint.ofNat 0x130 := Fin.ext hc
    rw [hdotted]
    refine List.forall_mem_cons.mpr ⟨by decide +kernel, ?_⟩
    exact List.forall_mem_singleton.mpr (by decide +kernel)

end Unicode

namespace Text

open Unicode

variable {p : CodePoint → Bool} {t : Text} {c : CodePoint}

theorem lowered_of_mem_lower (h : c ∈ t.lower) : Lowered c := lowered_of_mem_lowerFrom [] t c h

theorem lower_eq_self (h : ∀ c ∈ t, Lowered c) : t.lower = t := lowerFrom_eq_self [] h

/-- The ends of a text pass a test that does not depend on case if they do after lowering. -/
theorem forall_head?_lower (hp : Caseless p) (b : Bool) :
    (∀ c ∈ t.lower.head?, p c = b) ↔ ∀ c ∈ t.head?, p c = b := by
  have hhead : t.lower.head?.map p = t.head?.map p := hp.head?_lowerFrom [] t
  simpa using congrArg (fun o : Option Bool => ∀ x ∈ o, x = b) hhead

theorem forall_getLast?_lower (hp : Caseless p) (b : Bool) :
    (∀ c ∈ t.lower.getLast?, p c = b) ↔ ∀ c ∈ t.getLast?, p c = b := by
  have hlast : t.lower.getLast?.map p = t.getLast?.map p := hp.getLast?_lowerFrom [] t
  simpa using congrArg (fun o : Option Bool => ∀ x ∈ o, x = b) hlast

theorem lower_eq_nil_iff : t.lower = [] ↔ t = [] := by
  have hhead : t.lower.head?.map blank.contains = t.head?.map blank.contains :=
    caseless_blank.head?_lowerFrom [] t
  rw [← List.head?_eq_none_iff, ← List.head?_eq_none_iff, ← Option.map_eq_none_iff, hhead,
    Option.map_eq_none_iff]

end Text

end ImportScan
