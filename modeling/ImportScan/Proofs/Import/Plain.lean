import ImportScan.Backend
import ImportScan.Proofs.Fault
import ImportScan.Proofs.Extract.Walk

/-! # Records of parsed sources

    The target of a record may be any datum, and data that count as equal need not be the
    same.  The records that a parser finds in a source are plain: their segments are texts,
    their hints are texts or null, and the rest is that of their origin.  So among them equal
    records are the same.

    * `Import.PlainAt`             : the records that an origin can have.
    * `Import.eq_of_beq`           : equal ones are the same.
    * `Backend.read_plain`         : every record of a source is plain.
-/

namespace ImportScan

/-! ## Plain records -/

/-- A target made of texts and nulls. -/
def Target.Plain : Target → Prop
  | .literal specifier => specifier.Flat
  | .template first holes => first.Flat ∧ ∀ h ∈ holes, h.1.Flat ∧ h.2.Flat

/-- A record of an origin with a plain target. -/
def Import.PlainAt (o : Origin) (i : Import) : Prop :=
  i = o.record i.isDynamic i.target ∧ i.target.Plain

theorem Datum.Flat.eq_of_beq {a b : Datum} (ha : a.Flat) (hb : b.Flat) (h : (a == b) = true) :
    a = b := by
  have hsame : Datum.same a b = true := h
  cases a <;> cases b <;> simp_all [Datum.Flat, Datum.same, Datum.sameScalar]

namespace Target

/-- Holes of the same segments and hints are the same. -/
theorem holes_eq_of_beq {hs ks : List (Datum × Datum)} (hh : ∀ h ∈ hs, h.1.Flat ∧ h.2.Flat)
    (hk : ∀ k ∈ ks, k.1.Flat ∧ k.2.Flat) (hlen : hs.length = ks.length)
    (h : ((hs.zip ks).all fun (h, k) => h.1 == k.1 && h.2 == k.2) = true) : hs = ks := by
  induction hs generalizing ks with
  | nil => exact (List.length_eq_zero_iff.mp hlen.symm).symm
  | cons x xs ih =>
    cases ks with
    | nil => cases hlen
    | cons y ys =>
      simp only [List.zip_cons_cons, List.all_cons, Bool.and_eq_true] at h
      obtain ⟨hx, hxs⟩ := List.forall_mem_cons.mp hh
      obtain ⟨hy, hys⟩ := List.forall_mem_cons.mp hk
      have hhead : x = y := Prod.ext (hx.1.eq_of_beq hy.1 h.1.1) (hx.2.eq_of_beq hy.2 h.1.2)
      rw [hhead, ih hxs hys (Nat.succ.inj hlen) h.2]

theorem Plain.eq_of_beq {s t : Target} (hs : s.Plain) (ht : t.Plain) (h : (s == t) = true) :
    s = t := by
  have hsame : same s t = true := h
  cases s with
  | literal a =>
    cases t with
    | literal b => rw [Datum.Flat.eq_of_beq hs ht hsame]
    | template => cases hsame
  | template a hs' =>
    cases t with
    | literal => cases hsame
    | template b ks =>
      simp only [same, Bool.and_eq_true, beq_iff_eq] at hsame
      obtain ⟨⟨hfirst, hlen⟩, hholes⟩ := hsame
      rw [hs.1.eq_of_beq ht.1 hfirst, holes_eq_of_beq hs.2 ht.2 hlen hholes]

/-- Plain segments and hints make a plain target. -/
theorem ofParts_plain {path : Text} {quasis hints : List Datum} {t : Target}
    (hq : ∀ q ∈ quasis, q.Flat) (hh : ∀ k ∈ hints, k.Flat)
    (h : ofParts path quasis hints = .ok t) : t.Plain := by
  unfold ofParts at h
  split at h
  · next only =>
    cases h
    exact hq only List.mem_cons_self
  · next first rest _ =>
    split at h
    · cases h
      refine ⟨hq first List.mem_cons_self, ?_⟩
      rintro ⟨k, q⟩ hmem
      have hparts := List.of_mem_zip hmem
      exact ⟨hh k hparts.1, hq q (List.mem_cons_of_mem _ hparts.2)⟩
    · cases h
  · cases h

end Target

namespace Import

variable {o : Origin}

theorem plainAt_record {target : Target} (isDynamic : Bool) (h : target.Plain) :
    PlainAt o (o.record isDynamic target) := ⟨rfl, h⟩

theorem PlainAt.eq_of_beq {i j : Import} (hi : PlainAt o i) (hj : PlainAt o j)
    (h : (i == j) = true) : i = j := by
  have hsame : same i j = true := h
  simp only [same, Bool.and_eq_true, beq_iff_eq] at hsame
  obtain ⟨⟨⟨-, hdynamic⟩, -⟩, htarget⟩ := hsame
  rw [hi.1, hj.1, hdynamic, hi.2.eq_of_beq hj.2 htarget]

/-- Among the records of one origin, equal lists are the same list. -/
theorem eq_of_beq {is js : List Import} (hi : ∀ i ∈ is, PlainAt o i)
    (hj : ∀ j ∈ js, PlainAt o j) (h : (is == js) = true) : is = js := by
  induction is generalizing js with
  | nil =>
    cases js with
    | nil => rfl
    | cons => cases h
  | cons i is ih =>
    cases js with
    | nil => cases h
    | cons j js =>
      have hboth : (i == j) = true ∧ (is == js) = true := by
        simpa only [List.cons_beq_cons, Bool.and_eq_true] using h
      obtain ⟨hi₀, his⟩ := List.forall_mem_cons.mp hi
      obtain ⟨hj₀, hjs⟩ := List.forall_mem_cons.mp hj
      rw [hi₀.eq_of_beq hj₀ hboth.1, ih his hjs hboth.2]

end Import

/-! ## Concrete syntax trees -/

namespace Cst

variable {o : Origin} {bytes : Bytes}

theorem holeHint_flat {hole : Node} {hint : Datum} (h : holeHint bytes hole = .ok hint) :
    hint.Flat := by
  unfold holeHint at h
  split at h
  · next first _ _ =>
    split at h
    · cases ht : textOf bytes first with
      | error e => simp [ht, Except.map] at h
      | ok t =>
        simp only [ht, Except.map, Except.ok.injEq] at h
        subst h
        trivial
    · cases h
      trivial
  · cases h
    trivial

theorem templateParts_flat {stop : Int} {start : Nat} {holes : List Node}
    {parts : List Datum × List Datum} (h : templateParts bytes stop start holes = .ok parts) :
    (∀ q ∈ parts.1, q.Flat) ∧ ∀ k ∈ parts.2, k.Flat := by
  induction holes generalizing start parts with
  | nil =>
    simp only [templateParts, bind_eq_ok, pure_eq_ok] at h
    obtain ⟨t, -, rfl⟩ := h
    simp [Datum.Flat]
  | cons hole rest ih =>
    simp only [templateParts, bind_eq_ok, pure_eq_ok] at h
    obtain ⟨segment, -, hint, hhint, ⟨quasis, hints⟩, hrest, rfl⟩ := h
    obtain ⟨hq, hk⟩ := ih hrest
    exact ⟨List.forall_mem_cons.mpr ⟨trivial, hq⟩,
      List.forall_mem_cons.mpr ⟨holeHint_flat hhint, hk⟩⟩

theorem argumentTarget_plain {path : Text} {call : Node} {t : Target}
    (h : argumentTarget bytes path call = .ok t) : t.Plain := by
  unfold argumentTarget at h
  split at h
  · cases h
  · split at h
    · simp only [bind_eq_ok, pure_eq_ok] at h
      obtain ⟨_, -, rfl⟩ := h
      trivial
    · -- only a template has a target that is not a text
      simp only [bind_eq_ok] at h
      obtain ⟨⟨quasis, hints⟩, hparts, ht⟩ := h
      obtain ⟨hq, hk⟩ := templateParts_flat hparts
      exact Target.ofParts_plain hq hk ht
    · cases h

theorem declaration_plain {source : Node} {found : Option Import}
    (h : declaration o bytes source = .ok found) : ∀ i ∈ found, i.PlainAt o := by
  simp only [declaration, bind_eq_ok, pure_eq_ok] at h
  obtain ⟨t, -, rfl⟩ := h
  rintro i ⟨⟩
  exact Import.plainAt_record _ trivial

theorem visit_plain {names : List Text} {n : Node} {found : Option Import}
    (h : visit o bytes names n = .ok found) : ∀ i ∈ found, i.PlainAt o := by
  have hnone : (Except.ok none : Except Fault (Option Import)) = .ok found →
      ∀ i ∈ found, i.PlainAt o := by
    rintro ⟨⟩ i ⟨⟩
  have hcall : ∀ isDynamic, (do
      return some (o.record isDynamic (← argumentTarget bytes o.path n)) :
        Except Fault (Option Import)) = .ok found → ∀ i ∈ found, i.PlainAt o := by
    intro isDynamic h
    simp only [bind_eq_ok, pure_eq_ok] at h
    obtain ⟨t, ht, rfl⟩ := h
    rintro i ⟨⟩
    exact Import.plainAt_record _ (argumentTarget_plain ht)
  unfold visit at h
  split at h
  · -- an import statement
    split at h
    · exact declaration_plain h
    · exact hnone h
  · -- an export statement
    split at h
    · split at h
      · exact hnone h
      · exact declaration_plain h
    · exact hnone h
  · -- a call, of `import` or of a name that requires
    split at h
    · split at h
      · exact hcall true h
      · simp only [bind_eq_ok] at h
        obtain ⟨t, -, h⟩ := h
        split at h
        · exact hcall false h
        · exact hnone h
      · exact hnone h
    · exact hnone h
  · exact hnone h

mutual

theorem walk_plain {names : List Text} : ∀ {n : Node} {found : List Import},
    walk o bytes names n = .ok found → ∀ i ∈ found, i.PlainAt o
  | .mk info children, found, h => by
    simp only [walk, bind_eq_ok, pure_eq_ok] at h
    obtain ⟨own, hown, below, hbelow, rfl⟩ := h
    intro i hi
    rcases List.mem_append.mp hi with hi | hi
    · exact visit_plain hown i (Option.mem_toList.mp hi)
    · exact walkAll_plain hbelow i hi

theorem walkAll_plain {names : List Text} : ∀ {ns : List Node} {found : List Import},
    walkAll o bytes names ns = .ok found → ∀ i ∈ found, i.PlainAt o
  | [], found, h => by
    cases h
    exact fun i hi => absurd hi (by simp)
  | n :: ns, found, h => by
    simp only [walkAll, bind_eq_ok, pure_eq_ok] at h
    obtain ⟨first, hfirst, rest, hrest, rfl⟩ := h
    intro i hi
    rcases List.mem_append.mp hi with hi | hi
    · exact walk_plain hfirst i hi
    · exact walkAll_plain hrest i hi

end

/-- The records of a concrete syntax tree are plain. -/
theorem extract_plain {root : Node} {found : List Import}
    (h : extract o bytes root = .ok found) : ∀ i ∈ found, i.PlainAt o := by
  simp only [extract_eq_walk, bind_eq_ok] at h
  obtain ⟨names, -, h⟩ := h
  exact walk_plain h

end Cst

/-! ## ESTree programs -/

namespace Estree

variable {o : Origin}

/-! ### Records of shaped programs -/

theorem requiredItems_shaped {d : Datum} {items : List Datum} (hd : Shaped d)
    (h : requiredItems d = .ok items) : ∀ e ∈ items, Shaped e := by
  unfold requiredItems at h
  split at h
  · next items' hitems =>
    cases h
    exact hd.items hitems
  · cases h

theorem argumentTarget_plain {path : Text} {argument : Datum} {t : Target}
    (hd : Shaped argument) (h : argumentTarget path argument = .ok t) : t.Plain := by
  unfold argumentTarget at h
  simp only at h
  split at h
  · cases h
    trivial
  · split at h
    · simp only [bind_eq_ok] at h
      obtain ⟨quasis, hquasis, hints, hhints, ht⟩ := h
      -- the parts of a template are what the shape of its quasis and holes says
      refine Target.ofParts_plain ?_ ?_ ht
      · intro q hq
        obtain ⟨e, he, rfl⟩ := List.mem_map.mp hq
        exact (requiredItems_shaped (hd.field _) hquasis e he).shape.cooked
      · intro k hk
        obtain ⟨e, he, rfl⟩ := List.mem_map.mp hk
        split
        · next hidentifier =>
          exact (requiredItems_shaped (hd.field _) hhints e he).shape.name hidentifier
        · trivial
    · cases h

theorem firstArgument_shaped {path : Text} {call argument : Datum} (hd : Shaped call)
    (h : firstArgument path call = .ok argument) : Shaped argument := by
  have hargs := hd.field "arguments"
  unfold firstArgument at h
  split at h
  · next first rest heq =>
    cases h
    rw [heq] at hargs
    exact hargs.item List.mem_cons_self
  · cases h
    exact shaped_text _
  · next e es heq =>
    rw [heq] at hargs
    split at h
    · next k v hfind =>
      cases h
      exact hargs.value (List.mem_of_find?_eq_some hfind)
    · cases h
  · split at h <;> cases h

theorem visitCall_plain {names : List Datum} {call : Datum} {found : Option Import}
    (hd : Shaped call) (h : visitCall o names call = .ok found) :
    ∀ i ∈ found, i.PlainAt o := by
  have hrecord : ∀ isDynamic, (do
      let target ← argumentTarget o.path (← firstArgument o.path call)
      return some (o.record isDynamic target) : Except Fault (Option Import)) = .ok found →
      ∀ i ∈ found, i.PlainAt o := by
    intro isDynamic h
    simp only [bind_eq_ok, pure_eq_ok] at h
    obtain ⟨argument, harg, t, ht, rfl⟩ := h
    rintro i ⟨⟩
    exact Import.plainAt_record _ (argumentTarget_plain (firstArgument_shaped hd harg) ht)
  unfold visitCall at h
  simp only at h
  split at h
  · exact hrecord true h
  · split at h
    · rw [bind_eq_ok] at h
      obtain ⟨name, -, h⟩ := h
      split at h
      · exact hrecord false h
      · cases h
        rintro i ⟨⟩
    · cases h
      rintro i ⟨⟩

theorem visit_plain {names : List Datum} {node : Datum} {found : Option Import}
    (hd : Shaped node) (h : visit o names node = .ok found) : ∀ i ∈ found, i.PlainAt o := by
  unfold visit at h
  split at h
  · next hdeclared =>
    cases h
    rintro i ⟨⟩
    exact Import.plainAt_record _ (hd.shape.source (.inl hdeclared))
  · split at h
    · next hexported =>
      split at h
      · cases h
        rintro i ⟨⟩
      · next source hsource =>
        cases h
        rintro i ⟨⟩
        exact Import.plainAt_record _ (hd.shape.source (.inr hexported))
    · split at h
      · simp only [bind_eq_ok, pure_eq_ok] at h
        obtain ⟨t, ht, rfl⟩ := h
        rintro i ⟨⟩
        exact Import.plainAt_record _ (argumentTarget_plain (hd.field _) ht)
      · split at h
        · exact visitCall_plain hd h
        · cases h
          rintro i ⟨⟩

theorem plain_of_nil {found : List Import} (h : (.ok [] : Except Fault (List Import)) = .ok found) :
    ∀ i ∈ found, i.PlainAt o := by
  cases h
  exact fun i hi => absurd hi (by simp)

mutual

theorem walkValue_plain {names : List Datum} {d : Datum} {found : List Import} (hd : Shaped d)
    (h : walkValue o names d = .ok found) : ∀ i ∈ found, i.PlainAt o := by
  cases d with
  | map entries =>
    simp only [walkValue] at h
    split at h
    · exact walkNode_plain hd h
    · exact plain_of_nil h
  | list items => exact walkItems_plain (fun _ => hd.item) (by simpa only [walkValue] using h)
  | _ => exact plain_of_nil (by simpa only [walkValue] using h)

theorem walkItems_plain {names : List Datum} : ∀ {items : List Datum} {found : List Import},
    (∀ d ∈ items, Shaped d) → walkItems o names items = .ok found → ∀ i ∈ found, i.PlainAt o
  | [], found, _, h => plain_of_nil (by simpa only [walkItems] using h)
  | d :: rest, found, hd, h => by
    obtain ⟨hfirst, hrest⟩ := List.forall_mem_cons.mp hd
    cases d with
    | map entries =>
      simp only [walkItems] at h
      split at h
      · simp only [bind_eq_ok, pure_eq_ok] at h
        obtain ⟨first, hfound, others, hothers, rfl⟩ := h
        intro i hi
        rcases List.mem_append.mp hi with hi | hi
        · exact walkNode_plain hfirst hfound i hi
        · exact walkItems_plain hrest hothers i hi
      · simp only [bind_eq_ok, pure_eq_ok] at h
        obtain ⟨first, hfound, others, hothers, rfl⟩ := h
        cases hfound
        exact walkItems_plain hrest hothers
    | _ => exact walkItems_plain hrest (by simpa only [walkItems] using h)

theorem walkNode_plain {names : List Datum} {entries : List (Datum × Datum)}
    {found : List Import} (hd : Shaped (.map entries))
    (h : walkNode o names entries = .ok found) : ∀ i ∈ found, i.PlainAt o := by
  simp only [walkNode, bind_eq_ok, pure_eq_ok] at h
  obtain ⟨own, hown, below, hbelow, rfl⟩ := h
  intro i hi
  rcases List.mem_append.mp hi with hi | hi
  · exact visit_plain hd hown i (Option.mem_toList.mp hi)
  · exact walkFields_plain (fun _ => hd.value) hbelow i hi

theorem walkFields_plain {names : List Datum} : ∀ {entries : List (Datum × Datum)}
    {found : List Import}, (∀ f ∈ entries, Shaped f.2) → walkFields o names entries = .ok found →
    ∀ i ∈ found, i.PlainAt o
  | [], found, _, h => plain_of_nil (by simpa only [walkFields] using h)
  | (k, value) :: rest, found, hd, h => by
    simp only [walkFields, bind_eq_ok, pure_eq_ok] at h
    obtain ⟨first, hfirst, others, hothers, rfl⟩ := h
    obtain ⟨hvalue, hrest⟩ := List.forall_mem_cons.mp hd
    intro i hi
    rcases List.mem_append.mp hi with hi | hi
    · exact walkValue_plain hvalue hfirst i hi
    · exact walkFields_plain hrest hothers i hi

end

theorem extract_plain {program : Datum} {found : List Import} (hd : Shaped program)
    (h : extract o program = .ok found) : ∀ i ∈ found, i.PlainAt o := by
  cases program with
  | map entries =>
    simp only [extract_eq_walk, bind_eq_ok] at h
    obtain ⟨names, -, h⟩ := h
    exact walkNode_plain hd h
  | _ =>
    simp only [extract, bind_eq_ok] at h
    obtain ⟨names, -, h⟩ := h
    cases h

end Estree

/-! ## Parsers -/

namespace Backend

/-- Every record that a parser finds in a source is plain. -/
theorem read_plain [Parsers] {b : Backend} {o : Origin} {source : Text} {found : List Import}
    (h : (b.read o source).1 = .ok found) : ∀ i ∈ found, i.PlainAt o := by
  unfold read at h
  split at h
  · split at h
    · next program hprogram => exact Estree.extract_plain (Parsers.shaped hprogram) h
    · cases h
  · split at h
    · cases h
    · obtain ⟨root, -, hextract⟩ := bind_eq_ok.mp h
      exact Cst.extract_plain hextract

end Backend

end ImportScan
