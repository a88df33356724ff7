import Mathlib.Data.List.Induction
import ImportScan.Proofs.Import.Equality
import ImportScan.Proofs.Import.Plain
import ImportScan.Proofs.Store.Contents

/-! # A store and its history

    A store keeps the records it has when it is given equal ones, and records are equal when
    their packages have the same identity, whatever else is set for the packages.  What can be
    seen of a store is still a function of the changes asked for so far.

    * `Import.content`   : what counts when records are compared.
    * `Store.replay`     : the answers to a sequence of changes, and the store they leave.
    * `Store.lastOn`     : the last change of a path.
    * `Store.Arrived`    : when a path came in, to stay.
    * `replay_recounts_history` : paths, records, answers and generation, told from the changes.
-/

namespace ImportScan

/-! ## Equal records -/

/-- What counts when records are compared: of the package only its identity. -/
def Import.content (i : Import) : Text × (Datum × Text) × Bool × Option Text × Target :=
  (i.path, i.package.identity, i.isDynamic, i.treeType, i.target)

/-- The name of the package and the parts of the target are texts, or null. -/
def Import.Typed (i : Import) : Prop := i.package.name.Flat ∧ i.target.Plain

theorem Datum.Flat.beq_iff {a b : Datum} (ha : a.Flat) (hb : b.Flat) :
    (a == b) = true ↔ a = b := by
  constructor
  · exact ha.eq_of_beq hb
  · intro heq
    rw [heq]
    exact BEq.rfl

theorem Target.Plain.beq_iff {s t : Target} (hs : s.Plain) (ht : t.Plain) :
    (s == t) = true ↔ s = t := by
  constructor
  · exact hs.eq_of_beq ht
  · intro heq
    rw [heq]
    exact BEq.rfl

namespace Import

variable {i j : Import} {is js : List Import}

theorem Typed.beq_iff (hi : i.Typed) (hj : j.Typed) : (i == j) = true ↔ i.content = j.content := by
  have hname := hi.1.beq_iff hj.1
  have htarget := hi.2.beq_iff hj.2
  have hpackage : (i.package == j.package) = true ↔ i.package.identity = j.package.identity := by
    show Package.same i.package j.package = true ↔ _
    simp [Package.same, Package.identity, hname]
  show same i j = true ↔ _
  simp only [same, Bool.and_eq_true, beq_iff_eq, hpackage, htarget, content, Prod.mk.injEq,
    and_assoc]

/-- A record is rendered from what counts. -/
theorem datum_of_content (h : i.content = j.content) : i.datum = j.datum := by
  simp only [content, Package.identity, Prod.mk.injEq] at h
  obtain ⟨hpath, ⟨hname, -⟩, hdynamic, htree, htarget⟩ := h
  simp only [datum, hpath, hname, hdynamic, htree, htarget]

theorem beq_list_iff (hi : ∀ i ∈ is, i.Typed) (hj : ∀ j ∈ js, j.Typed) :
    (is == js) = true ↔ is.map content = js.map content := by
  induction is generalizing js with
  | nil => cases js <;> simp
  | cons i is ih =>
    cases js with
    | nil => simp
    | cons j js =>
      obtain ⟨hi₀, his⟩ := List.forall_mem_cons.mp hi
      obtain ⟨hj₀, hjs⟩ := List.forall_mem_cons.mp hj
      rw [List.cons_beq_cons, Bool.and_eq_true, hi₀.beq_iff hj₀, ih his hjs]
      simp

/-- Records with the same content are equal one by one, and are rendered in the same way. -/
theorem forall₂_of_content (hi : ∀ i ∈ is, i.Typed) (hj : ∀ j ∈ js, j.Typed)
    (h : is.map content = js.map content) :
    List.Forall₂ (fun i j => (i == j) = true ∧ i.datum = j.datum) is js := by
  induction is generalizing js with
  | nil =>
    have hnil : js = [] := by simpa using h.symm
    rw [hnil]
    exact .nil
  | cons i is ih =>
    cases js with
    | nil => simp at h
    | cons j js =>
      simp only [List.map_cons, List.cons.injEq] at h
      obtain ⟨hi₀, his⟩ := List.forall_mem_cons.mp hi
      obtain ⟨hj₀, hjs⟩ := List.forall_mem_cons.mp hj
      exact .cons ⟨(hi₀.beq_iff hj₀).mpr h.1, datum_of_content h.1⟩ (ih his hjs h.2)

end Import

namespace Store

/-! ## Histories -/

/-- What can be asked of a store that changes it. -/
inductive Change where
  /-- Store the records of a file. -/
  | upsert (path : Text) (records : List Import)
  /-- Forget a file. -/
  | evict (path : Text)

namespace Change

/-- The file that is to change. -/
def path : Change → Text
  | .upsert path _ => path
  | .evict path => path

/-- The records that a file is to have, if it is to be tracked. -/
def records? : Change → Option (List Import)
  | .upsert _ records => some records
  | .evict _ => none

/-- The records that are to be stored have fields of the declared types. -/
def Typed (c : Change) : Prop := ∀ rs ∈ c.records?, ∀ i ∈ rs, i.Typed

end Change

/-- The answer to a change, and the store that it leaves. -/
def change (s : Store) : Change → Bool × Store
  | .upsert path records => s.upsert path records
  | .evict path => s.evict path

/-- One more change in a sequence, of which the answers are kept. -/
def advance (r : List Bool × Store) (c : Change) : List Bool × Store :=
  (r.1 ++ [(r.2.change c).1], (r.2.change c).2)

/-- The answers to a sequence of changes of a new store, and the store that they leave. -/
def replay (changes : List Change) : List Bool × Store := changes.foldl advance ([], {})

/-- The last change of a path, if there was one. -/
def lastOn (changes : List Change) (p : Text) : Option Change :=
  (changes.filter (·.path == p)).getLast?

/-- The change with a number is the earliest that stored records of a path since the path was
    last forgotten, or since the start. -/
structure Arrived (changes : List Change) (p : Text) (n : Nat) : Prop where
  stored : ∃ rs, changes[n]? = some (.upsert p rs)
  kept : ∀ k, n < k → changes[k]? ≠ some (.evict p)
  earliest : ∀ m rs, m < n → changes[m]? = some (.upsert p rs) →
    ∃ k, m < k ∧ k < n ∧ changes[k]? = some (.evict p)

variable {changes : List Change} {p : Text} {s : Store}

theorem replay_snoc (changes : List Change) (c : Change) :
    replay (changes ++ [c]) = advance (replay changes) c := by
  simp [replay]

theorem lastOn_snoc (changes : List Change) (c : Change) (p : Text) :
    lastOn (changes ++ [c]) p = if c.path = p then some c else lastOn changes p := by
  unfold lastOn
  by_cases hc : c.path = p
  · simp [hc]
  · simp [hc]

/-- The records of the last change of a path, if that was to store some. -/
def latest (changes : List Change) (p : Text) : Option (List Import) :=
  (lastOn changes p).bind Change.records?

theorem latest_snoc (changes : List Change) (c : Change) (p : Text) :
    latest (changes ++ [c]) p = if c.path = p then c.records? else latest changes p := by
  unfold latest
  rw [lastOn_snoc]
  by_cases hc : c.path = p
  · simp [hc]
  · simp [hc]

theorem latest_eq_some_iff {rs : List Import} :
    latest changes p = some rs ↔ lastOn changes p = some (.upsert p rs) := by
  unfold latest
  constructor
  · intro h
    obtain ⟨c, hlast, hrecords⟩ := Option.bind_eq_some_iff.mp h
    have hpath : c.path = p := by
      have hmem := List.mem_of_getLast? hlast
      simpa using (List.mem_filter.mp hmem).2
    cases c with
    | upsert q rs' =>
      cases hrecords
      rw [hlast, ← hpath]
      rfl
    | evict q => cases hrecords
  · intro h
    rw [h]
    rfl

/-- Records that are no longer tracked were forgotten after they were stored. -/
theorem evicted_of_latest {m : Nat} {rs : List Import} (hlatest : latest changes p = none)
    (hm : changes[m]? = some (.upsert p rs)) :
    ∃ k, m < k ∧ k < changes.length ∧ changes[k]? = some (.evict p) := by
  -- the last change of the path is the one that is looked for, so the induction is from the end
  induction changes using List.reverseRecOn with
  | nil => simp at hm
  | append_singleton changes c ih =>
    rw [latest_snoc] at hlatest
    by_cases hc : c.path = p
    · rw [if_pos hc] at hlatest
      cases c with
      | upsert q rs' => cases hlatest
      | evict q =>
        have hq : q = p := hc
        subst hq
        have hlt : m < changes.length := by
          by_contra hge
          rw [List.getElem?_append_right (by omega), List.getElem?_singleton] at hm
          split at hm <;> cases hm
        exact ⟨changes.length, hlt, by simp, by simp⟩
    · rw [if_neg hc] at hlatest
      have hlt : m < changes.length := by
        by_contra hge
        rw [List.getElem?_append_right (by omega), List.getElem?_singleton] at hm
        split at hm
        · cases hm
          exact hc rfl
        · cases hm
      rw [List.getElem?_append_left hlt] at hm
      obtain ⟨k, hmk, hk, hevict⟩ := ih hlatest hm
      refine ⟨k, hmk, ?_, ?_⟩
      · simp only [List.length_append, List.length_singleton]
        omega
      · rw [List.getElem?_append_left hk]
        exact hevict

/-! ## Arrivals -/

theorem Arrived.lt {n : Nat} (h : Arrived changes p n) : n < changes.length := by
  obtain ⟨rs, hrs⟩ := h.stored
  by_contra hge
  rw [List.getElem?_eq_none (by omega)] at hrs
  cases hrs

/-- A path stays where it is as long as it is not forgotten. -/
theorem Arrived.snoc {n : Nat} {c : Change} (h : Arrived changes p n) (hc : c ≠ .evict p) :
    Arrived (changes ++ [c]) p n := by
  have hlt := h.lt
  obtain ⟨⟨rs, hrs⟩, hkept, hearliest⟩ := h
  have hbefore : ∀ k, k < changes.length → (changes ++ [c])[k]? = changes[k]? :=
    fun k hk => List.getElem?_append_left hk
  refine ⟨⟨rs, (hbefore n hlt).trans hrs⟩, ?_, ?_⟩
  · intro k hk hevict
    by_cases hold : k < changes.length
    · rw [hbefore k hold] at hevict
      exact hkept k hk hevict
    · -- only the new change can come after all the others
      rw [List.getElem?_append_right (by omega), List.getElem?_singleton] at hevict
      split at hevict
      · exact hc (Option.some.inj hevict)
      · cases hevict
  · intro m rs' hm hstored
    rw [hbefore m (by omega)] at hstored
    obtain ⟨k, hmk, hkn, hevict⟩ := hearliest m rs' hm hstored
    exact ⟨k, hmk, hkn, (hbefore k (by omega)).trans hevict⟩

/-- A path that is not tracked comes in with the change that stores its records. -/
theorem arrived_new (rs : List Import) (hlatest : latest changes p = none) :
    Arrived (changes ++ [.upsert p rs]) p changes.length := by
  refine ⟨⟨rs, by simp⟩, ?_, ?_⟩
  · intro k hk
    rw [List.getElem?_eq_none (by simp; omega)]
    simp
  · intro m rs' hm hstored
    rw [List.getElem?_append_left hm] at hstored
    obtain ⟨k, hmk, hk, hevict⟩ := evicted_of_latest hlatest hstored
    exact ⟨k, hmk, hk, by rw [List.getElem?_append_left hk]; exact hevict⟩

/-! ## The paths of a store -/

theorem mem_paths : p ∈ s.paths ↔ ∃ rs, s.get? p = some rs := Table.mem_keys_iff

theorem paths_upsert_of_mem (records : List Import) (h : p ∈ s.paths) :
    (s.upsert p records).2.paths = s.paths := by
  obtain ⟨_, _, _, heq⟩ | heq := upsert_cases s p records
  · rw [heq]
  · rw [heq]
    exact (Table.keys_set p records s.table.entries).trans (if_pos h)

theorem paths_upsert_of_notMem (records : List Import) (h : p ∉ s.paths) :
    (s.upsert p records).2.paths = s.paths ++ [p] := by
  obtain ⟨old, hold, _, _⟩ | heq := upsert_cases s p records
  · exact absurd (mem_paths.mpr ⟨old, hold⟩) h
  · rw [heq]
    exact (Table.keys_set p records s.table.entries).trans (if_neg h)

theorem paths_evict (s : Store) (p : Text) :
    (s.evict p).2.paths = s.paths.filter (· != p) := by
  have herase : (s.table.erase p).keys = s.paths.filter (· != p) := by
    simp only [Table.keys, Table.erase, paths, List.filter_map]
    rfl
  obtain ⟨hnone, heq⟩ | ⟨_, heq⟩ | ⟨_, _, _, heq⟩ := evict_cases s p
  · rw [heq]
    symm
    rw [List.filter_eq_self]
    intro q hq
    obtain ⟨rs, hrs⟩ := mem_paths.mp hq
    have hne : q ≠ p := by
      intro hqp
      rw [hqp, hnone] at hrs
      cases hrs
    simpa using hne
  · rw [heq]
    exact herase
  · rw [heq]
    exact herase

/-! ## The invariant -/

/-- A store has, for every path, records with the content that the last change of the path
    asked for; its paths are in the order of their arrivals; and its generation counts the
    answers `true`. -/
structure Recounts (changes : List Change) (r : List Bool × Store) : Prop where
  typed : ∀ p rs, r.2.get? p = some rs → ∀ i ∈ rs, i.Typed
  content : ∀ p, (r.2.get? p).map (·.map Import.content) =
    (latest changes p).map (·.map Import.content)
  order : ∃ arrival : Text → Nat, (∀ p ∈ r.2.paths, Arrived changes p (arrival p)) ∧
    r.2.paths.Pairwise fun p q => arrival p < arrival q
  generation : r.2.generation = r.1.count true

variable {r : List Bool × Store}

/-- What the content of the records of a path is like can be told from its last change. -/
theorem Recounts.exists_stored_iff (h : Recounts changes r) (p : Text)
    (P : List (Text × (Datum × Text) × Bool × Option Text × Target) → Prop) :
    (∃ stored, r.2.get? p = some stored ∧ P (stored.map Import.content)) ↔
      ∃ rs, latest changes p = some rs ∧ P (rs.map Import.content) := by
  have hcontent := h.content p
  constructor
  · rintro ⟨stored, hget, hP⟩
    rw [hget, Option.map_some] at hcontent
    obtain ⟨rs, hlatest, heq⟩ := Option.map_eq_some_iff.mp hcontent.symm
    exact ⟨rs, hlatest, heq ▸ hP⟩
  · rintro ⟨rs, hlatest, hP⟩
    rw [hlatest, Option.map_some] at hcontent
    obtain ⟨stored, hget, heq⟩ := Option.map_eq_some_iff.mp hcontent
    exact ⟨stored, hget, heq ▸ hP⟩

theorem Recounts.isSome (h : Recounts changes r) (p : Text) :
    p ∈ r.2.paths ↔ ∃ rs, latest changes p = some rs := by
  rw [mem_paths]
  simpa using h.exists_stored_iff p fun _ => True

/-- An answer advances the generation exactly when it is `true`. -/
theorem generation_moves {answer : Bool} {s' : Store} {answers : List Bool}
    (hm : Moves answer s s') (hgen : s.generation = answers.count true) :
    s'.generation = (answers ++ [answer]).count true := by
  cases answer with
  | true =>
    have hnext : s'.generation = s.generation + 1 := hm
    simp [hnext, hgen]
  | false =>
    have hnext : s'.generation = s.generation := hm.1
    simp [hnext, hgen]

theorem Recounts.upsert (h : Recounts changes r) {rs : List Import} (hrs : ∀ i ∈ rs, i.Typed) :
    Recounts (changes ++ [.upsert p rs]) (advance r (.upsert p rs)) := by
  -- the path has the given records, or kept records that are equal to them
  have hself : ∃ stored, (r.2.upsert p rs).2.get? p = some stored ∧ (∀ i ∈ stored, i.Typed) ∧
      stored.map Import.content = rs.map Import.content := by
    obtain ⟨old, hold, hbeq, heq⟩ | heq := upsert_cases r.2 p rs
    · have htyped := h.typed p old hold
      exact ⟨old, by rw [heq]; exact hold, htyped, (Import.beq_list_iff htyped hrs).mp hbeq⟩
    · exact ⟨rs, by rw [heq]; exact Table.get?_put_self _ _ _, hrs, rfl⟩
  obtain ⟨stored, hstored, htyped, hcontent⟩ := hself
  refine ⟨?_, ?_, ?_, generation_moves (upsert_moves r.2 p rs) h.generation⟩
  · intro q rs' hq
    by_cases hqp : q = p
    · subst hqp
      have heq : rs' = stored := Option.some.inj (hq.symm.trans hstored)
      rw [heq]
      exact htyped
    · exact h.typed q rs' ((get?_upsert_of_ne rs hqp).symm.trans hq)
  · intro q
    show ((r.2.upsert p rs).2.get? q).map _ = _
    rw [latest_snoc]
    by_cases hqp : q = p
    · subst hqp
      have hpath : Change.path (.upsert q rs) = q := rfl
      rw [hstored, if_pos hpath]
      exact congrArg some hcontent
    · have hpath : Change.path (.upsert p rs) ≠ q := fun heq => hqp heq.symm
      rw [get?_upsert_of_ne rs hqp, if_neg hpath]
      exact h.content q
  · obtain ⟨arrival, harrived, hsorted⟩ := h.order
    show ∃ arrival : Text → Nat, (∀ q ∈ (r.2.upsert p rs).2.paths, _) ∧
      (r.2.upsert p rs).2.paths.Pairwise _
    by_cases hp : p ∈ r.2.paths
    · rw [paths_upsert_of_mem rs hp]
      exact ⟨arrival, fun q hq => (harrived q hq).snoc (by simp), hsorted⟩
    · -- the path comes in behind all the others
      have hlatest : latest changes p = none := by
        rw [h.isSome p] at hp
        exact Option.eq_none_iff_forall_not_mem.mpr fun rs hrs => hp ⟨rs, hrs⟩
      have hne : ∀ q ∈ r.2.paths, q ≠ p := by
        intro q hq heq
        exact hp (heq ▸ hq)
      have hold : ∀ q ∈ r.2.paths, Function.update arrival p changes.length q = arrival q :=
        fun q hq => Function.update_of_ne (hne q hq) _ _
      rw [paths_upsert_of_notMem rs hp]
      refine ⟨Function.update arrival p changes.length, ?_, ?_⟩
      · intro q hq
        rcases List.mem_append.mp hq with hq | hq
        · rw [hold q hq]
          exact (harrived q hq).snoc (by simp)
        · rw [List.mem_singleton.mp hq, Function.update_self]
          exact arrived_new rs hlatest
      · rw [List.pairwise_append]
        refine ⟨?_, List.pairwise_singleton _ _, ?_⟩
        · refine hsorted.imp_of_mem ?_
          intro q q' hq hq' hlt
          rwa [hold q hq, hold q' hq']
        · intro q hq q' hq'
          rw [List.mem_singleton.mp hq', hold q hq, Function.update_self]
          exact (harrived q hq).lt

theorem Recounts.evict (h : Recounts changes r) (p : Text) :
    Recounts (changes ++ [.evict p]) (advance r (.evict p)) := by
  refine ⟨?_, ?_, ?_, generation_moves (evict_moves r.2 p) h.generation⟩
  · intro q rs hq
    have hget : (r.2.evict p).2.get? q = some rs := hq
    rw [get?_evict] at hget
    by_cases hqp : q = p
    · rw [if_pos hqp] at hget
      cases hget
    · rw [if_neg hqp] at hget
      exact h.typed q rs hget
  · intro q
    show ((r.2.evict p).2.get? q).map _ = _
    rw [latest_snoc, get?_evict]
    by_cases hqp : q = p
    · subst hqp
      have hpath : Change.path (.evict q) = q := rfl
      rw [if_pos rfl, if_pos hpath]
      rfl
    · have hpath : Change.path (.evict p) ≠ q := fun heq => hqp heq.symm
      rw [if_neg hqp, if_neg hpath]
      exact h.content q
  · obtain ⟨arrival, harrived, hsorted⟩ := h.order
    refine ⟨arrival, ?_, ?_⟩
    · intro q hq
      have hq' : q ∈ r.2.paths.filter (· != p) := paths_evict r.2 p ▸ hq
      obtain ⟨hmem, hne⟩ := List.mem_filter.mp hq'
      refine (harrived q hmem).snoc ?_
      intro heq
      cases heq
      simp at hne
    · show (r.2.evict p).2.paths.Pairwise _
      rw [paths_evict]
      exact hsorted.filter _

theorem recounts_replay (htyped : ∀ c ∈ changes, c.Typed) : Recounts changes (replay changes) := by
  -- the history is extended at its end, as the store is
  induction changes using List.reverseRecOn with
  | nil =>
    refine ⟨?_, fun p => rfl, ⟨fun _ => 0, ?_, List.Pairwise.nil⟩, rfl⟩
    · intro p rs h
      cases h
    · intro p hp
      cases hp
  | append_singleton changes c ih =>
    have hrest := ih fun c' hc' => htyped c' (List.mem_append_left _ hc')
    have hlast := htyped c (by simp)
    rw [replay_snoc]
    cases c with
    | upsert p rs => exact hrest.upsert (hlast rs rfl)
    | evict p => exact hrest.evict p

/-! ## Answers -/

theorem upsert_eq_false_iff (s : Store) (p : Text) (rs : List Import) :
    (s.upsert p rs).1 = false ↔ ∃ old, s.get? p = some old ∧ (old == rs) = true := by
  unfold Store.upsert
  cases s.get? p with
  | none => simp
  | some old =>
    by_cases heq : (old == rs) = true
    · simp [heq]
    · simp [heq]

theorem evict_eq_true_iff (s : Store) (p : Text) :
    (s.evict p).1 = true ↔ ∃ old, s.get? p = some old ∧ old ≠ [] := by
  obtain ⟨hget, heq⟩ | ⟨hget, heq⟩ | ⟨i, is, hget, heq⟩ := evict_cases s p
  · simp [hget, heq]
  · simp [hget, heq]
  · simp [hget, heq]

/-- To store records answers `false` exactly when those of the last change are equal. -/
theorem Recounts.upsert_eq_false_iff (h : Recounts changes r)
    (hgiven : ∀ rs, latest changes p = some rs → ∀ i ∈ rs, i.Typed) {rs : List Import}
    (hrs : ∀ i ∈ rs, i.Typed) :
    (r.2.upsert p rs).1 = false ↔ ∃ old, latest changes p = some old ∧ (old == rs) = true := by
  have hstored : ∀ old, r.2.get? p = some old →
      ((old == rs) = true ↔ old.map Import.content = rs.map Import.content) :=
    fun old hget => Import.beq_list_iff (h.typed p old hget) hrs
  have hlatest : ∀ old, latest changes p = some old →
      ((old == rs) = true ↔ old.map Import.content = rs.map Import.content) :=
    fun old hold => Import.beq_list_iff (hgiven old hold) hrs
  calc (r.2.upsert p rs).1 = false
      ↔ ∃ old, r.2.get? p = some old ∧ (old == rs) = true := Store.upsert_eq_false_iff r.2 p rs
    _ ↔ ∃ old, r.2.get? p = some old ∧ old.map Import.content = rs.map Import.content :=
        exists_congr fun old => and_congr_right (hstored old)
    _ ↔ ∃ old, latest changes p = some old ∧ old.map Import.content = rs.map Import.content :=
        h.exists_stored_iff p (· = rs.map Import.content)
    _ ↔ ∃ old, latest changes p = some old ∧ (old == rs) = true :=
        exists_congr fun old => and_congr_right fun hold => (hlatest old hold).symm

/-- To forget a path answers `true` exactly when its last change was to store some record. -/
theorem Recounts.evict_eq_true_iff (h : Recounts changes r) (p : Text) :
    (r.2.evict p).1 = true ↔ ∃ old, latest changes p = some old ∧ old ≠ [] := by
  have hstored := h.exists_stored_iff p (· ≠ [])
  simp only [ne_eq, List.map_eq_nil_iff] at hstored
  exact (Store.evict_eq_true_iff r.2 p).trans hstored

/-- After every sequence of changes of a new store, with records of the declared types: no path
    is listed twice, and a path is listed exactly when its last change was to store records.
    The paths are in the order of the earliest change that stored records of theirs since they
    were last forgotten.  The records of a path are one by one equal to those of its last
    change, and are rendered in the same way.  To store records answers `false` exactly when
    those of the last change are equal, to forget a path answers `true` exactly when its last
    change was to store some record, and the generation is the number of answers `true`. -/
theorem replay_recounts_history (htyped : ∀ c ∈ changes, c.Typed) :
    let answers := (replay changes).1
    let s := (replay changes).2
    s.paths.Nodup ∧
    (∀ p, p ∈ s.paths ↔ ∃ rs, lastOn changes p = some (.upsert p rs)) ∧
    (∃ arrival : Text → Nat, (∀ p ∈ s.paths, Arrived changes p (arrival p)) ∧
      s.paths.Pairwise fun p q => arrival p < arrival q) ∧
    (∀ p rs, lastOn changes p = some (.upsert p rs) → ∃ stored, s.get? p = some stored ∧
      List.Forall₂ (fun i j => (i == j) = true ∧ i.datum = j.datum) stored rs) ∧
    (∀ p rs, (∀ i ∈ rs, i.Typed) → ((s.change (.upsert p rs)).1 = false ↔
      ∃ old, lastOn changes p = some (.upsert p old) ∧ (old == rs) = true)) ∧
    (∀ p, (s.change (.evict p)).1 = true ↔
      ∃ old, lastOn changes p = some (.upsert p old) ∧ old ≠ []) ∧
    s.generation = answers.count true := by
  intro answers s
  have h : Recounts changes (answers, s) := recounts_replay htyped
  -- the records that a history speaks of have the declared types, too
  have hgiven : ∀ {p rs}, latest changes p = some rs → ∀ i ∈ rs, i.Typed := by
    intro p rs hlatest
    have hmem := List.mem_of_getLast? (latest_eq_some_iff.mp hlatest)
    exact htyped _ (List.mem_filter.mp hmem).1 rs rfl
  simp only [← latest_eq_some_iff]
  refine ⟨s.table.distinct, h.isSome, h.order, ?_, ?_, h.evict_eq_true_iff, h.generation⟩
  · intro p rs hlatest
    obtain ⟨stored, hget, hcontent⟩ :=
      (h.exists_stored_iff p (· = rs.map Import.content)).mpr ⟨rs, hlatest, rfl⟩
    exact ⟨stored, hget,
      Import.forall₂_of_content (h.typed p stored hget) (hgiven hlatest) hcontent⟩
  · intro p rs hrs
    exact h.upsert_eq_false_iff (fun _ => hgiven) hrs

/-- A record, and one that is equal to it though its package tracks other files. -/
def twins : Import × Import :=
  let package : Package :=
    { name := .str "app", root := "/r", extensions := ["js"], parser := .treeSitter
      options := .map [], version := .int 4, treeType := none }
  let origin : Origin := ⟨"b.js", package⟩
  let other : Origin := ⟨"b.js", { package with extensions := ["js", "ts"] }⟩
  (origin.record false (.literal (.str "x")), other.record false (.literal (.str "x")))

/-- Changes in which a file is given equal records and is forgotten and stored again. -/
def reordered : List Change :=
  [.upsert "b.js" [twins.1], .upsert "a.js" [], .upsert "b.js" [twins.2], .evict "b.js",
   .upsert "b.js" [twins.2], .upsert "b.js" [twins.1]]

theorem replay_recounts_history_reordered :
    (replay reordered).2.paths = (["a.js", "b.js"] : List Text) ∧
    (replay reordered).1 = [true, true, false, true, true, false] ∧
    (replay reordered).2.generation = (replay reordered).1.count true ∧
    ∃ stored, (replay reordered).2.get? "b.js" = some stored ∧
      List.Forall₂ (fun i j => (i == j) = true ∧ i.datum = j.datum) stored [twins.1] := by
  have htyped : ∀ c ∈ reordered, c.Typed := by
    simp [reordered, Change.Typed, Change.records?, Import.Typed, twins, Origin.record, Datum.str,
      Datum.Flat, Target.Plain]
  obtain ⟨-, -, -, hstored, -, -, hgeneration⟩ := replay_recounts_history htyped
  exact ⟨by decide, by decide, hgeneration, hstored "b.js" [twins.1] rfl⟩

end Store

end ImportScan
