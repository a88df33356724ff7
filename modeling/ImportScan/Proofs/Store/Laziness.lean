import ImportScan.Proofs.Store.Contents

/-! # Views are coherent and lazy

    A view keeps the list of all records of a store and the generation at which it computed
    it.  Some calls on the store leave the generation alone, so the list is good exactly when
    equal generations mean equal records, file after file.

    * `View.Coherent`     : that invariant.
    * `Observed.Due`      : whether the answers so far oblige the view to compute its list anew.
    * `get_exact_and_lazy` : along every sequence of calls, a view answers with the records of
      the store as it is, and computes them anew exactly when that is due.
-/

namespace ImportScan

/-! ## Coherence -/

namespace View

variable {v : View} {s s' : Store}

/-- The generation of the list is not ahead of the store, and at the store's own generation
    the list is that of the store's records. -/
def Coherent (v : View) (s : Store) : Prop :=
  ∀ g, v.computedAt = some g →
    g ≤ s.generation ∧ (g = s.generation → v.value = s.imports)

theorem coherent_new (s : Store) : Coherent {} s := by
  intro g h
  cases h

/-- Coherence outlives every call on the store, whatever the call answers. -/
theorem Coherent.moves {answer : Bool} (h : Coherent v s) (hm : Store.Moves answer s s') :
    Coherent v s' := by
  intro g hg
  obtain ⟨hle, hval⟩ := h g hg
  cases answer with
  | true =>
    -- the generation moved past that of the list
    have hgen : s'.generation = s.generation + 1 := hm
    exact ⟨by omega, fun he => absurd he (by omega)⟩
  | false =>
    obtain ⟨hgen, himp⟩ : s'.generation = s.generation ∧ s'.imports = s.imports := hm
    rw [hgen, himp]
    exact ⟨hle, hval⟩

theorem isStale_iff : v.isStale s = true ↔ v.computedAt ≠ some s.generation := by
  simp [isStale]

theorem refresh_of_stale (h : v.computedAt ≠ some s.generation) :
    v.refresh s = ⟨s.imports, some s.generation, v.recomputed + 1⟩ := by
  simp [refresh, isStale_iff.mpr h]

theorem refresh_of_current (h : v.computedAt = some s.generation) : v.refresh s = v := by
  simp [refresh, isStale, h]

/-- A refreshed view was computed at the generation of the store. -/
theorem computedAt_refresh (v : View) (s : Store) :
    (v.refresh s).computedAt = some s.generation := by
  by_cases h : v.computedAt = some s.generation
  · rw [refresh_of_current h, h]
  · rw [refresh_of_stale h]

theorem Coherent.get_eq (h : Coherent v s) : v.get s = s.imports := by
  unfold get
  by_cases hc : v.computedAt = some s.generation
  · rw [refresh_of_current hc]
    exact (h _ hc).2 rfl
  · rw [refresh_of_stale hc]

theorem Coherent.refresh (h : Coherent v s) : Coherent (v.refresh s) s := by
  intro g hg
  rw [computedAt_refresh] at hg
  cases hg
  exact ⟨Nat.le_refl _, fun _ => h.get_eq⟩

end View

/-! ## Sequences of calls -/

/-- A store and a view of it. -/
structure Observed where
  /-- The store. -/
  store : Store
  /-- The view, which is new at first. -/
  view : View := {}

namespace Observed

/-- A call on the store or on the view. -/
inductive Call where
  /-- Store the records of a file. -/
  | upsert (path : Text) (records : List Import)
  /-- Forget a file. -/
  | evict (path : Text)
  /-- Ask the view for all records. -/
  | get

/-- What a call answers. -/
inductive Answer where
  /-- Whether the store has changed. -/
  | changed (b : Bool)
  /-- All records. -/
  | records (rs : List Import)

/-- The answer of a call and what it leaves. -/
def call (o : Observed) : Call → Answer × Observed
  | .upsert path records =>
    (.changed (o.store.upsert path records).1, { o with store := (o.store.upsert path records).2 })
  | .evict path => (.changed (o.store.evict path).1, { o with store := (o.store.evict path).2 })
  | .get => (.records (o.view.get o.store), { o with view := o.view.refresh o.store })

/-- One more call in a sequence, of which the answers are kept. -/
def next (r : List Answer × Observed) (c : Call) : List Answer × Observed :=
  (r.1 ++ [(r.2.call c).1], (r.2.call c).2)

/-- The answers of a sequence of calls on a store with a new view, and what they leave. -/
def run (s : Store) (calls : List Call) : List Answer × Observed :=
  calls.foldl next ([], ⟨s, {}⟩)

/-- There was no answer of the view. -/
def NoGet (answers : List Answer) : Prop := ∀ rs, Answer.records rs ∉ answers

/-- The view has not answered yet, or the store has changed since it last did. -/
def Due (answers : List Answer) : Prop :=
  NoGet answers ∨ ∃ before after, answers = before ++ .changed true :: after ∧ NoGet after

theorem due_nil : Due [] := .inl fun _ h => absurd h (by simp)

theorem not_due_snoc_records (answers : List Answer) (rs : List Import) :
    ¬ Due (answers ++ [.records rs]) := by
  rintro (h | ⟨before, after, heq, hno⟩)
  · exact h rs (by simp)
  · -- the answer of the view is the last one, so it comes after every change
    obtain rfl | ⟨after', last, rfl⟩ := List.eq_nil_or_concat after
    · have hlast := congrArg List.getLast? heq
      simp at hlast
    · rw [List.concat_eq_append, ← List.cons_append, ← List.append_assoc] at heq
      have hlast := (List.append_inj' heq rfl).2
      cases hlast
      exact hno rs (by simp)

theorem due_snoc_changed (answers : List Answer) (b : Bool) :
    Due (answers ++ [.changed b]) ↔ b = true ∨ Due answers := by
  constructor
  · rintro (h | ⟨before, after, heq, hno⟩)
    · exact .inr (.inl fun rs hrs => h rs (List.mem_append_left _ hrs))
    · -- the change that makes a computation due is the last answer, or one before it
      obtain rfl | ⟨after', last, rfl⟩ := List.eq_nil_or_concat after
      · have hlast := congrArg List.getLast? heq
        simp only [List.getLast?_append, List.getLast?_singleton] at hlast
        cases hlast
        exact .inl rfl
      · rw [List.concat_eq_append, ← List.cons_append, ← List.append_assoc] at heq
        refine .inr (.inr ⟨before, after', (List.append_inj' heq rfl).1, ?_⟩)
        intro rs hrs
        exact hno rs (by simp [hrs])
  · rintro (rfl | h | ⟨before, after, rfl, hno⟩)
    · exact .inr ⟨answers, [], rfl, fun _ hrs => absurd hrs (by simp)⟩
    · refine .inl fun rs hrs => ?_
      rcases List.mem_append.mp hrs with hrs | hrs
      · exact h rs hrs
      · cases List.mem_singleton.mp hrs
    · refine .inr ⟨before, after ++ [.changed b], by simp, fun rs hrs => ?_⟩
      rcases List.mem_append.mp hrs with hrs | hrs
      · exact hno rs hrs
      · cases List.mem_singleton.mp hrs

/-! ## The invariant of a sequence -/

/-- The view is coherent, and it is current exactly when no computation is due. -/
structure Tracked (r : List Answer × Observed) : Prop where
  coherent : r.2.view.Coherent r.2.store
  current_iff : r.2.view.computedAt = some r.2.store.generation ↔ ¬ Due r.1

/-- A call on the store keeps the invariant, whether it advances the generation or not. -/
theorem Tracked.changed {r : List Answer × Observed} {b : Bool} {s' : Store} (h : Tracked r)
    (hm : Store.Moves b r.2.store s') :
    Tracked (r.1 ++ [.changed b], { r.2 with store := s' }) := by
  refine ⟨h.coherent.moves hm, ?_⟩
  show r.2.view.computedAt = some s'.generation ↔ ¬ Due (r.1 ++ [.changed b])
  rw [due_snoc_changed]
  cases b with
  | true =>
    -- the list cannot be of a generation that the store reaches only now
    have hgen : s'.generation = r.2.store.generation + 1 := hm
    have hne : r.2.view.computedAt ≠ some s'.generation := by
      intro hg
      have := (h.coherent _ hg).1
      omega
    simp [hne]
  | false =>
    have hgen : s'.generation = r.2.store.generation := hm.1
    rw [hgen, h.current_iff]
    simp

theorem Tracked.get {r : List Answer × Observed} (h : Tracked r) : Tracked (next r .get) := by
  refine ⟨h.coherent.refresh, ?_⟩
  show (r.2.view.refresh r.2.store).computedAt = some r.2.store.generation ↔
    ¬ Due (r.1 ++ [.records (r.2.view.get r.2.store)])
  exact iff_of_true (View.computedAt_refresh _ _) (not_due_snoc_records _ _)

theorem tracked_next {r : List Answer × Observed} (h : Tracked r) (c : Call) :
    Tracked (next r c) := by
  cases c with
  | upsert path records => exact h.changed (Store.upsert_moves _ path records)
  | evict path => exact h.changed (Store.evict_moves _ path)
  | get => exact h.get

theorem tracked_foldl {r : List Answer × Observed} (h : Tracked r) (calls : List Call) :
    Tracked (calls.foldl next r) := by
  induction calls generalizing r with
  | nil => exact h
  | cons c rest ih => exact ih (tracked_next h c)

theorem tracked_run (s : Store) (calls : List Call) : Tracked (run s calls) := by
  apply tracked_foldl
  exact ⟨View.coherent_new s, by simp [due_nil]⟩

/-- After every sequence of calls, the view answers with the records of the entries of the
    store, one entry after the other.  If a computation is due, it computes the list anew;
    if not, it answers with the list it has and stays as it is. -/
theorem get_exact_and_lazy (s : Store) (calls : List Call) :
    let answers := (run s calls).1
    let o := (run s calls).2
    (o.call .get).1 = .records (o.store.entries.flatMap (·.2)) ∧
    (Due answers → (o.call .get).2.view.recomputed = o.view.recomputed + 1) ∧
    (¬ Due answers → (o.call .get).1 = .records o.view.value ∧ (o.call .get).2.view = o.view) := by
  intro answers o
  have h : Tracked (answers, o) := tracked_run s calls
  refine ⟨congrArg Answer.records h.coherent.get_eq, ?_, ?_⟩
  · intro hdue
    have hstale : o.view.computedAt ≠ some o.store.generation :=
      fun hc => h.current_iff.mp hc hdue
    show (o.view.refresh o.store).recomputed = o.view.recomputed + 1
    rw [View.refresh_of_stale hstale]
  · intro hdue
    have hcur : o.view.refresh o.store = o.view :=
      View.refresh_of_current (h.current_iff.mpr hdue)
    refine ⟨?_, hcur⟩
    show Answer.records (o.view.refresh o.store).value = .records o.view.value
    rw [hcur]

end Observed

end ImportScan
