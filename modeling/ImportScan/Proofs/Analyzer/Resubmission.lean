import ImportScan.Proofs.Analyzer.ByPath

/-! # Patches submitted again

    A patch that has been applied and asks of no file that it be there and be gone leaves a
    store in which each of its operations finds nothing to do.

    * `Idle`              : an operation would change nothing.
    * `outcomes_idle`     : a patch of such operations changes nothing.
    * `idle_of_decided`   : the operations of a patch that was applied.
    * `runNamed_again`    : the same patch, submitted again, is free.
-/

namespace ImportScan

/-! ## Calls that change nothing -/

namespace Store

variable {store : Store} {p : Text}

theorem upsert_of_beq {old records : List Import} (hold : store.get? p = some old)
    (heq : (old == records) = true) : (store.upsert p records).2 = store := by
  simp [upsert, hold, heq]

theorem evict_of_none (h : store.get? p = none) : (store.evict p).2 = store := by
  simp [evict, h]

end Store

/-! ## The last operation on a file -/

namespace Patch

variable {patch : Patch} {op last : Operation} {p : Text}

theorem mem_on : op ∈ on patch p ↔ (op, p) ∈ patch := by
  simp [on]

/-- The last operation about a file is one of the patch. -/
theorem mem_of_lastOn (h : patch.lastOn p = some op) :
    (op, p) ∈ patch ∧ op.isFile = true := by
  have hmem := List.mem_of_getLast? h
  rw [List.mem_filter, mem_on] at hmem
  exact hmem

/-- Where a patch has an operation about a file, it has a last one. -/
theorem exists_lastOn (h : (op, p) ∈ patch) (hfile : op.isFile = true) :
    ∃ last, patch.lastOn p = some last := by
  have hmem : op ∈ (on patch p).filter Operation.isFile :=
    List.mem_filter.mpr ⟨mem_on.mpr h, hfile⟩
  exact Option.ne_none_iff_exists'.mp fun hnone =>
    List.ne_nil_of_mem hmem (List.getLast?_eq_none_iff.mp hnone)

/-- A patch asks of a file that it be there and be gone. -/
def TurnsBack (patch : Patch) (p : Text) : Prop :=
  (.unlink, p) ∈ patch ∧ ((.change, p) ∈ patch ∨ (.create, p) ∈ patch)

/-- Unless a patch turns back, the last operation about a file unlinks it if any other does. -/
theorem lastOn_eq_unlink_iff (hback : ¬ TurnsBack patch p) (h : (op, p) ∈ patch)
    (hfile : op.isFile = true) (hlast : patch.lastOn p = some last) :
    last = .unlink ↔ op = .unlink := by
  obtain ⟨hmem, hlastfile⟩ := mem_of_lastOn hlast
  have hother : ∀ {op : Operation}, (op, p) ∈ patch → op.isFile = true → op ≠ .unlink →
      (.change, p) ∈ patch ∨ (.create, p) ∈ patch := by
    intro op hop hfile hne
    cases op with
    | unlink => exact absurd rfl hne
    | rmdir => cases hfile
    | mkdir => cases hfile
    | change => exact .inl hop
    | create => exact .inr hop
  constructor
  · rintro rfl
    by_contra hne
    exact hback ⟨hmem, hother h hfile hne⟩
  · rintro rfl
    by_contra hne
    exact hback ⟨h, hother hmem hlastfile hne⟩

end Patch

namespace Act

open Session

/-! ## Operations that change nothing -/

section Idle

variable {a : Analyzer} {sources : Sources} {patch : Patch} {store store' : Store} {d : Disk}

/-- An operation would change nothing: the file is gone, or has records equal to those of its
    source. -/
def Idle (records : Except Fault (List Import)) (entry : Option (List Import)) :
    Operation → Prop
  | .unlink => entry = none
  | .rmdir => True
  | .mkdir => True
  | .change => ∃ rs stored, records = .ok rs ∧ entry = some stored ∧ (stored == rs) = true
  | .create => ∃ rs stored, records = .ok rs ∧ entry = some stored ∧ (stored == rs) = true

theorem absorb_idle {tracked : Bool} {records : Except Fault (List Import)} {op : Operation}
    {p : Text} (h : tracked = true → Idle records (store.get? p) op) :
    absorb tracked records op p store = .ok store := by
  cases tracked with
  | false => cases op <;> rfl
  | true =>
    have hlearn : (∃ rs stored, records = .ok rs ∧ store.get? p = some stored ∧
        (stored == rs) = true) → learn true records p store = .ok store := by
      rintro ⟨rs, stored, rfl, hget, heq⟩
      exact congrArg Except.ok (Store.upsert_of_beq hget heq)
    have hidle := h rfl
    cases op with
    | unlink => exact congrArg Except.ok (Store.evict_of_none hidle)
    | rmdir => rfl
    | mkdir => rfl
    | change => exact hlearn hidle
    | create => exact hlearn hidle

/-- A patch of operations that change nothing succeeds and changes nothing. -/
theorem outcomes_idle [Parsers] (h : ∀ o ∈ patch, a.package.tracks o.2 = true →
      Idle (recordsAt a sources d o.2) (store.get? o.2) o.1) :
    outcomes a sources none patch store d = (.ok (), store, d) := by
  induction patch with
  | nil => rfl
  | cons o rest ih =>
    obtain ⟨op, p⟩ := o
    obtain ⟨hfirst, hrest⟩ := List.forall_mem_cons.mp h
    unfold outcomes
    rw [outcome_none, absorb_idle hfirst]
    exact ih hrest

/-- After a patch that does not turn back, its operations would change nothing. -/
theorem idle_of_decided [Parsers] (h : Decided a sources d patch store store')
    (hback : ∀ p, a.package.tracks p = true → ¬ patch.TurnsBack p) :
    ∀ o ∈ patch, a.package.tracks o.2 = true →
      Idle (recordsAt a sources d o.2) (store'.get? o.2) o.1 := by
  intro ⟨op, p⟩ ho htracks
  -- the last operation about the file decides, and it unlinks the file if this one does
  have hlast : op.isFile = true →
      ∃ last, patch.lastOn p = some last ∧ (last = .unlink ↔ op = .unlink) := by
    intro hfile
    obtain ⟨last, hlast⟩ := Patch.exists_lastOn ho hfile
    exact ⟨last, hlast, Patch.lastOn_eq_unlink_iff (hback p htracks) ho hfile hlast⟩
  have hrenewed : op.isFile = true → op ≠ .unlink → ∃ records stored,
      recordsAt a sources d p = .ok records ∧ store'.get? p = some stored ∧
        (stored == records) = true := by
    intro hfile hne
    obtain ⟨last, hlast, hiff⟩ := hlast hfile
    exact h.renewed p last htracks hlast fun hunlink => hne (hiff.mp hunlink)
  cases op with
  | unlink =>
    obtain ⟨last, hlast, hiff⟩ := hlast rfl
    rw [hiff.mpr rfl] at hlast
    exact h.forgotten p htracks hlast
  | rmdir => trivial
  | mkdir => trivial
  | change => exact hrenewed rfl (by simp)
  | create => exact hrenewed rfl (by simp)

end Idle

/-! ## The same patch again -/

variable {s s' : Session} {sources : Sources} {patch : Patch} {stats : Stats}

/-- A patch that leaves the store alone leaves a view alone that was current. -/
theorem runBuild_again [Parsers] (hfixed : sources.Fixed)
    (hback : ∀ p, s.analyzer.package.tracks p = true → ¬ patch.TurnsBack p)
    (h : exec (runBuild sources none patch) s = (.ok stats, s')) :
    ∃ s'', exec (runBuild sources none patch) s' = (.ok stats, s'') ∧
      s''.analyzer.store = s'.analyzer.store ∧ s''.analyzer.view = s'.analyzer.view := by
  have hfirst := outcomes_of_runBuild_ok hfixed h
  have hframe := frame_runBuild sources none patch s
  rw [h] at hframe
  have hdisk : s'.disk = s.disk := by
    rw [← outcomes_none s.analyzer sources patch s.analyzer.store s.disk, hfirst]
  -- the second time no operation has anything to do
  have hidle := outcomes_idle (idle_of_decided (decided_of_outcomes hfirst) hback)
  obtain ⟨⟨b, hparser⟩, -⟩ := of_runBuild_ok h
  have hattempt : attempt s'.analyzer sources none patch s'.analyzer.store s'.disk =
      (.ok (), s'.analyzer.store, s.disk) := by
    rw [attempt_congr hframe.toAlike, hdisk, ← hidle, attempt, hparser]
  obtain ⟨⟨r, store, d⟩, hdoes, hresult, hleft⟩ := does_runBuild hfixed none patch s'
  rw [hattempt] at hresult hleft
  cases hleft
  cases r with
  | error e => cases hresult
  | ok stats' =>
    obtain ⟨s'', hexec, -, hstore, -⟩ := hdoes.exists_exec
    -- the first time the view was refreshed last, and the store has not changed since
    have hview : s''.analyzer.view = s'.analyzer.view := by
      rw [view_runBuild hexec, hstore]
      apply View.refresh_of_current
      rw [view_runBuild h]
      exact View.computedAt_refresh _ _
    have hstats : stats' = stats := by
      rw [stats_runBuild hfixed hexec, stats_runBuild hfixed h, hframe.package,
        rejectsAt_congr hframe.toAlike, hdisk, hview]
    exact ⟨s'', hstats ▸ hexec, hstore, hview⟩

/-- A patch without an output tree that succeeds, with sources that depend on the path alone,
    and that does not both unlink a tracked file and create or change it, succeeds again when
    it is submitted again, and tells the same.  The store is then as it was, with its order
    and its generation, and so is the view, with its list and how often that was computed. -/
theorem runNamed_again [Parsers] {ops : List (Text × Text)} (hfixed : sources.Fixed)
    (hback : ∀ p, s.analyzer.package.tracks p = true →
      ¬ ((Operation.unlink.name, p) ∈ ops ∧
        ((Operation.change.name, p) ∈ ops ∨ (Operation.create.name, p) ∈ ops)))
    (hrun : exec (runNamed sources none ops) s = (.ok stats, s')) :
    ∃ s'', exec (runNamed sources none ops) s' = (.ok stats, s'') ∧
      s''.analyzer.store = s'.analyzer.store ∧ s''.analyzer.view = s'.analyzer.view := by
  obtain ⟨patch, rfl, hpatch⟩ := of_runNamed_ok hrun
  have hspelled : ∀ {op : Operation} {p}, (op, p) ∈ patch → (op.name, p) ∈ Patch.spelled patch :=
    fun h => List.mem_map_of_mem h
  rw [exec_runNamed_spelled]
  exact runBuild_again hfixed (fun p htracks h => hback p htracks
    ⟨hspelled h.1, h.2.imp hspelled hspelled⟩) hpatch

theorem runNamed_again_shuffled :
    let s := (exec (runNamed shuffled.1 none shuffled.2.1) refiled).2
    ∃ s', exec (runNamed shuffled.1 none shuffled.2.1) s = (.ok ⟨6, 3, 2, 2⟩, s') ∧
      s'.analyzer.store = s.analyzer.store ∧ s'.analyzer.view = s.analyzer.view := by
  intro s
  have hrun : exec (runNamed shuffled.1 none shuffled.2.1) refiled = (.ok ⟨6, 3, 2, 2⟩, s) :=
    Prod.ext (eq_ok_of_toOption (by decide +kernel)) rfl
  -- one file is unlinked, and it is neither created nor changed
  have hgone : ∀ o ∈ shuffled.2.1, o.1 = Operation.unlink.name → o.2 = "c.js" := by
    decide +kernel
  have hother : ∀ o ∈ shuffled.2.1, o.2 = "c.js" →
      o.1 ≠ Operation.change.name ∧ o.1 ≠ Operation.create.name := by decide +kernel
  refine runNamed_again (Sources.fixed_asked _) ?_ hrun
  rintro p - ⟨hunlink, hnew⟩
  have hp : p = "c.js" := hgone _ hunlink rfl
  rcases hnew with hchange | hcreate
  · exact (hother _ hchange hp).1 rfl
  · exact (hother _ hcreate hp).2 rfl

end Act

end ImportScan
