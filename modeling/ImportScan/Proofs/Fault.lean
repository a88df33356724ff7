import Mathlib.Data.List.Forall2
import ImportScan.Fault

/-! # Computations that may fail

    A sequence of steps that succeeds is taken apart into steps that succeed, and one that
    fails does so for the reason of one of its steps.
-/

namespace ImportScan

variable {α β γ : Type}

theorem bind_eq_ok {x : Except Fault α} {next : α → Except Fault β} {y : β} :
    x >>= next = .ok y ↔ ∃ v, x = .ok v ∧ next v = .ok y := by
  constructor
  · intro h
    match x, h with
    | .ok v, h => exact ⟨v, rfl, h⟩
  · rintro ⟨v, rfl, h⟩
    exact h

theorem pure_eq_ok {v w : α} : pure v = (.ok w : Except Fault α) ↔ v = w :=
  ⟨fun h => Except.ok.inj h, fun h => h ▸ rfl⟩

theorem bind_eq_error {x : Except Fault α} {next : α → Except Fault β} {f : Fault} :
    x >>= next = .error f ↔ x = .error f ∨ ∃ v, x = .ok v ∧ next v = .error f := by
  constructor
  · intro h
    match x, h with
    | .error g, h => exact .inl (congrArg Except.error (Except.error.inj h))
    | .ok v, h => exact .inr ⟨v, rfl, h⟩
  · rintro (rfl | ⟨v, rfl, h⟩)
    · rfl
    · exact h

theorem pure_ne_error {v : α} {f : Fault} : ¬ pure v = (.error f : Except Fault α) := nofun

theorem map_eq_ok {x : Except Fault α} {f : α → β} {y : β} :
    x.map f = .ok y ↔ ∃ v, x = .ok v ∧ f v = y := by
  cases x <;> simp [Except.map]

theorem eq_ok_of_toOption {x : Except Fault α} {v : α} (h : x.toOption = some v) : x = .ok v := by
  cases x with
  | ok w => exact congrArg Except.ok (Option.some.inj h)
  | error e => cases h

theorem mapM_cons_ok {f : α → Except Fault β} {x : α} {xs : List α} {y : β} {ys : List β}
    (hx : f x = .ok y) (hxs : xs.mapM f = .ok ys) : (x :: xs).mapM f = .ok (y :: ys) := by
  rw [List.mapM_cons, hx, hxs]
  rfl

/-- Two lists that give the same item by item give the same. -/
theorem mapM_eq_mapM {f : α → Except Fault γ} {g : β → Except Fault γ} {xs : List α} {ys : List β}
    (h : List.Forall₂ (fun x y => f x = g y) xs ys) : xs.mapM f = ys.mapM g := by
  induction h with
  | nil => rfl
  | cons hfirst _ ih => rw [List.mapM_cons, List.mapM_cons, hfirst, ih]

/-! ## Reasons -/

/-- A computation that fails does so for one of certain reasons. -/
def FailsOnly (reasons : Fault → Prop) (x : Except Fault α) : Prop := ∀ f, x = .error f → reasons f

namespace FailsOnly

variable {reasons : Fault → Prop}

theorem ok (v : α) : FailsOnly reasons (.ok v) := nofun

theorem error {f : Fault} (h : reasons f) : FailsOnly reasons (.error f : Except Fault α) := by
  rintro _ ⟨⟩
  exact h

theorem bind {x : Except Fault α} {next : α → Except Fault β} (hx : FailsOnly reasons x)
    (hnext : ∀ v, x = .ok v → FailsOnly reasons (next v)) : FailsOnly reasons (x >>= next) := by
  cases x with
  | ok v => exact hnext v rfl
  | error f => exact error (hx f rfl)

theorem map {x : Except Fault α} (hx : FailsOnly reasons x) (f : α → β) :
    FailsOnly reasons (x.map f) := by
  cases x with
  | ok v => exact ok (f v)
  | error f => exact error (hx f rfl)

theorem mapM {f : α → Except Fault β} {xs : List α} (h : ∀ x ∈ xs, FailsOnly reasons (f x)) :
    FailsOnly reasons (xs.mapM f) := by
  induction xs with
  | nil => exact ok []
  | cons x xs ih =>
    obtain ⟨hx, hxs⟩ := List.forall_mem_cons.mp h
    rw [List.mapM_cons]
    exact hx.bind fun _ _ => (ih hxs).bind fun _ _ => ok _

end FailsOnly

end ImportScan
