import Mathlib.Logic.Basic

namespace LiskMigrator.Outcome
variable {α β ε σ : Type}

theorem bind_ok {x : Except ε α} {f : α → Except ε β} :
    (x >>= f) = .ok b ↔ ∃ a, x = .ok a ∧ f a = .ok b := by
  cases x <;> simp [bind,Except.bind]

-- A step of a process that may throw. What it wrote to the process before it
-- threw stays written: EStateM keeps the state of the failure.
abbrev Step (ε σ α : Type) := EStateM ε σ α

def attempt (x : Except ε α) : Step ε σ α := fun s =>
  match x with
  | .ok a => .ok a s
  | .error e => .error e s

def outcome : EStateM.Result ε σ α → Except ε α
  | .ok a _ => .ok a
  | .error e _ => .error e

def left : EStateM.Result ε σ α → σ
  | .ok _ s => s
  | .error _ s => s

def succeeds : EStateM.Result ε σ α → Bool
  | .ok _ _ => true
  | .error _ _ => false

theorem succeeds_ok {x : EStateM.Result ε σ Unit} (ok : succeeds x = true) : x = .ok () (left x) := by
  cases x with
  | ok _ s => rfl
  | error e s => cases ok

def raised : EStateM.Result ε σ α → Option ε
  | .ok _ _ => none
  | .error e _ => some e

theorem raised_error {x : EStateM.Result ε σ α} (fails : raised x = some e) : x = .error e (left x) := by
  cases x with
  | ok _ _ => cases fails
  | error _ _ =>
    cases fails
    rfl

theorem step_bind (x : Step ε σ α) (f : α → Step ε σ β) (s : σ) :
    (x >>= f) s = match x s with
      | .ok a middle => f a middle
      | .error e middle => .error e middle := by
  simp only [bind,EStateM.bind]
  cases x s <;> rfl

theorem step_next {x : Step ε σ α} (f : α → Step ε σ β) {s middle : σ} (ran : x s = .ok a middle) :
    (x >>= f) s = f a middle := by
  rw [step_bind,ran]

theorem step_fails {x : Step ε σ α} (f : α → Step ε σ β) {s middle : σ} (ran : x s = .error e middle) :
    (x >>= f) s = .error e middle := by
  rw [step_bind,ran]

-- What follows a step has to agree on what the step can give, and no more.
theorem bind_agrees {x : Step ε σ α} {f g : α → Step ε σ β} {s : σ} (agree : ∀ a t, x s = .ok a t → f a t = g a t) :
    (x >>= f) s = (x >>= g) s := by
  rw [step_bind,step_bind]
  cases ran : x s with
  | ok a t => exact agree a t ran
  | error e t => rfl

theorem step_ok {x : Step ε σ α} {f : α → Step ε σ β} {s t : σ} :
    (x >>= f) s = .ok b t ↔ ∃ a middle, x s = .ok a middle ∧ f a middle = .ok b t := by
  rw [step_bind]
  constructor
  · intro ran
    cases first : x s with
    | ok a middle =>
      rw [first] at ran
      exact ⟨a,middle,rfl,ran⟩
    | error e middle =>
      rw [first] at ran
      cases ran
  · intro given
    obtain ⟨a,middle,first,next⟩ := given
    rw [first]
    exact next

-- What runs through with one step runs through with another that does the same.
theorem forM_runs {γ : Type} {f g : γ → Step ε σ PUnit} {xs : List γ} {s t : σ}
    (same : ∀ x s t, f x s = .ok ⟨⟩ t → g x s = .ok ⟨⟩ t) (ran : xs.forM f s = .ok ⟨⟩ t) : xs.forM g s = .ok ⟨⟩ t := by
  induction xs generalizing s with
  | nil => exact ran
  | cons x xs ih =>
    obtain ⟨_,middle,first,rest⟩ := step_ok.mp ran
    exact step_ok.mpr ⟨⟨⟩,middle,same x s middle first,ih rest⟩

theorem step_get (s : σ) : (get : Step ε σ σ) s = .ok s s := rfl

theorem step_set (next s : σ) : (set next : Step ε σ PUnit) s = .ok ⟨⟩ next := rfl

theorem step_modify (f : σ → σ) (s : σ) : (modify f : Step ε σ PUnit) s = .ok ⟨⟩ (f s) := rfl

theorem attempt_runs {x : Except ε α} (ran : x = .ok a) (s : σ) : attempt x s = .ok a s := by
  rw [ran]; rfl

theorem attempt_fails {x : Except ε α} (ran : x = .error e) (s : σ) : attempt x s = .error e s := by
  rw [ran]; rfl

end LiskMigrator.Outcome
