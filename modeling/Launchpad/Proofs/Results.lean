import Mathlib.Logic.Basic

/-!
What an answer says about the parts it was made from: a chain of steps that may fail answers when
each step does.
-/

namespace Launchpad.Results

variable {ε α β : Type}

theorem map_eq_ok {f : α → β} {r : Except ε α} {b : β} :
    r.map f = .ok b ↔ ∃ a, r = .ok a ∧ f a = b := by
  cases r <;> simp [Except.map]

theorem map_eq_error {f : α → β} {r : Except ε α} {e : ε} :
    r.map f = .error e ↔ r = .error e := by
  cases r <;> simp [Except.map]

theorem mapError_eq_ok {ε' : Type} {f : ε → ε'} {r : Except ε α} {a : α} :
    r.mapError f = .ok a ↔ r = .ok a := by
  cases r with
  | ok b =>
    change (Except.ok b : Except ε' α) = .ok a ↔ Except.ok b = .ok a
    simp
  | error e =>
    change (Except.error (f e) : Except ε' α) = .ok a ↔ Except.error e = .ok a
    simp

theorem mapError_eq_error {ε' : Type} {f : ε → ε'} {r : Except ε α} {e : ε'} :
    r.mapError f = .error e ↔ ∃ cause, r = .error cause ∧ f cause = e := by
  cases r with
  | ok b =>
    change (Except.ok b : Except ε' α) = .error e ↔ _
    simp
  | error cause =>
    change (Except.error (f cause) : Except ε' α) = .error e ↔ _
    simp

@[simp]
theorem mapError_id (r : Except ε α) : r.mapError id = r := by
  cases r <;> rfl

theorem bind_eq_ok {f : α → Except ε β} {r : Except ε α} {b : β} :
    (r >>= f) = .ok b ↔ ∃ a, r = .ok a ∧ f a = .ok b := by
  cases r <;> simp [bind, Except.bind]

/-- A list whose members are all answered is answered. -/
theorem mapM_eq_ok {f : α → Except ε β} {g : α → β} {xs : List α}
    (h : ∀ x ∈ xs, f x = .ok (g x)) : xs.mapM f = .ok (xs.map g) := by
  induction xs with
  | nil => rfl
  | cons x xs ih =>
    have hfirst := h x List.mem_cons_self
    have hrest := ih fun y hy => h y (List.mem_cons_of_mem x hy)
    rw [List.mapM_cons, hfirst, hrest]
    rfl

end Launchpad.Results
