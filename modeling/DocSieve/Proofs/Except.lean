-- SUMMARY: How results and errors pass through the steps of a computation that can fail.
import Mathlib.Control.Monad.Basic

/-!
# Computations that can fail

The equations that open a step of such a computation, and what its success
says about the steps before it.
-/

namespace Except

variable {ε ε' α β : Type}

@[simp] theorem bind_ok (f : α → Except ε β) (a : α) : (Except.ok a >>= f) = f a := rfl

@[simp] theorem bind_error (f : α → Except ε β) (e : ε) : (Except.error e >>= f) = .error e := rfl

@[simp] theorem pure_eq_ok (a : α) : (pure a : Except ε α) = .ok a := rfl

@[simp] theorem throw_eq_error (e : ε) : (throw e : Except ε α) = .error e := rfl

@[simp] theorem mapError_ok (f : ε → ε') (a : α) :
    (Except.ok a : Except ε α).mapError f = .ok a := rfl

@[simp] theorem mapError_error (f : ε → ε') (e : ε) :
    (Except.error e : Except ε α).mapError f = .error (f e) := rfl

theorem map_eq_ok_iff {f : α → β} {x : Except ε α} {b : β} :
    f <$> x = .ok b ↔ ∃ a, x = .ok a ∧ f a = b := by
  cases x <;> simp

theorem exists_map_eq_ok_iff {f : α → β} {x : Except ε α} :
    (∃ b, f <$> x = .ok b) ↔ ∃ a, x = .ok a := by
  cases x <;> simp

theorem bind_eq_ok_iff {x : Except ε α} {f : α → Except ε β} {b : β} :
    (x >>= f) = .ok b ↔ ∃ a, x = .ok a ∧ f a = .ok b := by
  cases x <;> simp

theorem mapError_eq_ok_iff {f : ε → ε'} {x : Except ε α} {a : α} :
    x.mapError f = .ok a ↔ x = .ok a := by
  cases x <;> simp

theorem toOption_eq_some_iff {x : Except ε α} {a : α} : x.toOption = some a ↔ x = .ok a := by
  cases x <;> simp [Except.toOption]

/-- The error, if there is one. -/
def error? : Except ε α → Option ε
  | ok _ => none
  | error e => some e

@[simp] theorem error?_ok (a : α) : (Except.ok a : Except ε α).error? = none := rfl

@[simp] theorem error?_error (e : ε) : (Except.error e : Except ε α).error? = some e := rfl

@[simp] theorem toOption_mapError (f : ε → ε') (x : Except ε α) :
    (x.mapError f).toOption = x.toOption := by
  cases x <;> rfl

end Except
