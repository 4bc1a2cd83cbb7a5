/-!
# Success of steps

What follows from the success of a sequence of steps that may fail.

    ok_bind                 after a success the next step is taken
    bind_eq_ok              both steps of a sequence have succeeded
    mapError_eq_ok_iff      rewording an error leaves every success
    exists_eq_ok_of_any     a success that passes a check
    exists_eq_error_of_any  an error that passes a check
-/

namespace Teller

variable {ε ε' α β : Type}

theorem ok_bind (a : α) (f : α → Except ε β) : (Except.ok a >>= f) = f a := rfl

theorem bind_eq_ok {x : Except ε α} {f : α → Except ε β} {b : β} (h : x >>= f = .ok b) :
    ∃ a, x = .ok a ∧ f a = .ok b := by
  cases x with
  | error e => cases h
  | ok a => exact ⟨a, rfl, h⟩

theorem mapError_eq_ok_iff (reword : ε → ε') (answer : Except ε α) (a : α) :
    answer.mapError reword = .ok a ↔ answer = .ok a := by
  cases answer with
  | error e => exact ⟨nofun, nofun⟩
  | ok b =>
    constructor
    · intro h
      cases h
      rfl
    · intro h
      cases h
      rfl

theorem exists_eq_ok_of_any {x : Except ε α} {p : α → Bool} (h : x.toOption.any p = true) :
    ∃ a, x = .ok a ∧ p a = true := by
  cases x with
  | error e => cases h
  | ok a => exact ⟨a, rfl, h⟩

/-- The error, if a step has failed. -/
def error? : Except ε α → Option ε
  | .error e => some e
  | .ok _ => none

theorem exists_eq_error_of_any {x : Except ε α} {p : ε → Bool} (h : (error? x).any p = true) :
    ∃ e, x = .error e ∧ p e = true := by
  cases x with
  | error e => exact ⟨e, rfl, h⟩
  | ok a => cases h

end Teller
