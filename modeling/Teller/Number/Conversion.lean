import Teller.Fault
import Teller.Number.Reading
import Teller.Number.Written

/-!
# Conversions that can fail

Between doubles, whole numbers and texts, with the fault that stands in the way.

    wholeOf_eq_error_iff      only infinities and NaN have no whole part
    realOf_eq_error_iff       only whole numbers beyond all doubles have no double
-/

namespace Teller.Number

/-- The part of a double before the point. -/
def wholeOf (x : Float) : Except Fault Int :=
  match Binary.ofFloat x with
  | .finite negative m e => .ok (signed negative ((Binary.size m e).num / (Binary.size m e).den))
  | .infinite _ => .error .infiniteWhole
  | .nan => .error .nanWhole

/-- The whole number nearest to a double, the even one of two; zero for infinities and NaN. -/
def nearest (x : Float) : Int :=
  match Binary.ofFloat x with
  | .finite negative m e => signed negative (Binary.size m e).round
  | _ => 0

/-- The double nearest to a whole number. -/
def realOf (n : Int) : Except Fault Float :=
  match ofInt? n with
  | some x => .ok x
  | none => .error .tooLarge

/-- The double that a text stands for. -/
def ofText (s : String) : Except Fault Float :=
  match read? s with
  | some x => .ok x
  | none => .error (.noNumber s)

/-! ## Lemmas -/

theorem wholeOf_eq_error_iff (x : Float) (f : Fault) :
    wholeOf x = .error f ↔
      (Binary.ofFloat x = .nan ∧ f = .nanWhole) ∨
        (∃ s, Binary.ofFloat x = .infinite s) ∧ f = .infiniteWhole := by
  unfold wholeOf
  split <;> rename_i h <;> simp [h, eq_comm]

theorem realOf_eq_ok (n : Int) (h : n.natAbs < wholeBound) : realOf n = .ok (Float.ofInt n) := by
  unfold realOf ofInt?
  rw [if_neg (Nat.not_le.2 h)]

theorem realOf_eq_error_iff {n : Int} {fault : Fault} :
    realOf n = .error fault ↔ fault = .tooLarge ∧ wholeBound ≤ n.natAbs := by
  unfold realOf ofInt?
  by_cases large : wholeBound ≤ n.natAbs
  · simp [large, eq_comm]
  · simp [large]

end Teller.Number
