/-!
# Equal numbers compare alike

Two doubles count as equal if they are the same number, or zeros of any sign. So equal numbers are
above the same bounds.

    eq_or_zero_of_compare      when two doubles count as equal
    lt_of_lt_of_beq            equal numbers are above the same bounds
-/

namespace Teller.Number

open Float.Model

theorem sign_eq_of_compare {s t : UnpackedFloat.Sign} (h : compare s t = .eq) : s = t := by
  cases s <;> cases t <;> first | rfl | cases h

theorem magnitude_eq_of_compare {m n : Nat} {d e : Int}
    (h : (compare d e).then (compare m n) = .eq) : d = e ∧ m = n := by
  rw [Ordering.then_eq_eq, Int.compare_eq_eq, Nat.compare_eq_eq] at h
  exact h

/-- When two doubles count as equal. -/
theorem eq_or_zero_of_compare {x y : UnpackedFloat} (h : y.compare x = some .eq) :
    y = x ∨ ∃ s t, y = .zero s ∧ x = .zero t := by
  cases y with
  | notANumber => cases h
  | infinity s =>
    cases x with
    | infinity t =>
      rw [sign_eq_of_compare (Option.some.inj h)]
      exact .inl rfl
    | notANumber | zero _ | finite _ _ _ _ => cases s <;> cases h
  | zero s =>
    cases x with
    | zero t => exact .inr ⟨s, t, rfl, rfl⟩
    | notANumber => cases h
    | infinity t | finite t _ _ _ => cases t <;> cases h
  | finite s m d pos =>
    cases x with
    | finite t n e pos' =>
      cases s with
      | negative =>
        cases t with
        | negative =>
          obtain ⟨rfl, rfl⟩ := magnitude_eq_of_compare (Ordering.swap_eq_eq.1 (Option.some.inj h))
          exact .inl rfl
        | positive => cases h
      | positive =>
        cases t with
        | negative => cases h
        | positive =>
          obtain ⟨rfl, rfl⟩ := magnitude_eq_of_compare (Option.some.inj h)
          exact .inl rfl
    | notANumber => cases s <;> cases h
    | infinity t => cases s <;> cases t <;> cases h
    | zero _ => cases s <;> cases h

theorem compare_zero (a : UnpackedFloat) (s t : UnpackedFloat.Sign) :
    a.compare (.zero s) = a.compare (.zero t) := by
  cases a with
  | notANumber => rfl
  | zero u => rfl
  | infinity u => cases u <;> rfl
  | finite u m e pos => cases u <;> rfl

theorem lt_iff_compare (a x : Float) :
    a < x ↔ a.toModel.unpack.compare x.toModel.unpack = some .lt := by
  show decide (a.toModel.lt x.toModel = true) = true ↔ _
  rw [decide_eq_true_iff]
  exact beq_iff_eq

theorem beq_iff_compare (y x : Float) :
    (y == x) = true ↔ y.toModel.unpack.compare x.toModel.unpack = some .eq := by
  show y.toModel.beq x.toModel = true ↔ _
  exact beq_iff_eq

theorem beq_symm {x y : Float} (h : (y == x) = true) : (x == y) = true := by
  rw [beq_iff_compare] at h ⊢
  rcases eq_or_zero_of_compare h with equal | ⟨s, t, hy, hx⟩
  · rw [equal] at h ⊢
    exact h
  · rw [hx, hy]
    rfl

/-- Equal numbers are above the same bounds. -/
theorem lt_of_lt_of_beq {a x y : Float} (h : a < x) (same : (y == x) = true) : a < y := by
  rw [lt_iff_compare] at h ⊢
  rcases eq_or_zero_of_compare ((beq_iff_compare y x).1 same) with equal | ⟨s, t, hy, hx⟩
  · rw [equal]
    exact h
  · rw [hx] at h
    rw [hy, compare_zero _ s t]
    exact h

/-- A positive number is not zero. -/
theorem beq_zero_of_pos {x : Float} (h : 0 < x) : (x == 0) = false := by
  apply eq_false_of_ne_true
  intro zero
  rw [lt_iff_compare] at h
  rcases eq_or_zero_of_compare ((beq_iff_compare x 0).1 zero) with equal | ⟨s, t, hx, hzero⟩
  · rw [equal] at h
    exact absurd h (by decide +kernel)
  · rw [hx, hzero] at h
    cases h

end Teller.Number
