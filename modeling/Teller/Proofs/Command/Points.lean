import Mathlib.Order.Nat
import Teller.Command.Building
import Teller.Proofs.Number.Bounds

/-!
# Points of a risk

A command has no more points than another one if its amount and its leverage are above no bound that
those of the other are not above, and then it is no riskier. Only bounds of one and more count for a
leverage, so there is no difference between a leverage of one, of less than one and none.

    amountPoints_le, leveragePoints_le    fewer points for less
    points_le                             what has fewer points
    rank_riskOf_le                        fewer points are no riskier
    lt_leverage_iff                       a leverage of zero is as good as none
-/

namespace Teller.Command

open Number

theorem amountPoints_le {x z : Float} (h : ∀ bound, 0 < bound → bound < z → bound < x) :
    amountPoints z ≤ amountPoints x := by
  unfold amountPoints
  by_cases very_large : 100000 < z
  · rw [if_pos very_large, if_pos (h _ (by decide +kernel) very_large)]
  · rw [if_neg very_large]
    by_cases large : 10000 < z
    · rw [if_pos large, if_pos (h _ (by decide +kernel) large)]
      split <;> decide
    · rw [if_neg large]
      exact Nat.zero_le _

theorem leveragePoints_le {x z : Float} (h : ∀ bound, 1 ≤ bound → bound < z → bound < x) :
    leveragePoints z ≤ leveragePoints x := by
  unfold leveragePoints
  by_cases very_high : 5 < z
  · rw [if_pos very_high, if_pos (h _ (by decide +kernel) very_high)]
  · rw [if_neg very_high]
    by_cases high : 2 < z
    · rw [if_pos high, if_pos (h _ (by decide +kernel) high)]
      split <;> decide
    · rw [if_neg high]
      by_cases levered : 1 < z
      · rw [if_pos levered, if_pos (h _ (by decide +kernel) levered)]
        split
        · decide
        · split <;> decide
      · rw [if_neg levered]
        exact Nat.zero_le _

theorem rank_ofPoints_le {m n : Nat} (h : m ≤ n) : (Risk.ofPoints m).rank ≤ (Risk.ofPoints n).rank := by
  unfold Risk.ofPoints
  by_cases high : 6 ≤ m
  · rw [if_pos high, if_pos (Nat.le_trans high h)]
  · rw [if_neg high]
    by_cases medium : 3 ≤ m
    · rw [if_pos medium, if_pos (Nat.le_trans medium h)]
      split <;> decide
    · rw [if_neg medium]
      exact Nat.zero_le _

variable {intent : Intent} {p p' : Parameters} {bound : Float}

/-- A smaller amount and a smaller leverage have no more points, with no more for the price impact.
-/
theorem points_le (protocol_eq : p'.primary.protocol = p.primary.protocol)
    (impact_le : impactPoints p'.estimates.priceImpact ≤ impactPoints p.estimates.priceImpact)
    (amount_le : ∀ bound, 0 < bound → bound < amountOf p' → bound < amountOf p)
    (leverage_le : ∀ bound, 1 ≤ bound → bound < (leverage? p').getD 1 → bound < (leverage? p).getD 1) :
    points intent p' ≤ points intent p := by
  have fewer_for_amount := amountPoints_le amount_le
  have fewer_for_leverage := leveragePoints_le leverage_le
  unfold points
  rw [protocol_eq]
  omega

/-- The risk grows with the points. -/
theorem rank_riskOf_le (protocol_eq : p'.primary.protocol = p.primary.protocol)
    (h : points intent p' ≤ points intent p) : (riskOf intent p').rank ≤ (riskOf intent p).rank := by
  unfold riskOf venue?
  rw [protocol_eq]
  split
  · exact Nat.le_refl _
  · exact rank_ofPoints_le h

/-- A leverage of zero is above no bound that no leverage is not above. -/
theorem lt_leverage_iff (h : 1 ≤ bound) :
    bound < (leverage? p).getD 1 ↔ bound < p.primary.leverage.getD 1 := by
  unfold leverage?
  cases p.primary.leverage with
  | none => rfl
  | some x =>
    by_cases zero : (x == 0) = true
    · have none_left : (some x).filter (· != 0) = none := by simp [Option.filter, bne, zero]
      rw [none_left]
      constructor
      · exact fun above => absurd above (not_lt_of_le h)
      · intro above
        have pos : 0 < x := lt_trans (lt_of_lt_of_le (by decide +kernel) h) above
        rw [beq_zero_of_pos pos] at zero
        cases zero
    · have kept : (some x).filter (· != 0) = some x := by simp [Option.filter, bne, zero]
      rw [kept]

end Teller.Command
