import Teller.Proofs.Amount.RoundTrip

/-!
# The text of an amount

In the default range an amount is shown as digits to twelve places without the zeros at their end.
The amount that is read from this text may be another one, but it is shown as the same text: of all
doubles it is the nearest to the twelve places, so it is no farther from them than the first amount
was, and it is rounded to them again.

    exists_denotes_of_permits    an amount in the default range stands for a number
    isRounded_of_rounds          twelve places of the amount that is read from twelve places
    exists_read_plain            the text of an amount, and the amount that is read from it
    normalized_is_stable         every amount that is read has such a text
-/

namespace Teller

namespace Amount

open Number

variable {x : Float} {v : Rat}

/-- An amount in the default range stands for a number between the bounds. -/
theorem exists_denotes_of_permits (h : Config.Permits {} x) :
    ∃ v, Denotes x v ∧ leastAmount ≤ v ∧ v ≤ 10 ^ 12 := by
  obtain ⟨v, -, denotes⟩ := exists_denotes h.positive (isFinite_of_permits h)
  exact ⟨v, denotes, (permits_iff denotes).1 h⟩

/-- The double for twelve places of a number that is a double itself is rounded to the same twelve
places. -/
theorem isRounded_of_rounds {q : Nat} {u : Rat} (h : Denotes x v) (near : IsRounded v 12 q)
    (rounds : Rounds (q / 10 ^ 12) u) : IsRounded u 12 q := by
  have scale : (0 : Rat) < 10 ^ 12 := by positivity
  have scaled (w : Rat) : |(q : Rat) - w * 10 ^ 12| = |w - q / 10 ^ 12| * 10 ^ 12 := by
    rw [abs_sub_comm, ← abs_of_pos scale, ← abs_mul, abs_of_pos scale, sub_mul,
      div_mul_cancel₀ _ scale.ne']
  obtain ⟨m, e, fields, rfl⟩ := h.exists_fields
  have canonical : IsCanonical m e := isCanonical_of_ofBits fields
  refine near.of_closer ?_
  rw [scaled, scaled]
  exact mul_le_mul_of_nonneg_right (rounds.nearest canonical.toIsNormalized) scale.le

/-- An amount in the default range is shown as digits that are read as an amount in the default
range, and this is shown as the same digits. -/
theorem exists_read_plain (h : Config.Permits {} x) : PlainNumeral (plain x).toList ∧
    ∃ r, parse {} none (some (plain x)) = .ok r ∧ r.strategy = .exact ∧ plain r.value = plain x := by
  obtain ⟨v, denotes, above, below⟩ := exists_denotes_of_permits h
  obtain ⟨q, near, -⟩ := exists_rounded denotes 12
  obtain ⟨whole, tail, d, text, spells, value, numeral⟩ :=
    exists_spells_trimmed (show 0 < 12 by decide) q
  obtain ⟨-, u, rounds, read, permits⟩ := exists_places above below (.inr rfl) near.multiple value
  obtain ⟨r, reads, exact, result⟩ := exists_read_exact spells permits
  rw [plain_eq denotes near, text, String.toList_ofList]
  refine ⟨numeral, r, reads, exact, ?_⟩
  rw [result, plain_eq read (isRounded_of_rounds denotes near rounds), text]

/-- The text of an amount in the default range is digits, alone or with a fraction that does not end
in a zero. It is read as a number alone, and as an amount with the same text. -/
theorem normalized_is_stable {bases : Option Bases} {input : Option String} {r : Reading}
    (h : parse {} bases input = .ok r) : PlainNumeral r.normalized.toList ∧
      ∃ r', parse {} none (some r.normalized) = .ok r' ∧ r'.strategy = .exact ∧
        r'.normalized = r.normalized := by
  have range := read_inRange ((mapError_eq_ok_iff ..).1 h)
  exact exists_read_plain (rangeFault?_eq_none_iff_permits.1 range)

/-- An amount with thirteen places, of which the text shows twelve. -/
theorem thirteen_places_stable : ∃ r r',
    parse {} (some { balance := some 0.1234567890126 }) (some "all") = .ok r ∧
      PlainNumeral r.normalized.toList ∧ parse {} none (some r.normalized) = .ok r' ∧
      r'.strategy = .exact ∧ r'.normalized = r.normalized := by
  have read : (parse {} (some { balance := some 0.1234567890126 }) (some "all")).toOption.any
      fun r => r.strategy == .relative := by
    decide +kernel
  obtain ⟨r, hr, -⟩ := exists_eq_ok_of_any read
  obtain ⟨numeral, r', reads, exact, same⟩ := normalized_is_stable hr
  exact ⟨r, r', hr, numeral, reads, exact, same⟩

end Amount

end Teller
