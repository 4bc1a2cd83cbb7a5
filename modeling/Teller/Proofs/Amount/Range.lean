import Teller.Proofs.Amount.Search
import Teller.Proofs.Number.Doubles

/-!
# Amounts in the default range

The default bounds are doubles, so what they permit is a double that stands for a number between
theirs. Products that are permitted come from such numbers as well.

    denotes_units                the powers of ten that units stand for
    permits_iff                  what the default range permits
    exists_denotes_of_mul        factors of a product that is permitted
    mul_one_of_permits           an amount times one is itself
    mul_ne_of_permits            an amount times two or more is another one
-/

namespace Teller

namespace Amount

open Number

variable {x y : Float} {v w : Rat}

/-! ## Bounds -/

/-- The exact value of the least amount, which is no decimal. -/
def leastAmount : Rat := weight 4722366482869645 (-72)

theorem denotes_least : Denotes 0.000001 leastAmount :=
  denotes_of_fields rfl (by decide)

/-- Thousands, millions, billions and trillions. -/
theorem denotes_units : Denotes 1e3 (10 ^ 3) ∧ Denotes 1e6 (10 ^ 6) ∧ Denotes 1e9 (10 ^ 9) ∧
    Denotes 1e12 (10 ^ 12) := by
  refine ⟨?_, ?_, ?_, ?_⟩ <;> exact denotes_of_isPowerOfTen (by decide +kernel)

theorem denotes_most : Denotes 1e12 (10 ^ 12) := denotes_units.2.2.2

theorem leastAmount_pos : 0 < leastAmount := weight_pos _ (by decide)

theorem le_leastAmount : 1 / 10 ^ 7 ≤ leastAmount := by
  norm_num [leastAmount, weight]

theorem not_tiny_leastAmount : 1 / 2 ^ 200 ≤ leastAmount := by
  norm_num [leastAmount, weight]

/-- What the default range permits. -/
theorem permits_iff (h : Denotes x v) : Config.Permits {} x ↔ leastAmount ≤ v ∧ v ≤ 10 ^ 12 := by
  have least : ¬x < (0.000001 : Float) ↔ leastAmount ≤ v := by
    rw [h.lt_iff denotes_least, not_lt]
  have most : ¬(1e12 : Float) < x ↔ v ≤ 10 ^ 12 := by
    rw [denotes_most.lt_iff h, not_lt]
  constructor
  · intro permits
    exact ⟨least.1 permits.not_below, most.1 permits.not_above⟩
  · rintro ⟨above, below⟩
    exact ⟨h.not_isNaN, (denotes_zero.lt_iff h).2 (leastAmount_pos.trans_le above), least.2 above,
      most.2 below⟩

/-- What the default range permits is finite. -/
theorem isFinite_of_permits (h : Config.Permits {} x) : x.isFinite = true :=
  isFinite_of_le_of_le denotes_least.isFinite denotes_most.isFinite
    (h.least_le denotes_least.not_isNaN) (h.le_most denotes_most.not_isNaN)

/-! ## Products -/

/-- If a product is permitted, its first factor is a positive number. -/
theorem exists_denotes_of_mul (nearest : IsNearest x v) (hy : Denotes y w) (pos : 0 < w)
    (permits : Config.Permits {} (x * y)) :
    ∃ u p, 0 < u ∧ Denotes x u ∧ Rounds (u * w) p ∧ Denotes (x * y) p := by
  have finite := isFinite_of_permits permits
  cases nearest with
  | infinite unpack =>
    replace finite : (x * y).toModel.unpack.isFinite = true := finite
    rw [Denotes.infinite_mul unpack hy pos] at finite
    cases finite
  | @finite u _ denotes =>
    obtain ⟨p, rounds, product⟩ := (denotes.mul hy).exists_of_isFinite finite
    have positive : 0 < p := (denotes_zero.lt_iff product).1 permits.positive
    refine ⟨u, p, denotes.nonneg.lt_of_ne ?_, denotes, rounds, product⟩
    rintro rfl
    rw [zero_mul] at rounds
    exact positive.ne (rounds_zero.unique rounds)

/-- An amount times one is itself. -/
theorem mul_one_of_permits (nearest : IsNearest x v) (permits : Config.Permits {} (x * 1)) :
    x * 1 = x := by
  obtain ⟨u, p, -, denotes, rounds, product⟩ :=
    exists_denotes_of_mul nearest denotes_one zero_lt_one permits
  rw [mul_one] at rounds
  rw [rounds.unique denotes.rounds_self] at product
  exact product.eq denotes

/-- An amount times two or more is another one. -/
theorem mul_ne_of_permits (nearest : IsNearest x v) (hy : Denotes y w) (large : 2 ≤ w)
    (permits : Config.Permits {} (x * y)) : x * y ≠ x := by
  intro same
  obtain ⟨u, p, pos, denotes, rounds, product⟩ :=
    exists_denotes_of_mul nearest hy (by linarith) permits
  rw [same] at product permits
  rw [product.number_unique denotes] at rounds
  have grown : u * 2 ≤ u * w := mul_le_mul_of_nonneg_left large pos.le
  have near := rounds.near (by linarith [not_tiny_leastAmount, ((permits_iff denotes).1 permits).1])
  rw [abs_sub_comm, abs_of_nonneg (by linarith), le_div_iff₀ (by norm_num)] at near
  norm_num at near
  linarith

end Amount

end Teller
