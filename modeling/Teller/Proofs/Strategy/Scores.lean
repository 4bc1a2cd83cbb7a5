import Mathlib.Tactic.Linarith
import Mathlib.Tactic.Positivity
import Teller.Proofs.Number.Scales
import Teller.Strategy.Matching

/-!
# Scores in range

The score of a strategy is a weighted sum of five scores, each meant to lie between zero and one;
popularity adds a tenth of it at most. The part of the wanted return that a strategy reaches is only
bounded below, though. Where users put up with a loss and a strategy loses more, it is the ratio of
the two losses, so the more a strategy loses the better it is rated.

    InRange                      the scores as they are meant to be
    LosesMore                    where one of them is not
    apyScore_mem                 the score for the return elsewhere
    apyScore_eq_div              the score of a strategy that loses more
    baseScore_mem                the weights add up to one
    inRange_unless_loses_more    scores are in range exactly if a strategy does not lose more
    losingLoan_out_of_range      a strategy that is out of range
-/

namespace Teller.Strategy

open Number

variable {config : Config} {s : Strategy} {c : Criteria} {wanted : Float}

/-- In exact arithmetic each score lies between zero and one, and popularity raises their weighted
sum by a tenth of it at most. -/
structure InRange (config : Config) (s : Strategy) (c : Criteria) : Prop where
  amount : amountScore Rat s c ∈ Set.Icc 0 1
  risk : riskScore Rat config s c ∈ Set.Icc 0 1
  protocols : protocolScore Rat s c ∈ Set.Icc 0 1
  apy : apyScore Rat s c ∈ Set.Icc 0 1
  leverage : leverageScore Rat s c ∈ Set.Icc 0 1
  plain : config.preferPopular = false → matchScore Rat config s c ∈ Set.Icc 0 1
  popular : config.preferPopular = true →
    matchScore Rat config s c ∈ Set.Icc 0 (1 + exactValue s.popularity / 10)

/-- The user puts up with a loss, but the strategy loses more than that. -/
def LosesMore (s : Strategy) (c : Criteria) : Prop := ∃ wanted ∈ c.leastApy, wanted < 0 ∧ s.apy < wanted

/-! ## The single scores -/

theorem amountScore_mem (s : Strategy) (c : Criteria) : amountScore Rat s c ∈ Set.Icc 0 1 := by
  unfold amountScore
  simp only [Scale.zero_eq, Scale.one_eq, Scale.decimal_eq]
  split_ifs <;> norm_num

theorem riskScore_mem (s : Strategy) (c : Criteria) (factor : 0 ≤ config.riskFactor) :
    riskScore Rat config s c ∈ Set.Icc 0 1 := by
  have nonneg : 0 ≤ exactValue config.riskFactor := exactValue_nonneg factor
  unfold riskScore
  simp only [Scale.zero_eq, Scale.one_eq, Scale.decimal_eq, Scale.atMost_eq_min]
  split_ifs
  · norm_num
  · norm_num
  · exact ⟨le_min zero_le_one (mul_nonneg (by norm_num) nonneg), min_le_left _ _⟩

theorem protocolScore_mem (s : Strategy) (c : Criteria) : protocolScore Rat s c ∈ Set.Icc 0 1 := by
  unfold protocolScore
  simp only [Scale.zero_eq, Scale.one_eq, Scale.decimal_eq, Scale.atMost_eq_min]
  split_ifs
  · norm_num
  · norm_num
  · exact ⟨le_min zero_le_one (by positivity), min_le_left _ _⟩

theorem leverageScore_mem (s : Strategy) (c : Criteria) : leverageScore Rat s c ∈ Set.Icc 0 1 := by
  unfold leverageScore
  simp only [Scale.zero_eq, Scale.one_eq]
  split_ifs <;> norm_num

/-! ## The score for the return -/

theorem apyScore_of_none (h : c.leastApy.filter (· != 0) = none) : apyScore Rat s c = 8 / 10 := by
  unfold apyScore
  rw [h]
  exact (Scale.decimal_eq 8 1).trans (by norm_num)

theorem apyScore_of_le (h : c.leastApy.filter (· != 0) = some wanted) (enough : wanted ≤ s.apy) :
    apyScore Rat s c = 1 := by
  unfold apyScore
  rw [h]
  exact (if_pos enough).trans Scale.one_eq

theorem apyScore_of_not_le (h : c.leastApy.filter (· != 0) = some wanted) (short : ¬wanted ≤ s.apy) :
    apyScore Rat s c = max 0 (1 - (exactValue wanted - exactValue s.apy) / exactValue wanted) := by
  unfold apyScore
  rw [h]
  refine (if_neg short).trans ?_
  rw [Scale.greater_eq_max, Scale.one_eq, Scale.zero_eq]
  rfl

/-- A return below the wanted one falls short by a part of it, unless both are losses. -/
theorem deficit_nonneg (short : ¬wanted ≤ s.apy) (no_loss : ¬(wanted < 0 ∧ s.apy < wanted)) :
    0 ≤ (exactValue wanted - exactValue s.apy) / exactValue wanted := by
  by_cases finite : wanted.isFinite = true
  · by_cases finite' : s.apy.isFinite = true
    · have less : exactValue s.apy < exactValue wanted :=
        not_le.1 (mt (exactValue_le_iff finite finite').1 short)
      have gain : 0 ≤ exactValue wanted := by
        rw [← not_lt, ← exactValue_zero, exactValue_lt_iff finite denotes_zero.isFinite]
        exact fun loss => no_loss ⟨loss, (exactValue_lt_iff finite' finite).1 less⟩
      exact div_nonneg (sub_nonneg.2 less.le) gain
    · -- what has no exact value counts as zero, so all or nothing is missing
      rw [exactValue_of_not_isFinite (eq_false_of_ne_true finite'), sub_zero]
      rcases eq_or_ne (exactValue wanted) 0 with zero | nonzero
      · rw [zero, div_zero]
      · rw [div_self nonzero]
        exact zero_le_one
  · rw [exactValue_of_not_isFinite (eq_false_of_ne_true finite), div_zero]

theorem apyScore_mem (no_loss : ¬LosesMore s c) : apyScore Rat s c ∈ Set.Icc 0 1 := by
  cases h : c.leastApy.filter (· != 0) with
  | none =>
    rw [apyScore_of_none h]
    norm_num
  | some wanted =>
    by_cases enough : wanted ≤ s.apy
    · rw [apyScore_of_le h enough]
      norm_num
    · have given : wanted ∈ c.leastApy := (Option.filter_eq_some_iff.1 h).1
      have deficit := deficit_nonneg enough fun loss => no_loss ⟨wanted, given, loss⟩
      rw [apyScore_of_not_le h enough]
      exact ⟨le_max_left _ _, max_le zero_le_one (sub_le_self 1 deficit)⟩

theorem filter_leastApy (given : wanted ∈ c.leastApy) (loss : wanted < 0) :
    c.leastApy.filter (· != 0) = some wanted := by
  have nonzero : (wanted != 0) = true := by
    rw [bne, beq_eq_false_of_lt loss]
    rfl
  exact Option.filter_eq_some_iff.2 ⟨given, nonzero⟩

/-- The score of a strategy that loses more than users put up with is the ratio of the losses. -/
theorem apyScore_eq_div (given : wanted ∈ c.leastApy) (loss : wanted < 0) (more : s.apy < wanted)
    (finite : s.apy.isFinite = true) :
    apyScore Rat s c = exactValue s.apy / exactValue wanted ∧
    1 < exactValue s.apy / exactValue wanted := by
  have finite' : wanted.isFinite = true :=
    isFinite_of_le_of_le finite denotes_zero.isFinite (le_of_lt more) (le_of_lt loss)
  have negative : exactValue wanted < 0 := by
    rw [← exactValue_zero, exactValue_lt_iff finite' denotes_zero.isFinite]
    exact loss
  have less : exactValue s.apy < exactValue wanted := (exactValue_lt_iff finite finite').2 more
  have ratio : 1 < exactValue s.apy / exactValue wanted := (one_lt_div_of_neg negative).2 less
  refine ⟨?_, ratio⟩
  rw [apyScore_of_not_le (filter_leastApy given loss) fun enough => not_lt_of_le enough more, sub_div,
    div_self negative.ne, sub_sub_cancel]
  exact max_eq_right (by linarith)

/-- Where it loses without limit, the score is infinite. -/
theorem one_lt_apyScore_of_infinite (given : wanted ∈ c.leastApy) (loss : wanted < 0)
    (more : s.apy < wanted) (infinite : s.apy.isFinite = false) : 1 < apyScore Float s c := by
  have unlimited := unpack_of_lt more infinite
  have finite : wanted.isFinite = true := by
    by_contra not_finite
    have h := (lt_iff_compare s.apy wanted).1 more
    rw [unlimited, unpack_of_lt loss (eq_false_of_ne_true not_finite)] at h
    cases h
  have deficit := infinite_div_of_neg (sub_infinite finite unlimited) loss finite
  have raised : ((1 : Float) - (wanted - s.apy) / wanted).toModel.unpack = .infinity .positive :=
    sub_infinite denotes_one.isFinite deficit
  have score : apyScore Float s c = 1 - (wanted - s.apy) / wanted := by
    unfold apyScore
    rw [filter_leastApy given loss]
    refine (if_neg fun enough => not_lt_of_le enough more).trans ?_
    exact if_pos (denotes_zero.lt_infinite raised)
  rw [score]
  exact denotes_one.lt_infinite raised

/-! ## The weighted sum -/

theorem baseScore_eq (config : Config) (s : Strategy) (c : Criteria) :
    baseScore Rat config s c = amountScore Rat s c * (25 / 100) +
      riskScore Rat config s c * (30 / 100) + protocolScore Rat s c * (20 / 100) +
      apyScore Rat s c * (15 / 100) + leverageScore Rat s c * (10 / 100) := by
  unfold baseScore
  simp only [Scale.decimal_eq]
  norm_num

/-- The weights add up to one, so scores in range have a sum in range. -/
theorem baseScore_mem (factor : 0 ≤ config.riskFactor) (apy : apyScore Rat s c ∈ Set.Icc 0 1) :
    baseScore Rat config s c ∈ Set.Icc 0 1 := by
  obtain ⟨amount, amount'⟩ := amountScore_mem s c
  obtain ⟨risk, risk'⟩ := riskScore_mem s c factor
  obtain ⟨protocols, protocols'⟩ := protocolScore_mem s c
  obtain ⟨apy, apy'⟩ := apy
  obtain ⟨leverage, leverage'⟩ := leverageScore_mem s c
  rw [baseScore_eq]
  constructor <;> linarith

theorem matchScore_of_popular (h : config.preferPopular = true) :
    matchScore Rat config s c = baseScore Rat config s c * (1 + exactValue s.popularity / 10) := by
  unfold matchScore
  rw [if_pos h, Scale.one_eq, Scale.decimal_eq, Nat.cast_one, pow_one, mul_one_div]
  rfl

/-- Scores in range have a sum in range, which popularity raises by a tenth at most. -/
theorem inRange_of_apyScore_mem (popularity : 0 ≤ s.popularity) (factor : 0 ≤ config.riskFactor)
    (apy : apyScore Rat s c ∈ Set.Icc 0 1) : InRange config s c where
  amount := amountScore_mem s c
  risk := riskScore_mem s c factor
  protocols := protocolScore_mem s c
  apy := apy
  leverage := leverageScore_mem s c
  plain not_popular := by
    unfold matchScore
    rw [not_popular]
    exact baseScore_mem factor apy
  popular is_popular := by
    obtain ⟨nonneg, le_one⟩ := baseScore_mem factor apy
    have raised : 0 ≤ 1 + exactValue s.popularity / 10 := by linarith [exactValue_nonneg popularity]
    rw [matchScore_of_popular is_popular]
    exact ⟨mul_nonneg nonneg raised, mul_le_of_le_one_left raised le_one⟩

/-- Scores are in range, unless the strategy loses more than the user puts up with. Then the score
for its return is above one, also where the loss is infinite and only doubles have a score for it.
-/
theorem inRange_unless_loses_more (popularity : 0 ≤ s.popularity) (factor : 0 ≤ config.riskFactor) :
    (¬LosesMore s c → InRange config s c) ∧
    (LosesMore s c → s.apy.isFinite = true → 1 < apyScore Rat s c ∧ ¬InRange config s c) ∧
    (LosesMore s c → s.apy.isFinite = false → 1 < apyScore Float s c) := by
  refine ⟨fun no_loss => inRange_of_apyScore_mem popularity factor (apyScore_mem no_loss), ?_, ?_⟩
  · rintro ⟨wanted, given, loss, more⟩ finite
    obtain ⟨ratio, above⟩ := apyScore_eq_div given loss more finite
    rw [← ratio] at above
    exact ⟨above, fun inRange => inRange.apy.2.not_gt above⟩
  · rintro ⟨wanted, given, loss, more⟩ infinite
    exact one_lt_apyScore_of_infinite given loss more infinite

/-- A loan that loses three percent. -/
def losingLoan : Strategy where
  id := "losing-loan"
  name := "Losing loan"
  description := "A loan that loses three percent"
  category := .lending
  risk := .medium
  apy := -3
  least := 100
  protocols := ["silo"]
  steps := []

/-- A user who puts up with a loss of this size. -/
def puttingUpWith (loss : Float) : Criteria :=
  { amount := 500, tolerance := .medium, leastApy := some loss }

/-- A strategy that loses no more than the user puts up with. -/
theorem losingLoan_in_range : 0 ≤ losingLoan.popularity ∧ 0 ≤ ({} : Config).riskFactor ∧
    apyScore Rat losingLoan (puttingUpWith (-4)) = 1 ∧ InRange {} losingLoan (puttingUpWith (-4)) := by
  have popularity : 0 ≤ losingLoan.popularity := by decide +kernel
  have factor : 0 ≤ ({} : Config).riskFactor := by decide +kernel
  refine ⟨popularity, factor, by decide +kernel, (inRange_unless_loses_more popularity factor).1 ?_⟩
  rintro ⟨wanted, given, -, more⟩
  cases given
  exact absurd more (by decide +kernel)

/-- It loses three times as much as this user puts up with, and is rated above all limits for it. -/
theorem losingLoan_out_of_range :
    (0 ≤ losingLoan.popularity ∧ losingLoan.popularity ≤ 1 ∧ 0 ≤ ({} : Config).riskFactor) ∧
    apyScore Rat losingLoan (puttingUpWith (-1)) = 3 ∧
    1 + exactValue losingLoan.popularity / 10 < matchScore Rat {} losingLoan (puttingUpWith (-1)) ∧
    ¬InRange {} losingLoan (puttingUpWith (-1)) ∧
    1.3 < (evaluate {} ⟨[losingLoan]⟩ (puttingUpWith (-1)) losingLoan).score := by
  have ratio : apyScore Rat losingLoan (puttingUpWith (-1)) = 3 := by decide +kernel
  refine ⟨by decide +kernel, ratio, by decide +kernel, fun inRange => ?_, by decide +kernel⟩
  have le_one := inRange.apy.2
  rw [ratio] at le_one
  exact absurd le_one (by decide)

end Teller.Strategy
