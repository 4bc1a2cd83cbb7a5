import Teller.Proofs.Risk.Exactness
import Teller.Risk.Compatibility

/-!
# The range of the score

No factor has a level below low, and an average is not below the lowest level in it. So no score is
below that of a low level, and no operation is assessed to be of very low risk, or suits a user who
tolerates no more than that.

    le_score, score_le           the range of the exact score
    overall_ne_veryLow           the lowest level is out of reach
    risk_never_veryLow           for assessments and for the answers to users
-/

namespace Teller.Risk

open Teller.Number

variable {config : Config} {op : Operation} {level : Option Level}

/-- No score is below that of a low level. -/
theorem le_score (op : Operation) (sound : config.IsSound) (above : ∀ l ∈ level, l ≠ .veryLow) :
    3 / 10 ≤ score (listed Rat config op (leverageFactors Rat op) level) op := by
  have average := le_base op sound above
  rw [score_eq]
  refine le_min (by norm_num) ?_
  exact average.trans (le_mul_of_one_le_right (by linarith) (one_le_multiplier op))

theorem score_le (fs : List (Factor Rat)) (op : Operation) : score fs op ≤ 1 := by
  rw [score_eq]
  exact min_le_left _ _

theorem Level.one_le_rank_ofScore {t : Rat} (h : 2 / 10 < t) : 1 ≤ (ofScore t).rank := by
  have above : ¬t ≤ Scale.decimal 2 1 := by
    rw [Scale.decimal_eq, pow_one]
    exact h.not_ge
  unfold ofScore
  rw [if_neg above]
  split_ifs <;> decide

/-- An operation with such a score is not of very low risk. -/
theorem overall_ne_veryLow {a : Assessment} {s : Rat} (h : Assesses config op a s) (least : 3 / 10 ≤ s) :
    a.overall ≠ .veryLow := by
  have lower : 1 ≤ a.overall.rank :=
    (Level.one_le_rank_ofScore (by linarith : 2 / 10 < s - 1 / 10 ^ 10)).trans h.above
  intro veryLow
  rw [veryLow] at lower
  exact absurd lower (by decide)

/-- Exact scores lie between that of a low level and one. No operation is of very low risk, and none
suits a user who tolerates a very low risk only. -/
theorem risk_never_veryLow (sound : config.IsSound) (op : Operation) :
    (∀ a, assess config op = .ok a → ∃ s, Assesses config op a s ∧ 3 / 10 ≤ s ∧ s ≤ 1 ∧
      a.overall ≠ .veryLow) ∧
    ∀ profile : Profile, profile.tolerance = .veryLow →
    (compatibility config op profile).compatible = false := by
  have reached {op : Operation} {a : Assessment} (h : assess config op = .ok a) :
      ∃ s, Assesses config op a s ∧ 3 / 10 ≤ s ∧ s ≤ 1 ∧ a.overall ≠ .veryLow := by
    obtain ⟨level, found, -⟩ := exists_level h
    have assesses := assesses_of_level sound h found
    have least := le_score op sound (ne_of_volatilityLevel? found)
    exact ⟨_, assesses, least, score_le _ op, overall_ne_veryLow assesses least⟩
  refine ⟨fun a => reached, fun profile cautious => ?_⟩
  rw [compatible_eq_isEmpty_warnings]
  unfold compatibility
  cases assessed : assess? config { op with profile := some profile } with
  | error fault => rfl
  | ok a =>
    obtain ⟨s, -, -, -, ne⟩ := reached ((mapError_eq_ok_iff _ _ _).2 assessed)
    have refused : toleratedBy profile a.overall = false := by
      unfold toleratedBy
      rw [cautious]
      revert ne
      cases a.overall <;> decide
    dsimp only
    rw [refused]
    rfl

/-- A swap at a venue with deep liquidity. -/
def deepSwap : Operation := { amount := 100, protocol := "dragonswap", operation := "swap" }

def cautious : Profile :=
  { tolerance := .veryLow, capacity := 0.3, horizon := .long, experience := .expert }

theorem isSound_default : ({} : Config).IsSound := ⟨by decide +kernel, by decide +kernel⟩

/-- The least score is reached, and is of low risk. -/
theorem deepSwap_never_veryLow :
    ({} : Config).IsSound ∧ cautious.tolerance = .veryLow ∧ exactScore? {} deepSwap = .ok (3 / 10) ∧
    (∃ a s, Assesses {} deepSwap a s ∧ 3 / 10 ≤ s ∧ s ≤ 1 ∧ a.overall ≠ .veryLow) ∧
    (compatibility {} deepSwap cautious).compatible = false := by
  obtain ⟨a, assessed⟩ := exists_assess (show volatilityLevel? {} deepSwap = .ok none from rfl)
  obtain ⟨range, refused⟩ := risk_never_veryLow isSound_default deepSwap
  exact ⟨isSound_default, rfl, by decide +kernel, ⟨a, range a assessed⟩, refused cautious rfl⟩

end Teller.Risk
