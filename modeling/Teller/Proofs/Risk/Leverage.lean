import Teller.Proofs.Number.Bounds
import Teller.Proofs.Risk.Range

/-!
# More leverage, more risk

A leverage factor weighs as much as its level scores. If it scores no more than the average of the
other factors, it pulls the average down, and the average without it counts. If it scores more, the
average grows with it. So in exact arithmetic the score never falls when the leverage rises.

    LeverageLE                   the order of leverages, where none is the least
    levered_mono                 the greater average grows with the leverage
    leverageScore_mono, multiplier_mono
    score_mono                   so does the capped score
    leverage_never_lowers        more leverage, more risk
-/

namespace Teller.Risk

open Teller.Number

variable {config : Config} {op : Operation} {level : Option Level} {l l' : Option Float}

/-! ## Averages -/

variable {load mass s t : Rat}

/-- The greater average grows with the score of the leverage. -/
theorem levered_mono (positive : 0 < mass) (nonneg : 0 ≤ s) (le : s ≤ t) :
    levered load mass s ≤ levered load mass t := by
  have total : 0 < mass + s := by linarith
  have total' : 0 < mass + t := by linarith
  refine max_le ?_ (le_max_right _ _)
  rcases le_total s (load / mass) with mild | high
  · -- a mild leverage does not raise the average of the other factors
    refine le_max_of_le_right ?_
    have share : s * mass ≤ load := (le_div_iff₀ positive).1 mild
    rw [div_le_div_iff₀ total positive]
    have square : s * (s * mass) ≤ s * load := mul_le_mul_of_nonneg_left share nonneg
    linarith
  · refine le_max_of_le_left ?_
    have share : load ≤ s * mass := (div_le_iff₀ positive).1 high
    rw [div_le_div_iff₀ total total', ← sub_nonneg]
    have gap : (load + t * t) * (mass + s) - (load + s * s) * (mass + t) =
        (t - s) * (mass * t + s * t + (s * mass - load)) := by ring
    rw [gap]
    have products := mul_nonneg positive.le (nonneg.trans le)
    have squares := mul_nonneg nonneg (nonneg.trans le)
    exact mul_nonneg (sub_nonneg.2 le) (by linarith)

/-! ## Leverages -/

/-- One leverage is at most the other; none is at most any. -/
def LeverageLE (l l' : Option Float) : Prop := ∀ x ∈ l, ∃ y ∈ l', x ≤ y

theorem Level.rank_ofLeverage_mono {x y : Float} (le : x ≤ y) :
    (ofLeverage x).rank ≤ (ofLeverage y).rank := by
  unfold ofLeverage
  by_cases two : y ≤ 2
  · rw [if_pos two, if_pos (le_trans le two)]
  · by_cases five : y ≤ 5
    · rw [if_neg two, if_pos five, if_pos (le_trans le five)]
      split_ifs <;> decide
    · by_cases ten : y ≤ 10
      · rw [if_neg two, if_neg five, if_pos ten, if_pos (le_trans le ten)]
        split_ifs <;> decide
      · rw [if_neg two, if_neg five, if_neg ten]
        split_ifs <;> decide

theorem Level.score_mono {level level' : Level} (le : level.rank ≤ level'.rank) :
    level.score Rat ≤ level'.score Rat := by
  have le' : (level.rank : Rat) ≤ level'.rank := by exact_mod_cast le
  rw [score_eq, score_eq]
  linarith

theorem leverageScore_mono (op : Operation) (le : LeverageLE l l') :
    leverageScore { op with leverage := l } ≤ leverageScore { op with leverage := l' } := by
  cases counts : ({ op with leverage := l } : Operation).levered? with
  | none =>
    refine (show leverageScore { op with leverage := l } = 0 from ?_).trans_le (leverageScore_nonneg _)
    unfold leverageScore
    rw [counts]
    rfl
  | some x =>
    obtain ⟨given, above⟩ := Option.filter_eq_some_iff.1 counts
    obtain ⟨y, given', le⟩ := le x given
    have counts' : ({ op with leverage := l' } : Operation).levered? = some y :=
      Option.filter_eq_some_iff.2 ⟨given', decide_eq_true (lt_of_lt_of_le (of_decide_eq_true above) le)⟩
    unfold leverageScore
    rw [counts, counts']
    exact Level.score_mono (Level.rank_ofLeverage_mono le)

theorem multiplier_mono (op : Operation) (le : LeverageLE l l') :
    multiplier { op with leverage := l } ≤ multiplier { op with leverage := l' } := by
  have high : l.any (3 < ·) = true → l'.any (3 < ·) = true := by
    intro h
    obtain ⟨x, given, above⟩ := (Option.any_eq_true ..).1 h
    obtain ⟨y, given', le⟩ := le x given
    exact (Option.any_eq_true ..).2 ⟨y, given',
      decide_eq_true (lt_of_lt_of_le (of_decide_eq_true above) le)⟩
  have beginners : (0 : Rat) ≤ if op.isBeginners then 11 / 10 else 1 := by
    split_ifs <;> norm_num
  refine mul_le_mul_of_nonneg_right ?_ beginners
  show (if l.any (3 < ·) then (12 / 10 : Rat) else 1) ≤ if l'.any (3 < ·) then 12 / 10 else 1
  split_ifs with is_high is_high'
  · exact le_rfl
  · exact absurd (high is_high) is_high'
  · norm_num
  · exact le_rfl

/-! ## Scores -/

/-- The exact score does not fall when the leverage rises. -/
theorem score_mono (op : Operation) (sound : config.IsSound) (above : ∀ l ∈ level, l ≠ .veryLow)
    (le : LeverageLE l l') :
    score (listed Rat config { op with leverage := l }
        (leverageFactors Rat { op with leverage := l }) level) { op with leverage := l } ≤
      score (listed Rat config { op with leverage := l' }
        (leverageFactors Rat { op with leverage := l' }) level) { op with leverage := l' } := by
  have positive := mass_listed_pos op sound .nil above
  have average := le_base { op with leverage := l' } sound above
  have higher :
      base (listed Rat config { op with leverage := l }
        (leverageFactors Rat { op with leverage := l }) level) ≤
      base (listed Rat config { op with leverage := l' }
        (leverageFactors Rat { op with leverage := l' }) level) := by
    rw [base_listed _ sound above, base_listed _ sound above]
    exact levered_mono positive (leverageScore_nonneg _) (leverageScore_mono op le)
  rw [score_eq, score_eq]
  exact min_le_min le_rfl (mul_le_mul higher (multiplier_mono op le)
    (zero_le_one.trans (one_le_multiplier _)) (by linarith))

/-- Of two operations that differ in their leverage only, both are assessed or none, and the one
with more leverage has no lower exact score and level. -/
theorem leverage_never_lowers (sound : config.IsSound) (op : Operation) (le : LeverageLE l l') :
    (∀ failure, assess config { op with leverage := l } = .error failure ↔
      assess config { op with leverage := l' } = .error failure) ∧
    ∀ a, assess config { op with leverage := l } = .ok a → ∃ a' s s',
      Assesses config { op with leverage := l } a s ∧ Assesses config { op with leverage := l' } a' s' ∧
        s ≤ s' ∧ (Level.ofScore s).rank ≤ (Level.ofScore s').rank := by
  refine ⟨assess_eq_error_congr rfl rfl, fun a assessed => ?_⟩
  obtain ⟨level, found, -⟩ := exists_level assessed
  obtain ⟨a', assessed'⟩ : ∃ a', assess config { op with leverage := l' } = .ok a' := exists_assess found
  have le_score := score_mono op sound (ne_of_volatilityLevel? found) le
  exact ⟨a', _, _, assesses_of_level sound assessed found, assesses_of_level sound assessed' found,
    le_score, Level.rank_ofScore_le fun n _ _ below => le_score.trans below⟩

/-- Options, which are of very high risk without any leverage. -/
def options : Operation := { amount := 100, protocol := "citrex", operation := "options" }

/-- A leverage that is mild beside options changes nothing. -/
theorem options_never_lower :
    ({} : Config).IsSound ∧ LeverageLE (some 2) (some 6) ∧
    exactScore? {} options = exactScore? {} { options with leverage := some 2 } ∧
    ∃ a a' s s', Assesses {} { options with leverage := some 2 } a s ∧
      Assesses {} { options with leverage := some 6 } a' s' ∧ s ≤ s' ∧
      (Level.ofScore s).rank ≤ (Level.ofScore s').rank := by
  have le : LeverageLE (some 2) (some 6) := by
    rintro x ⟨⟩
    exact ⟨6, rfl, by decide +kernel⟩
  obtain ⟨a, assessed⟩ :=
    exists_assess (show volatilityLevel? {} { options with leverage := some 2 } = .ok none from rfl)
  obtain ⟨a', s, s', compared⟩ := (leverage_never_lowers isSound_default options le).2 a assessed
  exact ⟨isSound_default, le, by decide +kernel, a, a', s, s', compared⟩

end Teller.Risk
