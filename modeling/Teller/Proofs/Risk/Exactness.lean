import Teller.Proofs.Number.Closeness
import Teller.Proofs.Risk.Average
import Teller.Proofs.Success

/-!
# Assessments and exact scores

The score of an assessment is calculated in doubles. It goes through the same steps as the exact
score, and no step needs more than a few roundings, whatever the weight of volatility. So the
assessed score is the exact one to six places, and the assessed level is that of the exact score
unless this lies right at a bound between two levels.

    approximates_score           the calculated score
    Assesses                     an assessment, and the exact score of the operation
    rank_ofScore_near            the level of a calculated score
    assesses_of_level            every assessment has an exact score
    assess_eq_error_congr        operations that are not assessed
-/

namespace Teller.Risk

open Teller.Number

variable {config : Config} {op : Operation} {level : Option Level} {fs : List (Factor Float)}
  {gs : List (Factor Rat)}

/-! ## Sums -/

theorem Level.approximates_score (level : Level) :
    Approximates 1 (level.score Float) (level.score Rat) := by
  rw [score_eq_decimal, score_eq_decimal]
  refine .tenths (Nat.succ_pos _) ?_
  cases level <;> decide

namespace Factor.Matches

variable {f : Factor Float} {g : Factor Rat}

theorem approximates_impact (h : f.Matches g) :
    Approximates 1 f.impact g.impact ∧ 3 / 10 ≤ g.impact ∧ g.impact ≤ 9 / 10 := by
  obtain ⟨n, least, most, impact, impact'⟩ := h.impact
  have least' : (3 : Rat) ≤ n := by exact_mod_cast least
  have most' : (n : Rat) ≤ 9 := by exact_mod_cast most
  rw [impact, impact']
  refine ⟨.tenths (by omega) (by omega), ?_⟩
  rw [Scale.decimal_eq, pow_one]
  exact ⟨div_le_div_of_nonneg_right least' (by norm_num), div_le_div_of_nonneg_right most' (by norm_num)⟩

theorem approximates_part (h : f.Matches g) :
    Approximates 3 (f.level.score Float * f.impact) (g.level.score Rat * g.impact) ∧
      9 / 100 ≤ g.level.score Rat * g.impact ∧ g.level.score Rat * g.impact ≤ 1 := by
  obtain ⟨impact, least, most⟩ := h.approximates_impact
  obtain ⟨low, high⟩ := Level.score_bounds (h.level ▸ h.above)
  have lower : 9 / 100 ≤ g.level.score Rat * g.impact :=
    calc (9 : Rat) / 100 = 3 / 10 * (3 / 10) := by norm_num
      _ ≤ _ := mul_le_mul low least (by norm_num) (by linarith)
  have upper : g.level.score Rat * g.impact ≤ 1 := mul_le_one₀ (by linarith) (by linarith) (by linarith)
  have not_tiny : (1 : Rat) / 2 ^ 190 ≤ 9 / 100 := by norm_num
  rw [h.level]
  exact ⟨(Level.approximates_score g.level).mul impact (by decide) (by linarith) (.inl high), lower,
    upper⟩

end Factor.Matches

/-- There are four factors at most besides those for leverage and volatility. -/
theorem length_basics_le {α : Type} [Scale α] (op : Operation) (leverage : List (Factor α)) :
    (basics α op leverage).length ≤ leverage.length + 4 := by
  have concentration : (concentrationFactors α op).length ≤ 1 := by
    unfold concentrationFactors
    cases op.portfolio? with
    | none => exact Nat.zero_le 1
    | some portfolio =>
      dsimp only
      split_ifs <;> simp
  have liquidity : (liquidityFactors α op).length ≤ 1 := by
    unfold liquidityFactors
    dsimp only
    split_ifs <;> simp
  unfold basics
  simp only [List.length_append, List.length_cons]
  omega

def impacts {α : Type} (fs : List (Factor α)) : List α := fs.map (·.impact)

/-- The parts of factors in a load. -/
def parts {α : Type} [Scale α] (fs : List (Factor α)) : List α :=
  fs.map fun f => f.level.score α * f.impact

theorem impacts_match (h : List.Forall₂ Factor.Matches fs gs) :
    List.Forall₂ (fun x v => Approximates 1 x v ∧ 1 / 2 ^ 20 ≤ v ∧ v ≤ 1) (impacts fs) (impacts gs) := by
  refine List.forall₂_map_left_iff.2 (List.forall₂_map_right_iff.2 (h.imp fun f g hfg => ?_))
  obtain ⟨impact, least, most⟩ := hfg.approximates_impact
  exact ⟨impact, (by norm_num : (1 : Rat) / 2 ^ 20 ≤ 3 / 10).trans least, most.trans (by norm_num)⟩

theorem parts_match (h : List.Forall₂ Factor.Matches fs gs) :
    List.Forall₂ (fun x v => Approximates 3 x v ∧ 1 / 2 ^ 20 ≤ v ∧ v ≤ 1) (parts fs) (parts gs) := by
  refine List.forall₂_map_left_iff.2 (List.forall₂_map_right_iff.2 (h.imp fun f g hfg => ?_))
  obtain ⟨part, least, most⟩ := hfg.approximates_part
  exact ⟨part, (by norm_num : (1 : Rat) / 2 ^ 20 ≤ 9 / 100).trans least, most⟩

/-- A sum over the basic factors, and how large it is. -/
theorem approximates_sum {n : Nat} {xs : List Float} {vs : List Rat}
    (h : List.Forall₂ (fun x v => Approximates n x v ∧ 1 / 2 ^ 20 ≤ v ∧ v ≤ 1) xs vs)
    (some : 1 ≤ vs.length) (few : vs.length ≤ 5) (small : n + 5 ≤ 64) :
    Approximates (n + 5) (Scale.sum xs) (Scale.sum vs) ∧ 1 / 2 ^ 20 ≤ Scale.sum vs ∧
    Scale.sum vs ≤ 2 ^ 90 := by
  obtain ⟨least, most⟩ := Approximates.sum_bounds h
  have one : (1 : Rat) ≤ vs.length := by exact_mod_cast some
  have five : (vs.length : Rat) ≤ 5 := by exact_mod_cast few
  have scaled := mul_le_mul_of_nonneg_right one (by norm_num : (0 : Rat) ≤ 1 / 2 ^ 20)
  exact ⟨(Approximates.sum h (by omega)).mono (by omega), by linarith, by linarith⟩

section Listed

variable {leverage : List (Factor Float)} {leverage' : List (Factor Rat)}

/-- The mass of the factors of an operation. -/
theorem approximates_mass (op : Operation) (level : Option Level) (sound : config.IsSound)
    (h : List.Forall₂ Factor.Matches leverage leverage') (few : leverage'.length ≤ 1) :
    Approximates 7 (Scale.sum (impacts (listed Float config op leverage level)))
      (Scale.sum (impacts (listed Rat config op leverage' level))) := by
  have length : (impacts (basics Rat op leverage')).length = (basics Rat op leverage').length :=
    List.length_map _
  have count := length_basics_le op leverage'
  obtain ⟨sum, least, most⟩ := approximates_sum (impacts_match (basics_match op h))
    (length ▸ Nat.succ_pos _) (by omega) (by decide)
  unfold listed
  cases level with
  | none =>
    rw [Option.toList_none, List.map_nil, List.map_nil, List.append_nil, List.append_nil]
    exact sum.mono (by decide)
  | some level =>
    show Approximates 7 (Scale.sum (impacts (_ ++ [_]))) (Scale.sum (impacts (_ ++ [_])))
    unfold impacts at *
    rw [List.map_append, List.map_append, List.map_singleton, List.map_singleton, Scale.sum_concat,
      Scale.sum_concat]
    exact sum.add_weight (by decide) least most sound.nonneg sound.finite

/-- The load of the factors of an operation. -/
theorem approximates_load (op : Operation) (sound : config.IsSound)
    (h : List.Forall₂ Factor.Matches leverage leverage') (few : leverage'.length ≤ 1)
    (above : ∀ l ∈ level, l ≠ .veryLow) :
    Approximates 10 (Scale.sum (parts (listed Float config op leverage level)))
      (Scale.sum (parts (listed Rat config op leverage' level))) := by
  have length : (parts (basics Rat op leverage')).length = (basics Rat op leverage').length :=
    List.length_map _
  have count := length_basics_le op leverage'
  obtain ⟨sum, least, most⟩ := approximates_sum (parts_match (basics_match op h))
    (length ▸ Nat.succ_pos _) (by omega) (by decide)
  unfold listed
  cases level with
  | none =>
    rw [Option.toList_none, List.map_nil, List.map_nil, List.append_nil, List.append_nil]
    exact sum.mono (by decide)
  | some level =>
    show Approximates 10 (Scale.sum (parts (_ ++ [_]))) (Scale.sum (parts (_ ++ [_])))
    unfold parts at *
    rw [List.map_append, List.map_append, List.map_singleton, List.map_singleton, Scale.sum_concat,
      Scale.sum_concat]
    exact sum.add_weighted level.approximates_score (by decide) (by decide) least most
      (Level.score_bounds (above level rfl)).2 sound.nonneg sound.finite

/-- The average of the factors of an operation. -/
theorem approximates_weightedScore (op : Operation) (sound : config.IsSound)
    (h : List.Forall₂ Factor.Matches leverage leverage') (few : leverage'.length ≤ 1)
    (weighed : List.Forall₂ Factor.Matches leverage' leverage') (above : ∀ l ∈ level, l ≠ .veryLow) :
    Approximates 18 (weightedScore (listed Float config op leverage level))
      (weightedScore (listed Rat config op leverage' level)) := by
  have mass := approximates_mass op level sound h few
  have load := approximates_load op sound h few above
  have positive := mass_listed_pos op sound weighed above
  obtain ⟨least, most⟩ := weightedScore_mem (isWeighed_listed op sound weighed above) positive
  rw [weightedScore_eq positive] at least most ⊢
  have mass_eq : Scale.sum (impacts (listed Rat config op leverage' level)) = Risk.mass _ :=
    Scale.sum_eq _
  have load_eq : Scale.sum (parts (listed Rat config op leverage' level)) = Risk.load _ := Scale.sum_eq _
  rw [mass_eq] at mass
  rw [load_eq] at load
  have quotient :=
    load.div mass (by decide) positive ((by norm_num : (1 : Rat) / 2 ^ 190 ≤ 3 / 10).trans least)
    (most.trans (by norm_num))
  obtain ⟨total, denotes, near⟩ := mass
  have not_zero : ¬Scale.sum (impacts (listed Float config op leverage level)) ≤ Scale.zero :=
    mt (denotes.le_iff denotes_zero).1 (near.pos positive).not_ge
  have value : weightedScore (listed Float config op leverage level) =
      Scale.sum (parts (listed Float config op leverage level)) /
        Scale.sum (impacts (listed Float config op leverage level)) := if_neg not_zero
  rw [value]
  exact quotient

end Listed

/-! ## Scores -/

theorem length_leverageFactors_le {α : Type} [Scale α] : (leverageFactors α op).length ≤ 1 := by
  unfold leverageFactors
  split
  · exact le_rfl
  · exact Nat.zero_le 1

/-- A score that may be raised a little. -/
theorem approximates_raised {n : Nat} {x : Float} {v : Rat} (h : Approximates n x v) (few : n + 1 ≤ 64)
    (least : 3 / 10 ≤ v) (most : v ≤ 2) (digits : Nat) (ten_le : 10 ≤ digits) (le_twelve : digits ≤ 12)
    (raised : Bool) :
    Approximates (n + 2) (if raised then x * Scale.decimal digits 1 else x)
        (if raised then v * Scale.decimal digits 1 else v) ∧
      3 / 10 ≤ (if raised then v * Scale.decimal digits 1 else v) ∧
      (if raised then v * Scale.decimal digits 1 else v) ≤ 2 * v := by
  cases raised with
  | false => exact ⟨h.mono (by omega), least, by simp; linarith⟩
  | true =>
    have factor : 1 ≤ (Scale.decimal digits 1 : Rat) ∧ (Scale.decimal digits 1 : Rat) ≤ 2 := by
      have ten_le' : (10 : Rat) ≤ digits := by exact_mod_cast ten_le
      have le_twelve' : (digits : Rat) ≤ 12 := by exact_mod_cast le_twelve
      rw [Scale.decimal_eq, pow_one]
      constructor <;> linarith
    have lower := mul_le_mul_of_nonneg_left factor.1 h.nonneg
    have upper := mul_le_mul_of_nonneg_left factor.2 h.nonneg
    refine ⟨h.mul (.tenths (by omega) (by omega)) few (by linarith) (.inr (by linarith)), ?_, ?_⟩
    · show 3 / 10 ≤ v * Scale.decimal digits 1
      linarith
    · show v * Scale.decimal digits 1 ≤ 2 * v
      linarith

/-- The calculated score before it is capped. -/
theorem approximates_rawScore (op : Operation) (sound : config.IsSound)
    (above : ∀ l ∈ level, l ≠ .veryLow) :
    Approximates 22 (rawScore (listed Float config op (leverageFactors Float op) level) op)
        (rawScore (listed Rat config op (leverageFactors Rat op) level) op) ∧
      3 / 10 ≤ rawScore (listed Rat config op (leverageFactors Rat op) level) op := by
  have weighed := leverageFactors_match (α := Rat) (β := Rat) op
  have average := approximates_weightedScore op sound (leverageFactors_match op) length_leverageFactors_le
    weighed above
  have average' := approximates_weightedScore op sound .nil (Nat.zero_le 1) .nil above
  have greater : Scale.greater (weightedScore (listed Rat config op (leverageFactors Rat op) level))
      (weightedScore (listed Rat config op [] level)) =
        Risk.base (listed Rat config op (leverageFactors Rat op) level) := by
    unfold Risk.base
    rw [Scale.greater_eq_max, filter_listed fun f => topic_of_mem_leverageFactors]
  have base := average.greater average'
  have lower := (le_base op sound above).trans_eq greater.symm
  have upper := greater.trans_le (base_le op sound above)
  obtain ⟨levered, lower', upper'⟩ :=
    approximates_raised base (by decide) lower (by linarith) 12 (by decide)
    le_rfl (op.leverage.any (3 < ·))
  obtain ⟨raised, lower'', -⟩ :=
    approximates_raised levered (by decide) lower' (by linarith) 11 (by decide)
    (by decide) op.isBeginners
  unfold rawScore
  rw [filter_listed fun f => topic_of_mem_leverageFactors,
    filter_listed fun f => topic_of_mem_leverageFactors]
  exact ⟨raised, lower''⟩

/-- The calculated score. -/
theorem approximates_score (op : Operation) (sound : config.IsSound) (above : ∀ l ∈ level, l ≠ .veryLow) :
    Approximates 22 (score (listed Float config op (leverageFactors Float op) level) op)
      (score (listed Rat config op (leverageFactors Rat op) level) op) := by
  have one : Approximates 0 Scale.one Scale.one := by
    have denotes := denotes_of_isPowerOfTen (k := 0) (x := Scale.one) (by decide +kernel)
    rw [pow_zero, ← Scale.one_eq] at denotes
    exact .of_denotes denotes
  exact (one.mono (by decide)).atMost (approximates_rawScore op sound above).1

/-! ## Assessments -/

/-- A level is at most another one if its score is below every bound that the other one is below. -/
theorem Level.rank_ofScore_le {α β : Type} [Scale α] [Scale β] {x : α} {y : β}
    (h : ∀ n, 0 < n → n ≤ 8 → y ≤ Scale.decimal n 1 → x ≤ Scale.decimal n 1) :
    (ofScore x).rank ≤ (ofScore y).rank := by
  unfold ofScore
  by_cases two : y ≤ Scale.decimal 2 1
  · rw [if_pos two, if_pos (h 2 (by decide) (by decide) two)]
  · by_cases four : y ≤ Scale.decimal 4 1
    · rw [if_neg two, if_pos four, if_pos (h 4 (by decide) (by decide) four)]
      split_ifs <;> decide
    · by_cases six : y ≤ Scale.decimal 6 1
      · rw [if_neg two, if_neg four, if_pos six, if_pos (h 6 (by decide) (by decide) six)]
        split_ifs <;> decide
      · by_cases eight : y ≤ Scale.decimal 8 1
        · rw [if_neg two, if_neg four, if_neg six, if_pos eight,
            if_pos (h 8 (by decide) (by decide) eight)]
          split_ifs <;> decide
        · rw [if_neg two, if_neg four, if_neg six, if_neg eight]
          split_ifs <;> decide

/-- The operation is assessed as `a`, and its exact score is `s`: to six places the assessed one,
and of the assessed level unless it lies right at a bound between two levels. -/
structure Assesses (config : Config) (op : Operation) (a : Assessment) (s : Rat) : Prop where
  assessed : assess config op = .ok a
  exact : exactScore? config op = .ok s
  near : ∃ v, Denotes a.score v ∧ |v - s| ≤ 1 / 10 ^ 6
  above : (Level.ofScore (s - 1 / 10 ^ 10)).rank ≤ a.overall.rank
  below : a.overall.rank ≤ (Level.ofScore (s + 1 / 10 ^ 10)).rank

/-- When an operation is assessed, and its score and level. -/
theorem exists_level {a : Assessment} (h : assess config op = .ok a) :
    ∃ level, volatilityLevel? config op = .ok level ∧
      a.score = roundTo 6 (score (listed Float config op (leverageFactors Float op) level) op) ∧
      a.overall = Level.ofScore (score (listed Float config op (leverageFactors Float op) level) op) := by
  replace h := (mapError_eq_ok_iff _ _ _).1 h
  unfold assess? at h
  rw [factors_eq] at h
  cases found : volatilityLevel? config op with
  | error fault =>
    rw [found] at h
    cases h
  | ok level =>
    rw [found] at h
    cases h
    exact ⟨level, rfl, rfl, rfl⟩

theorem exists_assess (h : volatilityLevel? config op = .ok level) : ∃ a, assess config op = .ok a := by
  unfold assess assess?
  rw [factors_eq, h]
  exact ⟨_, rfl⟩

/-- The market is all that can be at fault. -/
theorem assess?_of_error {fault : Fault} (h : volatilityLevel? config op = .error fault) :
    assess? config op = .error fault := by
  unfold assess?
  rw [factors_eq, h]
  rfl

/-- Whether an operation is assessed depends on the market alone. -/
theorem assess_eq_error_congr {op op' : Operation}
    (same : volatilityLevel? config op = volatilityLevel? config op')
    (operation : op.operation = op'.operation) (failure : Failure) :
    assess config op = .error failure ↔ assess config op' = .error failure := by
  cases found : volatilityLevel? config op' with
  | error fault =>
    unfold assess
    rw [assess?_of_error (same.trans found), assess?_of_error found, operation]
  | ok level =>
    obtain ⟨a, assessed⟩ := exists_assess (same.trans found)
    obtain ⟨a', assessed'⟩ := exists_assess found
    rw [assessed, assessed']
    exact iff_of_false nofun nofun

/-- The level of a calculated score. -/
theorem rank_ofScore_near {n : Nat} {x : Float} {v : Rat} (h : Approximates n x v) (few : n ≤ 64)
    (le_one : v ≤ 1) :
    (Level.ofScore (v - 1 / 10 ^ 10)).rank ≤ (Level.ofScore x).rank ∧
      (Level.ofScore x).rank ≤ (Level.ofScore (v + 1 / 10 ^ 10)).rank := by
  have nonneg := h.nonneg
  obtain ⟨w, denotes, near⟩ := h
  have close := abs_le.1 (near.abs_sub_le few nonneg le_one)
  have bound (n : Nat) (pos : 0 < n) (le : n ≤ 8) : ∃ b, Denotes (Scale.decimal n 1) b ∧
      |b - Scale.decimal n 1| ≤ 1 / 10 ^ 12 := by
    obtain ⟨b, denotes, near⟩ := Approximates.tenths pos (le.trans (by decide))
    have le' : (n : Rat) ≤ 8 := by exact_mod_cast le
    refine ⟨b, denotes, near.abs_sub_le (by decide) ?_ ?_⟩
    · rw [Scale.decimal_eq]
      positivity
    · rw [Scale.decimal_eq, pow_one]
      linarith
  constructor
  · refine Level.rank_ofScore_le fun n pos le below => ?_
    obtain ⟨b, denotes', close'⟩ := bound n pos le
    have := (denotes.le_iff denotes').1 below
    have := abs_le.1 close'
    linarith
  · refine Level.rank_ofScore_le fun n pos le below => ?_
    obtain ⟨b, denotes', close'⟩ := bound n pos le
    have := abs_le.1 close'
    exact (denotes.le_iff denotes').2 (by linarith)

/-- Every assessment has an exact score. -/
theorem assesses_of_level {a : Assessment} (sound : config.IsSound) (h : assess config op = .ok a)
    (found : volatilityLevel? config op = .ok level) :
    Assesses config op a (score (listed Rat config op (leverageFactors Rat op) level) op) := by
  obtain ⟨level', found', score_eq', overall_eq⟩ := exists_level h
  obtain rfl : level = level' := Except.ok.inj (found.symm.trans found')
  have calculated := approximates_score op sound (ne_of_volatilityLevel? found)
  have le_one : score (listed Rat config op (leverageFactors Rat op) level) op ≤ 1 := by
    rw [score_eq]
    exact min_le_left _ _
  obtain ⟨above, below⟩ := rank_ofScore_near calculated (by decide) le_one
  rw [← overall_eq] at above below
  refine ⟨h, ?_, ?_, above, below⟩
  · rw [exactScore?_eq, found]
    rfl
  · rw [score_eq']
    exact calculated.exists_roundTo_near (by decide) le_one

end Teller.Risk
