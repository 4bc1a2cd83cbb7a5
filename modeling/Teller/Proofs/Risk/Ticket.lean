import Teller.Proofs.Risk.Range

/-!
# Larger amounts

A larger amount adds factors to an operation, or raises their levels. Its mass grows, and the score
is an average: it falls if what is added scores less than the average so far. No guard prevents
that, as one does for leverage.

    Grows                        what a larger amount does to the factors
    grows_listed                 what it does to those of an operation
    levered_le_iff               when the greater average does not fall
    larger_amount_le_iff         when the score does not fall
    larger_amount_lowers         where it does
-/

namespace Teller.Risk

open Teller.Number

variable {config : Config} {op : Operation} {level : Option Level} {a a' : Float}

/-! ## Factors of larger amounts -/

theorem Level.score_medium : Level.medium.score Rat = 1 / 2 := by
  rw [score_eq]
  norm_num [rank]

theorem Level.score_high : Level.high.score Rat = 7 / 10 := by
  rw [score_eq]
  norm_num [rank]

/-- Factors that have grown: none is dropped, and what is added to the mass has at least a medium
level. If no factor is added, it has the highest level at least. -/
structure Grows (fs fs' : List (Factor Rat)) : Prop where
  length : fs.length ≤ fs'.length
  mass : mass fs ≤ mass fs'
  medium : 1 / 2 * (Risk.mass fs' - Risk.mass fs) ≤ load fs' - load fs
  steep : fs.length = fs'.length → 9 / 10 * (Risk.mass fs' - Risk.mass fs) ≤ load fs' - load fs

namespace Grows

theorem refl (fs : List (Factor Rat)) : Grows fs fs where
  length := le_rfl
  mass := le_rfl
  medium := by rw [sub_self, sub_self, mul_zero]
  steep _ := by rw [sub_self, sub_self, mul_zero]

theorem append {fs fs' gs gs' : List (Factor Rat)} (h : Grows fs fs') (h' : Grows gs gs') :
    Grows (fs ++ gs) (fs' ++ gs') := by
  have length := h.length
  have length' := h'.length
  constructor
  · rw [List.length_append, List.length_append]
    omega
  · rw [mass_append, mass_append]
    exact add_le_add h.mass h'.mass
  · rw [mass_append, mass_append, load_append, load_append]
    linarith [h.medium, h'.medium]
  · intro same
    rw [List.length_append, List.length_append] at same
    rw [mass_append, mass_append, load_append, load_append]
    linarith [h.steep (by omega), h'.steep (by omega)]

theorem load_singleton (f : Factor Rat) : load [f] = f.level.score Rat * f.impact := by
  rw [load_cons, load_nil, add_zero]

theorem mass_singleton (f : Factor Rat) : Risk.mass [f] = f.impact := by
  rw [mass_cons, mass_nil, add_zero]

/-- A factor is added. -/
theorem added {f : Factor Rat} (impact : 0 ≤ f.impact) (medium : 1 / 2 ≤ f.level.score Rat) :
    Grows [] [f] := by
  have part := mul_le_mul_of_nonneg_right medium impact
  refine ⟨Nat.zero_le 1, ?_, ?_, nofun⟩
  · rw [mass_nil, mass_singleton]
    exact impact
  · rw [mass_nil, load_nil, mass_singleton, load_singleton]
    linarith

/-- The level of a factor has risen. -/
theorem risen {f f' : Factor Rat} (impact : f.impact ≤ f'.impact)
    (steep : 9 / 10 * (f'.impact - f.impact) ≤
      f'.level.score Rat * f'.impact - f.level.score Rat * f.impact) :
    Grows [f] [f'] := by
  refine ⟨le_rfl, ?_, ?_, fun _ => ?_⟩
  · rw [mass_singleton, mass_singleton]
    exact impact
  · rw [mass_singleton, mass_singleton, load_singleton, load_singleton]
    linarith
  · rw [mass_singleton, mass_singleton, load_singleton, load_singleton]
    exact steep

end Grows

/-- A larger amount is a larger part of the portfolio. -/
theorem exposure_lt {t p : Float} (ht : 0 < t) (ht' : t ≤ 1) (pos : 0 < a) (le : a ≤ a') (hp : 0 < p)
    (above : t < a / p) : t < a' / p := by
  have nonneg : 0 ≤ t := le_of_not_lt denotes_zero.not_isNaN (not_isNaN_of_lt ht).2
    fun neg => absurd (lt_trans ht neg) (by decide +kernel)
  obtain ⟨v, -, denotes⟩ := exists_denotes ht
    (isFinite_of_le_of_le (x := 0) (by decide +kernel) denotes_one.isFinite nonneg ht')
  have le_one : v ≤ 1 := (denotes.le_iff denotes_one).1 ht'
  exact denotes.lt_div_of_le (le_one.trans_lt (by norm_num)) pos le hp above

/-- A large part of a portfolio is a factor of high level, and a smaller one of medium level. -/
theorem exists_concentration {p : Float} (counts : op.portfolio? = some p) : ∃ high medium : Factor Rat,
    (high.level = .high ∧ high.impact = 8 / 10) ∧ (medium.level = .medium ∧ medium.impact = 4 / 10) ∧
    ∀ x, 0 < x → concentrationFactors Rat { op with amount := x } =
      if 0.5 < x / p then [high] else if 0.2 < x / p then [medium] else [] := by
  have eight : (Scale.decimal 8 1 : Rat) = 8 / 10 := by
    rw [Scale.decimal_eq]
    norm_num
  have four : (Scale.decimal 4 1 : Rat) = 4 / 10 := by
    rw [Scale.decimal_eq]
    norm_num
  refine ⟨⟨.concentration, .high, Scale.decimal 8 1, "High portfolio concentration risk",
      some "Diversify across multiple positions and assets"⟩,
    ⟨.concentration, .medium, Scale.decimal 4 1, "Moderate portfolio concentration", none⟩,
    ⟨rfl, eight⟩, ⟨rfl, four⟩, fun x pos => ?_⟩
  have portfolio : Operation.portfolio? { op with amount := x } = some p := counts
  unfold concentrationFactors
  rw [portfolio]
  dsimp only
  simp only [pos, decide_true, Bool.true_and, decide_eq_true_eq]

/-- The level of the concentration rises from none to medium and to high. -/
theorem concentrationFactors_grow (pos : 0 < a) (le : a ≤ a')
    (portfolio : ∀ p ∈ op.portfolioValue, 0 < p) :
    Grows (concentrationFactors Rat { op with amount := a })
      (concentrationFactors Rat { op with amount := a' }) := by
  cases counts : op.portfolio? with
  | none =>
    have none (x : Float) : concentrationFactors Rat { op with amount := x } = [] := by
      have portfolio : Operation.portfolio? { op with amount := x } = none := counts
      unfold concentrationFactors
      rw [portfolio]
    rw [none, none]
    exact .refl []
  | some p =>
    have value : 0 < p := portfolio p (Option.filter_eq_some_iff.1 counts).1
    have half : 0.5 < a / p → 0.5 < a' / p :=
      exposure_lt (by decide +kernel) (by decide +kernel) pos le value
    have fifth : 0.2 < a / p → 0.2 < a' / p :=
      exposure_lt (by decide +kernel) (by decide +kernel) pos le value
    obtain ⟨high, medium, ⟨high_level, high_impact⟩, ⟨medium_level, medium_impact⟩, factors⟩ :=
      exists_concentration counts
    have high_added : Grows [] [high] := by
      refine .added ?_ ?_
      · rw [high_impact]
        norm_num
      · rw [high_level, Level.score_high]
        norm_num
    have medium_added : Grows [] [medium] := by
      refine .added ?_ ?_
      · rw [medium_impact]
        norm_num
      · rw [medium_level, Level.score_medium]
    have risen : Grows [medium] [high] := by
      refine .risen ?_ ?_
      · rw [medium_impact, high_impact]
        norm_num
      · rw [medium_impact, high_impact, medium_level, high_level, Level.score_medium, Level.score_high]
        norm_num
    rw [factors a pos, factors a' (lt_of_lt_of_le pos le)]
    by_cases is_high : 0.5 < a / p
    · rw [if_pos is_high, if_pos (half is_high)]
      exact .refl _
    · rw [if_neg is_high]
      by_cases is_medium : 0.2 < a / p
      · rw [if_pos is_medium, if_pos (fifth is_medium)]
        split_ifs
        · exact risen
        · exact .refl _
      · rw [if_neg is_medium]
        split_ifs
        · exact high_added
        · exact medium_added
        · exact .refl _

/-- The level of the liquidity risk rises by one at most. -/
theorem liquidityFactors_grow (le : a ≤ a') :
    Grows (liquidityFactors Rat { op with amount := a })
      (liquidityFactors Rat { op with amount := a' }) := by
  have million : 1000000 < a → 1000000 < a' := fun above => lt_of_lt_of_le above le
  have thousands : 100000 < a → 100000 < a' := fun above => lt_of_lt_of_le above le
  have medium := Level.score_medium
  have high := Level.score_high
  unfold liquidityFactors Level.ofLiquidity
  dsimp only
  by_cases deep : (Text.lower op.protocol == "dragonswap" || Text.lower op.protocol == "symphony") = true
  · rw [if_pos deep, if_pos deep]
    by_cases large : 1000000 < a
    · rw [if_pos large, if_pos (million large)]
      exact .refl _
    · rw [if_neg large, if_pos rfl]
      by_cases large' : 1000000 < a'
      · rw [if_pos large', if_neg nofun]
        refine .added ?_ ?_
        · show 0 ≤ Level.medium.score Rat
          rw [medium]
          norm_num
        · exact medium.ge
      · rw [if_neg large', if_pos rfl]
        exact .refl _
  · rw [if_neg deep, if_neg deep]
    by_cases large : 100000 < a
    · rw [if_pos large, if_pos (thousands large)]
      exact .refl _
    · rw [if_neg large, if_neg nofun]
      by_cases large' : 100000 < a'
      · rw [if_pos large', if_neg nofun]
        refine .risen ?_ ?_
        · show Level.medium.score Rat ≤ Level.high.score Rat
          rw [medium, high]
          norm_num
        · show 9 / 10 * (Level.high.score Rat - Level.medium.score Rat) ≤
            Level.high.score Rat * Level.high.score Rat - Level.medium.score Rat * Level.medium.score Rat
          rw [medium, high]
          norm_num
      · rw [if_neg large', if_neg nofun]
        exact .refl _

/-- What a larger amount does to the factors of an operation. -/
theorem grows_listed (config : Config) (level : Option Level) (pos : 0 < a) (le : a ≤ a')
    (portfolio : ∀ p ∈ op.portfolioValue, 0 < p) (leverage : List (Factor Rat)) :
    Grows (listed Rat config { op with amount := a } leverage level)
      (listed Rat config { op with amount := a' } leverage level) := by
  have steady := Grows.refl (contractFactor Rat op :: operationFactor Rat op :: leverage)
  exact ((steady.append (concentrationFactors_grow pos le portfolio)).append
    (liquidityFactors_grow le)).append (.refl _)

/-! ## Averages -/

section Averages

variable {mass mass' s : Rat}

/-- The greater average does not fall exactly if what is added to the load is no less than this
average of what is added to the mass. -/
theorem levered_le_iff (load load' : Rat) (positive : 0 < mass) (nonneg : 0 ≤ s) (le : mass ≤ mass') :
    levered load mass s ≤ levered load' mass' s ↔
    levered load mass s * (mass' - mass) ≤ load' - load := by
  obtain ⟨b, hb⟩ : ∃ b, levered load mass s = b := ⟨_, rfl⟩
  have total : 0 < mass + s := by linarith
  have positive' : 0 < mass' := by linarith
  have total' : 0 < mass' + s := by linarith
  have plain : load ≤ b * mass := (div_le_iff₀ positive).1 (hb ▸ le_max_right _ _)
  have with_leverage : load + s * s ≤ b * (mass + s) := (div_le_iff₀ total).1 (hb ▸ le_max_left _ _)
  rw [hb]
  constructor
  · intro kept
    by_contra! less
    -- then both averages are below the one before
    refine absurd kept (not_le.2 (max_lt ?_ ?_))
    · rw [div_lt_iff₀ total']
      linarith
    · rw [div_lt_iff₀ positive']
      linarith
  · intro added
    rcases max_choice ((load + s * s) / (mass + s)) (load / mass) with one | other
    · refine le_max_of_le_left ?_
      have average : b * (mass + s) = load + s * s := by
        rw [← hb, levered, one, div_mul_cancel₀ _ total.ne']
      rw [le_div_iff₀ total']
      linarith
    · refine le_max_of_le_right ?_
      have average : b * mass = load := by
        rw [← hb, levered, other, div_mul_cancel₀ _ positive.ne']
      rw [le_div_iff₀ positive']
      linarith

/-- A capped multiple does not fall exactly if the number does not, or the cap is reached. -/
theorem min_one_mul_le_iff {x y m : Rat} (one_le : 1 ≤ m) :
    min 1 (x * m) ≤ min 1 (y * m) ↔ x ≤ y ∨ min 1 (y * m) = 1 := by
  have positive : 0 < m := by linarith
  constructor
  · intro le
    by_contra! h
    obtain ⟨less, below⟩ := h
    have uncapped : y * m < 1 := by
      by_contra! reached
      exact below (min_eq_left reached)
    rw [min_eq_right uncapped.le] at le
    exact absurd le (not_le.2 (lt_min uncapped (mul_lt_mul_of_pos_right less positive)))
  · rintro (le | reached)
    · exact min_le_min le_rfl (mul_le_mul_of_nonneg_right le positive.le)
    · rw [reached]
      exact min_le_left _ _

end Averages

/-! ## Scores -/

/-- The exact score of an operation whose other factors have grown. -/
theorem score_le_iff {op op' : Operation} (sound : config.IsSound) (above : ∀ l ∈ level, l ≠ .veryLow)
    (grown : Grows (listed Rat config op [] level) (listed Rat config op' [] level))
    (leverage : leverageFactors Rat op = leverageFactors Rat op')
    (raised : multiplier op = multiplier op')
    {fs fs' : List (Factor Rat)} (hfs : fs = listed Rat config op (leverageFactors Rat op) level)
    (hfs' : fs' = listed Rat config op' (leverageFactors Rat op') level) :
    score fs op ≤ score fs' op' ↔
      base fs * (Risk.mass fs' - Risk.mass fs) ≤ Risk.load fs' - Risk.load fs ∨ score fs' op' = 1 := by
  have same : leverageScore op = leverageScore op' := by
    rw [← mass_leverageFactors, ← mass_leverageFactors, leverage]
  have compared :=
    levered_le_iff (Risk.load (listed Rat config op [] level))
      (Risk.load (listed Rat config op' [] level))
    (mass_listed_pos op sound .nil above) (leverageScore_nonneg op) grown.mass
  rw [← base_listed op sound above, same, ← base_listed op' sound above, ← hfs, ← hfs'] at compared
  have mass_eq : Risk.mass fs' - Risk.mass fs =
      Risk.mass (listed Rat config op' [] level) - Risk.mass (listed Rat config op [] level) := by
    rw [hfs, hfs', mass_listed, mass_listed (leverageFactors Rat op), leverage]
    ring
  have load_eq : Risk.load fs' - Risk.load fs =
      Risk.load (listed Rat config op' [] level) - Risk.load (listed Rat config op [] level) := by
    rw [hfs, hfs', load_listed, load_listed (leverageFactors Rat op), leverage]
    ring
  rw [score_eq, score_eq, ← raised, min_one_mul_le_iff (one_le_multiplier op), mass_eq, load_eq, compared]

/-- Of two operations that differ in their amounts only, both are assessed or none. The exact score
is lower for the larger amount exactly if what that adds to the mass scores less than the average so
far, and the cap is not reached: never if no factor is added, or if the average is that of a medium
level at most. -/
theorem larger_amount_le_iff (sound : config.IsSound) (op : Operation) (pos : 0 < a) (le : a ≤ a')
    (portfolio : ∀ p ∈ op.portfolioValue, 0 < p) :
    (∀ failure, assess config { op with amount := a } = .error failure ↔
      assess config { op with amount := a' } = .error failure) ∧
    ∀ r, assess config { op with amount := a } = .ok r → ∃ r' s s' fs fs',
      Assesses config { op with amount := a } r s ∧ Assesses config { op with amount := a' } r' s' ∧
      factors Rat config { op with amount := a } = .ok fs ∧
      factors Rat config { op with amount := a' } = .ok fs' ∧
      (s ≤ s' ↔ base fs * (mass fs' - mass fs) ≤ load fs' - load fs ∨ s' = 1) ∧
      (fs.length = fs'.length → s ≤ s') ∧ (base fs ≤ 1 / 2 → s ≤ s') := by
  refine ⟨assess_eq_error_congr rfl rfl, fun r assessed => ?_⟩
  obtain ⟨level, found, -⟩ := exists_level assessed
  obtain ⟨r', assessed'⟩ : ∃ r', assess config { op with amount := a' } = .ok r' := exists_assess found
  have above := ne_of_volatilityLevel? found
  have listed_eq (x : Float) : factors Rat config { op with amount := x } =
      .ok (listed Rat config { op with amount := x } (leverageFactors Rat op) level) := by
    rw [factors_eq, show volatilityLevel? config { op with amount := x } = .ok level from found]
    rfl
  have grown := grows_listed config level pos le portfolio (leverageFactors Rat op)
  have compared :=
    score_le_iff sound above (grows_listed config level pos le portfolio []) rfl rfl rfl rfl
  have average := base_le { op with amount := a } sound above
  refine ⟨r', _, _, _, _, assesses_of_level sound assessed found, assesses_of_level sound assessed' found,
    listed_eq a, listed_eq a', compared, fun same => ?_, fun half => ?_⟩
  · exact compared.2
      (.inl ((mul_le_mul_of_nonneg_right average (sub_nonneg.2 grown.mass)).trans (grown.steep same)))
  · exact compared.2
      (.inl ((mul_le_mul_of_nonneg_right half (sub_nonneg.2 grown.mass)).trans grown.medium))

/-- A swap that takes a tenth of a portfolio, or three tenths. -/
def portfolioSwap : Operation := { deepSwap with portfolioValue := some 10000 }

/-- A swap scores less than the concentration that a larger amount adds to it. -/
theorem portfolioSwap_le :
    (({} : Config).IsSound ∧ (0 : Float) < 1000 ∧ (1000 : Float) ≤ 3000 ∧
      ∀ p ∈ portfolioSwap.portfolioValue, 0 < p) ∧
    ∃ r r' s s', Assesses {} { portfolioSwap with amount := 1000 } r s ∧
      Assesses {} { portfolioSwap with amount := 3000 } r' s' ∧ s ≤ s' := by
  have pos : (0 : Float) < 1000 := by decide +kernel
  have le : (1000 : Float) ≤ 3000 := by decide +kernel
  have portfolio : ∀ p ∈ portfolioSwap.portfolioValue, 0 < p := by
    rintro p ⟨⟩
    decide +kernel
  refine ⟨⟨isSound_default, pos, le, portfolio⟩, ?_⟩
  obtain ⟨r, assessed⟩ :=
    exists_assess (show volatilityLevel? {} { portfolioSwap with amount := 1000 } = .ok none from rfl)
  obtain ⟨r', s, s', fs, fs', assesses, assesses', listed, -, -, -, half⟩ :=
    (larger_amount_le_iff isSound_default portfolioSwap pos le portfolio).2 r assessed
  have low : (factors Rat {} { portfolioSwap with amount := 1000 }).toOption.any
      fun fs => base fs ≤ 1 / 2 := by
    decide +kernel
  rw [listed] at low
  exact ⟨r, r', s, s', assesses, assesses', half (of_decide_eq_true low)⟩

/-- Options at an experimental venue for a beginner with a portfolio. -/
def riskyOptions : Operation :=
  { amount := 1000, protocol := "experimental", operation := "options", portfolioValue := some 10000
    profile := some { tolerance := .high, capacity := 0.5, horizon := .short, experience := .beginner } }

/-- Three times the amount is assessed to be less risky: what it adds is a moderate concentration.
-/
theorem larger_amount_lowers :
    (({} : Config).IsSound ∧ 0 < riskyOptions.amount ∧ riskyOptions.amount ≤ 3000 ∧
      ∀ p ∈ riskyOptions.portfolioValue, 0 < p) ∧
    ∃ r r', assess {} riskyOptions = .ok r ∧ assess {} { riskyOptions with amount := 3000 } = .ok r' ∧
      r'.score < r.score ∧ r.overall = .veryHigh ∧ r'.overall = .high := by
  have assessed : (assess {} riskyOptions).toOption.any
      fun r => 0.8 < r.score && r.overall = .veryHigh := by
    decide +kernel
  have assessed' : (assess {} { riskyOptions with amount := 3000 }).toOption.any
      fun r => r.score < 0.8 && r.overall = .high := by
    decide +kernel
  obtain ⟨r, h, found⟩ := exists_eq_ok_of_any assessed
  obtain ⟨r', h', found'⟩ := exists_eq_ok_of_any assessed'
  rw [Bool.and_eq_true, decide_eq_true_iff, decide_eq_true_iff] at found found'
  refine ⟨⟨isSound_default, by decide +kernel, by decide +kernel, ?_⟩, r, r', h, h',
    lt_trans found'.1 found.1, found.2, found'.2⟩
  rintro p ⟨⟩
  decide +kernel

end Teller.Risk
