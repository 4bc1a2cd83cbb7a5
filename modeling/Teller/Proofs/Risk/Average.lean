import Teller.Proofs.Number.Scales
import Teller.Risk.Assessment

/-!
# The score as an average

In exact arithmetic the score of an operation is its load, the sum of the levels' scores by their
impact, divided by its mass, the sum of the impacts. It is taken with and without the leverage, and
the greater average counts. Then it is raised for high leverage and for beginners, and capped at
one. An operation is listed with the same factors on every scale, so the exact score exists whenever
the operation is assessed.

    factors_eq                   the factors of an operation
    basics_match                 they are the same on every scale
    exactScore?                  the score in rational numbers
    weightedScore_eq             load by mass
    weightedScore_mem            averages lie between the scores of the lowest and of the highest level
    le_base, base_le             the greater average
    base_listed                  the average with and without leverage
    score_eq                     the capped score
-/

namespace Teller.Risk

open Teller.Number

variable {config : Config} {op : Operation} {level : Option Level}

/-! ## Factors -/

section Factors

variable (α β : Type) [Scale α] [Scale β]

/-- The level of the volatility, if it is stated and counted. -/
def volatilityLevel? (config : Config) (op : Operation) : Except Fault (Option Level) :=
  if config.dynamic then op.volatility?.map fun volatility => volatility.map (volatilityLevel config)
  else .ok none

def volatilityFactor (config : Config) (level : Level) : Factor α :=
  { topic := .volatility
    level
    impact := Scale.ofFloat config.volatilityWeight
    description := s!"Market volatility is {level.words}"
    mitigation := if level.isSevere then some "Use tighter slippage and smaller tickets" else none }

/-- The factors of an operation other than volatility, with these ones for its leverage. -/
def basics (op : Operation) (leverage : List (Factor α)) : List (Factor α) :=
  contractFactor α op :: operationFactor α op :: leverage ++ concentrationFactors α op ++
    liquidityFactors α op

/-- The factors of an operation in a market of this volatility. -/
def listed (config : Config) (op : Operation) (leverage : List (Factor α)) (level : Option Level) :
    List (Factor α) :=
  basics α op leverage ++ level.toList.map (volatilityFactor α config)

theorem volatilityFactors_eq : volatilityFactors α config op =
    (volatilityLevel? config op).map fun level => level.toList.map (volatilityFactor α config) := by
  unfold volatilityFactors volatilityLevel?
  cases config.dynamic with
  | false => rfl
  | true =>
    cases op.volatility? with
    | error fault => rfl
    | ok volatility => cases volatility <;> rfl

/-- The factors of an operation. -/
theorem factors_eq : factors α config op =
    (volatilityLevel? config op).map (listed α config op (leverageFactors α op)) := by
  unfold factors
  rw [volatilityFactors_eq]
  cases volatilityLevel? config op <;> rfl

variable {α β}

/-- Factors of one topic and level, at least low, and with the same number of tenths as impact. -/
structure Factor.Matches (f : Factor α) (g : Factor β) : Prop where
  topic : f.topic = g.topic
  level : f.level = g.level
  above : f.level ≠ .veryLow
  impact : ∃ n, 3 ≤ n ∧ n ≤ 9 ∧ f.impact = Scale.decimal n 1 ∧ g.impact = Scale.decimal n 1

/-- A level has a score of one tenth and two more for each lower level. -/
theorem Level.score_eq_decimal (level : Level) :
    level.score α = Scale.decimal (2 * level.rank + 1) 1 := by
  cases level <;> rfl

theorem Level.tenths_bounds {level : Level} (above : level ≠ .veryLow) :
    3 ≤ 2 * level.rank + 1 ∧ 2 * level.rank + 1 ≤ 9 := by
  cases level with
  | veryLow => exact absurd rfl above
  | low | medium | high | veryHigh => decide

/-- Factors that weigh as much as their level. -/
theorem Factor.matches_of_score {f : Factor α} {g : Factor β} (topic : f.topic = g.topic)
    (level : f.level = g.level) (above : f.level ≠ .veryLow) (impact : f.impact = f.level.score α)
    (impact' : g.impact = g.level.score β) : f.Matches g := by
  obtain ⟨least, most⟩ := Level.tenths_bounds above
  rw [Level.score_eq_decimal] at impact impact'
  rw [← level] at impact'
  exact ⟨topic, level, above, _, least, most, impact, impact'⟩

/-- What a table without a level says is not this level. -/
theorem Level.getD_lookup_ne {table : List (String × Level)} {other level : Level}
    (absent : ∀ entry ∈ table, entry.2 ≠ level) (ne : other ≠ level) (name : String) :
    (table.lookup name).getD other ≠ level := by
  cases found : table.lookup name with
  | none => exact ne
  | some judged =>
    obtain ⟨before, after, rfl, -⟩ := List.lookup_eq_some_iff.1 found
    exact absent (name, judged) (List.mem_append_right _ List.mem_cons_self)

theorem Level.ofProtocol_ne (protocol : String) : ofProtocol protocol ≠ .veryLow :=
  getD_lookup_ne (by decide) (by decide) protocol

theorem Level.ofOperation_ne (operation : String) : ofOperation operation ≠ .veryLow :=
  getD_lookup_ne (by decide) (by decide) operation

theorem Level.ofLeverage_ne (leverage : Float) : ofLeverage leverage ≠ .veryLow := by
  unfold ofLeverage
  split_ifs <;> decide

theorem Level.ofLiquidity_ne (protocol : String) (amount : Float) :
    ofLiquidity protocol amount ≠ .veryLow := by
  unfold ofLiquidity
  split_ifs <;> decide

theorem volatilityLevel_ne (config : Config) (volatility : Float) :
    volatilityLevel config volatility ≠ .veryLow := by
  unfold volatilityLevel
  split_ifs <;> decide

theorem leverageFactors_match (op : Operation) :
    List.Forall₂ Factor.Matches (leverageFactors α op) (leverageFactors β op) := by
  unfold leverageFactors
  cases op.levered? with
  | none => exact .nil
  | some leverage => exact .cons (Factor.matches_of_score rfl rfl (Level.ofLeverage_ne _) rfl rfl) .nil

theorem concentrationFactors_match (op : Operation) :
    List.Forall₂ Factor.Matches (concentrationFactors α op) (concentrationFactors β op) := by
  unfold concentrationFactors
  cases op.portfolio? with
  | none => exact .nil
  | some portfolio =>
    dsimp only
    split_ifs with high medium
    · exact .cons ⟨rfl, rfl, nofun, 8, by decide, by decide, rfl, rfl⟩ .nil
    · exact .cons ⟨rfl, rfl, nofun, 4, by decide, by decide, rfl, rfl⟩ .nil
    · exact .nil

theorem liquidityFactors_match (op : Operation) :
    List.Forall₂ Factor.Matches (liquidityFactors α op) (liquidityFactors β op) := by
  unfold liquidityFactors
  dsimp only
  split_ifs with low
  · exact .nil
  · exact .cons (Factor.matches_of_score rfl rfl (Level.ofLiquidity_ne _ _) rfl rfl) .nil

/-- An operation has the same factors on every scale. -/
theorem basics_match (op : Operation) {leverage : List (Factor α)} {leverage' : List (Factor β)}
    (h : List.Forall₂ Factor.Matches leverage leverage') :
    List.Forall₂ Factor.Matches (basics α op leverage) (basics β op leverage') := by
  have contract : (contractFactor α op).Matches (contractFactor β op) :=
    Factor.matches_of_score rfl rfl (Level.ofProtocol_ne _) rfl rfl
  have operation : (operationFactor α op).Matches (operationFactor β op) :=
    Factor.matches_of_score rfl rfl (Level.ofOperation_ne _) rfl rfl
  exact List.rel_append
    (List.rel_append (.cons contract (.cons operation h)) (concentrationFactors_match op))
    (liquidityFactors_match op)

/-- The factors for leverage are dropped from the list, and no others. -/
theorem filter_listed {leverage : List (Factor α)} (market : ∀ f ∈ leverage, f.topic = .market) :
    (listed α config op leverage level).filter (·.topic != .market) = listed α config op [] level := by
  have dropped : leverage.filter (·.topic != .market) = [] := by
    refine List.filter_eq_nil_iff.2 fun f hf => ?_
    rw [market f hf]
    decide
  have concentration : (concentrationFactors α op).filter (·.topic != .market) =
      concentrationFactors α op := by
    unfold concentrationFactors
    cases op.portfolio? with
    | none => rfl
    | some portfolio =>
      dsimp only
      split_ifs <;> rfl
  have liquidity : (liquidityFactors α op).filter (·.topic != .market) = liquidityFactors α op := by
    unfold liquidityFactors
    dsimp only
    split_ifs <;> rfl
  have volatility : (level.toList.map (volatilityFactor α config)).filter (·.topic != .market) =
      level.toList.map (volatilityFactor α config) := by
    cases level <;> rfl
  unfold listed basics
  rw [List.filter_append, List.filter_append, List.filter_append, concentration, liquidity, volatility]
  show contractFactor α op :: operationFactor α op :: leverage.filter _ ++ _ ++ _ ++ _ = _
  rw [dropped]

theorem topic_of_mem_leverageFactors {f : Factor α} (h : f ∈ leverageFactors α op) :
    f.topic = .market := by
  unfold leverageFactors at h
  split at h
  · rw [List.mem_singleton.1 h]
  · cases h

end Factors

/-! ## Load and mass -/

/-- The impacts of factors together. -/
def mass (factors : List (Factor Rat)) : Rat := (factors.map (·.impact)).sum

/-- The scores of the levels, each by its impact. -/
def load (factors : List (Factor Rat)) : Rat := (factors.map fun f => f.level.score Rat * f.impact).sum

variable {f : Factor Rat} {fs gs : List (Factor Rat)}

@[simp] theorem mass_nil : mass [] = 0 := rfl

@[simp] theorem load_nil : load [] = 0 := rfl

@[simp] theorem mass_cons : mass (f :: fs) = f.impact + mass fs := List.sum_cons

@[simp] theorem load_cons : load (f :: fs) = f.level.score Rat * f.impact + load fs := List.sum_cons

@[simp] theorem mass_append : mass (fs ++ gs) = mass fs + mass gs := by
  rw [mass, List.map_append, List.sum_append]
  rfl

@[simp] theorem load_append : load (fs ++ gs) = load fs + load gs := by
  rw [load, List.map_append, List.sum_append]
  rfl

/-- A weighted score is load by mass. -/
theorem weightedScore_eq (positive : 0 < mass fs) : weightedScore fs = load fs / mass fs := by
  have mass_eq : Scale.sum (fs.map (·.impact)) = mass fs := Scale.sum_eq _
  have load_eq : Scale.sum (fs.map fun f => f.level.score Rat * f.impact) = load fs := Scale.sum_eq _
  unfold weightedScore
  dsimp only
  rw [mass_eq]
  exact (if_neg positive.not_ge).trans (congrArg (· / mass fs) load_eq)

theorem Level.score_eq (level : Level) : level.score Rat = (2 * level.rank + 1) / 10 := by
  rw [score_eq_decimal, Scale.decimal_eq, pow_one]
  push_cast
  rfl

theorem Level.score_bounds {level : Level} (above : level ≠ .veryLow) :
    3 / 10 ≤ level.score Rat ∧ level.score Rat ≤ 9 / 10 := by
  rw [score_eq]
  cases level with
  | veryLow => exact absurd rfl above
  | low | medium | high | veryHigh => norm_num [rank]

/-- A factor that counts in an average: its impact is not negative, and its level not very low. -/
structure Factor.IsWeighed (f : Factor Rat) : Prop where
  impact : 0 ≤ f.impact
  level : f.level ≠ .veryLow

/-- The load lies between the mass at the lowest level and at the highest one. -/
theorem load_bounds (weighed : ∀ f ∈ fs, f.IsWeighed) : 0 ≤ mass fs ∧
    3 / 10 * mass fs ≤ load fs ∧ load fs ≤ 9 / 10 * mass fs := by
  induction fs with
  | nil => simp
  | cons f fs ih =>
    obtain ⟨nonneg, least, most⟩ := ih fun g hg => weighed g (List.mem_cons_of_mem _ hg)
    obtain ⟨impact, above⟩ := weighed f List.mem_cons_self
    obtain ⟨low, high⟩ := Level.score_bounds above
    have low' := mul_le_mul_of_nonneg_right low impact
    have high' := mul_le_mul_of_nonneg_right high impact
    rw [mass_cons, load_cons]
    exact ⟨by linarith, by linarith, by linarith⟩

/-- Averages lie between the scores of the lowest and of the highest level. -/
theorem weightedScore_mem (weighed : ∀ f ∈ fs, f.IsWeighed) (positive : 0 < mass fs) :
    3 / 10 ≤ weightedScore fs ∧ weightedScore fs ≤ 9 / 10 := by
  obtain ⟨-, least, most⟩ := load_bounds weighed
  rw [weightedScore_eq positive, le_div_iff₀ positive, div_le_iff₀ positive]
  exact ⟨least, most⟩

/-- The weight of volatility is a finite number and not negative. -/
structure Config.IsSound (config : Config) : Prop where
  finite : config.volatilityWeight.isFinite = true
  nonneg : 0 ≤ config.volatilityWeight

theorem isWeighed_volatilityFactor {level : Level} (sound : config.IsSound) (above : level ≠ .veryLow) :
    (volatilityFactor Rat config level).IsWeighed :=
  ⟨exactValue_nonneg sound.nonneg, above⟩

theorem isWeighed_of_matches (h : f.Matches f) : f.IsWeighed := by
  obtain ⟨n, -, -, impact, -⟩ := h.impact
  refine ⟨?_, h.above⟩
  rw [impact, Scale.decimal_eq]
  positivity

/-- The level of the volatility is never very low. -/
theorem ne_of_volatilityLevel? (h : volatilityLevel? config op = .ok level) :
    ∀ l ∈ level, l ≠ .veryLow := by
  unfold volatilityLevel? at h
  split at h
  · cases found : op.volatility? with
    | error fault =>
      rw [found] at h
      cases h
    | ok volatility =>
      rw [found] at h
      cases h
      rintro l hl
      obtain ⟨v, -, rfl⟩ := Option.map_eq_some_iff.1 hl
      exact volatilityLevel_ne config v
  · cases h
    rintro l ⟨⟩

/-- Every factor of an operation counts. -/
theorem isWeighed_listed (op : Operation) {leverage : List (Factor Rat)} (sound : config.IsSound)
    (h : List.Forall₂ Factor.Matches leverage leverage) (above : ∀ l ∈ level, l ≠ .veryLow) :
    ∀ f ∈ listed Rat config op leverage level, f.IsWeighed := by
  intro f hf
  rcases List.mem_append.1 hf with basic | volatile
  · exact isWeighed_of_matches (List.forall₂_same.1 (basics_match op h) f basic)
  · obtain ⟨l, hl, rfl⟩ := List.mem_map.1 volatile
    exact isWeighed_volatilityFactor sound (above l (Option.mem_toList.1 hl))

/-- The contract alone has an impact. -/
theorem mass_listed_pos (op : Operation) {leverage : List (Factor Rat)} (sound : config.IsSound)
    (h : List.Forall₂ Factor.Matches leverage leverage) (above : ∀ l ∈ level, l ≠ .veryLow) :
    0 < mass (listed Rat config op leverage level) := by
  have weighed := isWeighed_listed op sound h above
  obtain ⟨rest, split⟩ : ∃ rest,
    listed Rat config op leverage level = contractFactor Rat op :: rest := ⟨_, rfl⟩
  rw [split] at weighed ⊢
  have impact : 3 / 10 ≤ (contractFactor Rat op).impact := (Level.score_bounds (Level.ofProtocol_ne _)).1
  have nonneg := (load_bounds fun f hf => weighed f (List.mem_cons_of_mem _ hf)).1
  rw [mass_cons]
  linarith

/-! ## The score -/

/-- The greater average, with and without the leverage. -/
def base (fs : List (Factor Rat)) : Rat :=
  max (weightedScore fs) (weightedScore (fs.filter (·.topic != .market)))

/-- No average is below the score of a low level. -/
theorem le_base (op : Operation) (sound : config.IsSound) (above : ∀ l ∈ level, l ≠ .veryLow) :
    3 / 10 ≤ base (listed Rat config op (leverageFactors Rat op) level) := by
  have weighed := leverageFactors_match (α := Rat) (β := Rat) op
  exact (weightedScore_mem (isWeighed_listed op sound weighed above)
    (mass_listed_pos op sound weighed above)).1.trans (le_max_left _ _)

/-- Nor above that of a very high level. -/
theorem base_le (op : Operation) (sound : config.IsSound) (above : ∀ l ∈ level, l ≠ .veryLow) :
    base (listed Rat config op (leverageFactors Rat op) level) ≤ 9 / 10 := by
  have weighed := leverageFactors_match (α := Rat) (β := Rat) op
  refine max_le (weightedScore_mem (isWeighed_listed op sound weighed above)
    (mass_listed_pos op sound weighed above)).2 ?_
  rw [filter_listed fun f => topic_of_mem_leverageFactors]
  exact (weightedScore_mem (isWeighed_listed op sound .nil above) (mass_listed_pos op sound .nil above)).2

/-- What the average is raised by: for high leverage and for beginners. -/
def multiplier (op : Operation) : Rat :=
  (if op.leverage.any (3 < ·) then 12 / 10 else 1) * if op.isBeginners then 11 / 10 else 1

/-- The capped score. -/
theorem score_eq (fs : List (Factor Rat)) (op : Operation) :
    score fs op = min 1 (base fs * multiplier op) := by
  have tenths (n : Nat) : (Scale.decimal n 1 : Rat) = n / 10 := by rw [Scale.decimal_eq, pow_one]
  have raw : rawScore fs op = base fs * multiplier op := by
    unfold rawScore base multiplier
    dsimp only
    rw [Scale.greater_eq_max, tenths, tenths, ← mul_assoc, mul_ite, mul_one, mul_ite, mul_one]
    rfl
  rw [score, Scale.atMost_eq_min, Scale.one_eq, raw]

theorem one_le_multiplier (op : Operation) : 1 ≤ multiplier op := by
  unfold multiplier
  split_ifs <;> norm_num

/-- The score of the leverage, zero without any. -/
def leverageScore (op : Operation) : Rat :=
  (op.levered?.map fun leverage => (Level.ofLeverage leverage).score Rat).getD 0

theorem leverageScore_nonneg (op : Operation) : 0 ≤ leverageScore op := by
  unfold leverageScore
  cases op.levered? with
  | none => exact le_rfl
  | some leverage =>
    exact (by norm_num : (0 : Rat) ≤ 3 / 10).trans (Level.score_bounds (Level.ofLeverage_ne _)).1

/-- The greater average of factors of this load and mass, with a leverage of score `s` and without
it. -/
def levered (load mass s : Rat) : Rat := max ((load + s * s) / (mass + s)) (load / mass)

theorem mass_listed (leverage : List (Factor Rat)) :
    mass (listed Rat config op leverage level) =
      mass (listed Rat config op [] level) + mass leverage := by
  unfold listed basics
  simp only [mass_append, mass_cons, mass_nil]
  ring

theorem load_listed (leverage : List (Factor Rat)) :
    load (listed Rat config op leverage level) =
      load (listed Rat config op [] level) + load leverage := by
  unfold listed basics
  simp only [load_append, load_cons, load_nil]
  ring

theorem mass_leverageFactors (op : Operation) : mass (leverageFactors Rat op) = leverageScore op := by
  unfold leverageFactors leverageScore
  cases op.levered? with
  | none => rfl
  | some leverage => exact add_zero _

theorem load_leverageFactors (op : Operation) :
    load (leverageFactors Rat op) = leverageScore op * leverageScore op := by
  unfold leverageFactors leverageScore
  cases op.levered? with
  | none => exact (mul_zero 0).symm
  | some leverage => exact add_zero _

/-- The average with and without leverage. -/
theorem base_listed (op : Operation) (sound : config.IsSound) (above : ∀ l ∈ level, l ≠ .veryLow) :
    base (listed Rat config op (leverageFactors Rat op) level) =
      levered (load (listed Rat config op [] level)) (mass (listed Rat config op [] level))
        (leverageScore op) := by
  have positive := mass_listed_pos op sound (leverageFactors_match op) above
  have positive' := mass_listed_pos op sound .nil above
  unfold base levered
  rw [filter_listed fun f => topic_of_mem_leverageFactors, weightedScore_eq positive,
    weightedScore_eq positive',
    mass_listed, load_listed, mass_leverageFactors, load_leverageFactors]

/-- The score of an operation in rational numbers. -/
def exactScore? (config : Config) (op : Operation) : Except Fault Rat := do
  let factors ← factors Rat config op
  return score factors op

/-- When an operation has an exact score, and which one. -/
theorem exactScore?_eq : exactScore? config op = (volatilityLevel? config op).map fun level =>
    score (listed Rat config op (leverageFactors Rat op) level) op := by
  unfold exactScore?
  rw [factors_eq]
  cases volatilityLevel? config op <;> rfl

end Teller.Risk
