import Teller.Listing
import Teller.Number.Conversion
import Teller.Risk.Profile

/-!
# Risk assessment

An operation is assessed by factors, each with a level and a weight. The score is the weighted
average of the scores of the levels, raised for high leverage and for beginners, and never above
one. A mild leverage does not lower it: the average without the leverage is a lower bound.
-/

namespace Teller.Risk

open Teller.Number

/-- Bounds between levels of volatility, and the weight of volatility. -/
structure Config where
  conservative : Float := 0.3
  moderate : Float := 0.6
  aggressive : Float := 0.8
  dynamic : Bool := true
  volatilityWeight : Float := 0.2

/-- An operation that is to be assessed. Market conditions are free in form. -/
structure Operation where
  amount : Float
  protocol : String
  operation : String
  leverage : Option Float := none
  profile : Option Profile := none
  market : Option (List (String × Document)) := none
  portfolioValue : Option Float := none

/-- What a factor of risk is about. -/
inductive Topic where
  | smartContract | operational | market | concentration | liquidity | volatility
  deriving DecidableEq, Repr

def Topic.name : Topic → String
  | smartContract => "smart_contract"
  | operational => "operational"
  | market => "market"
  | concentration => "concentration"
  | liquidity => "liquidity"
  | volatility => "volatility"

structure Factor (α : Type) where
  topic : Topic
  level : Level
  impact : α
  description : String
  mitigation : Option String := none

/-- A leverage that counts: more than one. -/
def Operation.levered? (op : Operation) : Option Float := op.leverage.filter fun l => 1 < l

/-- The portfolio that the operation is compared with; one worth nothing is none. -/
def Operation.portfolio? (op : Operation) : Option Float := op.portfolioValue.filter (· != 0)

def Operation.isBeginners (op : Operation) : Bool :=
  op.profile.any (·.experience == .beginner)

/-- The stated volatility of the market, a number or the text of one. -/
def Operation.volatility? (op : Operation) : Except Fault (Option Float) :=
  match (Document.record (op.market.getD [])).get? "volatility" with
  | none | some .null => .ok none
  | some (.real x) => .ok (some x)
  | some (.whole n) => (Number.realOf n).map some
  | some (.flag b) => .ok (some (if b then 1 else 0))
  | some other => (Number.ofText other.plain).map some

def volatilityLevel (config : Config) (volatility : Float) : Level :=
  if volatility ≤ config.conservative then .low
  else if volatility ≤ config.moderate then .medium
  else if volatility ≤ config.aggressive then .high
  else .veryHigh

section Score

variable (α : Type) [Scale α]

/-- The risk of the protocol's contracts. -/
def contractFactor (op : Operation) : Factor α :=
  let level := Level.ofProtocol (Text.lower op.protocol)
  { topic := .smartContract
    level
    impact := level.score α
    description := s!"{op.protocol} protocol smart contract risk"
    mitigation := if level = .high then some "Use well-audited protocols" else none }

/-- The risk of the operation as such. -/
def operationFactor (op : Operation) : Factor α :=
  let level := Level.ofOperation (Text.lower op.operation)
  { topic := .operational
    level
    impact := level.score α
    description := s!"{op.operation} operation complexity risk" }

def leverageFactors (op : Operation) : List (Factor α) :=
  match op.levered? with
  | some leverage =>
    let level := Level.ofLeverage leverage
    [{ topic := .market
       level
       impact := level.score α
       description := s!"{Number.general leverage}x leverage increases liquidation risk"
       mitigation := some "Monitor position closely and maintain sufficient collateral" }]
  | none => []

/-- The risk of putting much of a portfolio into one operation. -/
def concentrationFactors (op : Operation) : List (Factor α) :=
  match op.portfolio? with
  | some portfolio =>
    let exposure := op.amount / portfolio
    if 0 < op.amount && 0.5 < exposure then
      [{ topic := .concentration
         level := .high
         impact := Scale.decimal 8 1
         description := "High portfolio concentration risk"
         mitigation := some "Diversify across multiple positions and assets" }]
    else if 0 < op.amount && 0.2 < exposure then
      [{ topic := .concentration
         level := .medium
         impact := Scale.decimal 4 1
         description := "Moderate portfolio concentration" }]
    else []
  | none => []

/-- The risk that the amount moves the market. -/
def liquidityFactors (op : Operation) : List (Factor α) :=
  let level := Level.ofLiquidity (Text.lower op.protocol) op.amount
  if level = .low then []
  else
    [{ topic := .liquidity
       level
       impact := level.score α
       description := "Potential liquidity constraints"
       mitigation := some "Consider splitting into smaller transactions" }]

/-- The risk of a volatile market, if it is stated and counted. -/
def volatilityFactors (config : Config) (op : Operation) : Except Fault (List (Factor α)) :=
  if config.dynamic then do
    match ← op.volatility? with
    | some volatility =>
      let level := volatilityLevel config volatility
      return [{
        topic := .volatility
        level
        impact := Scale.ofFloat config.volatilityWeight
        description := s!"Market volatility is {level.words}"
        mitigation :=
          if level.isSevere then some "Use tighter slippage and smaller tickets" else none }]
    | none => return []
  else return []

def factors (config : Config) (op : Operation) : Except Fault (List (Factor α)) := do
  let volatility ← volatilityFactors α config op
  return contractFactor α op :: operationFactor α op :: leverageFactors α op ++
    concentrationFactors α op ++ liquidityFactors α op ++ volatility

variable {α}

/-- The average of the scores of the levels, weighted by impact; zero without weight. -/
def weightedScore (factors : List (Factor α)) : α :=
  let total := Scale.sum (factors.map (·.impact))
  if total ≤ Scale.zero then Scale.zero
  else Scale.sum (factors.map fun f => f.level.score α * f.impact) / total

/-- The score before it is capped. -/
def rawScore (factors : List (Factor α)) (op : Operation) : α :=
  let unlevered := factors.filter (·.topic != .market)
  let base := Scale.greater (weightedScore factors) (weightedScore unlevered)
  let levered := if op.leverage.any (3 < ·) then base * Scale.decimal 12 1 else base
  if op.isBeginners then levered * Scale.decimal 11 1 else levered

def score (factors : List (Factor α)) (op : Operation) : α :=
  Scale.atMost Scale.one (rawScore factors op)

end Score

structure Assessment where
  overall : Level
  score : Float
  factors : List (Factor Float)
  recommendations : List String
  warnings : List String
  maxRecommended : Option Float
  confidence : Float

/-- What to do about the factors, each advice once. -/
def recommendations (factors : List (Factor Float)) (overall : Level) (op : Operation) :
    List String :=
  Listing.distinct <|
    (if overall.isSevere then
      ["Consider reducing the operation size",
        "Monitor the position closely after execution"] else []) ++
    factors.filterMap (·.mitigation) ++
    (if op.isBeginners then
      ["Start with smaller amounts to gain experience",
        "Study the protocol documentation before proceeding"] else [])

/-- What to warn of: severe factors, extreme leverage and large amounts. -/
def warnings (factors : List (Factor Float)) (op : Operation) : List String :=
  (factors.filter (·.level.isSevere)).map (·.description) ++
    (if op.leverage.any (5 < ·) then
      ["Extremely high leverage - liquidation risk is severe"] else []) ++
    (if 100000 < op.amount then ["Large amount - consider market impact and slippage"] else [])

/-- The more is known about the user and the market, the more an assessment is trusted. -/
def confidence (op : Operation) : Float :=
  let known := [op.portfolio?.isSome, op.profile.isSome, op.market.any (!·.isEmpty)].count true
  Number.roundTo 2 (0.7 + 0.1 * Float.ofNat known)

/-- Assesses an operation. -/
def assess? (config : Config) (op : Operation) : Except Fault Assessment := do
  let factors ← factors Float config op
  let score := score factors op
  let overall := Level.ofScore score
  return {
    overall
    score := Number.roundTo 6 score
    factors
    recommendations := recommendations factors overall op
    warnings := warnings factors op
    maxRecommended := do
      let profile ← op.profile
      let portfolio ← op.portfolio?
      return Number.roundTo 2 (portfolio * profile.capacity)
    confidence := confidence op }

/-- Assesses an operation and reports a failure. -/
def assess (config : Config) (op : Operation) : Except Failure Assessment :=
  (assess? config op).mapError fun fault =>
    .of .riskAnalysis .riskAssessmentFailed "Failed to assess risk"
      [("original_error", .text fault.describe), ("operation", .text op.operation)]

def Assessment.document (a : Assessment) : Document :=
  .record [("overall_risk", .text a.overall.name), ("risk_score", .real a.score),
    ("factors", .listOf (fun f : Factor Float =>
      .record [("type", .text f.topic.name), ("level", .text f.level.name),
        ("impact", .real f.impact), ("description", .text f.description),
        ("mitigation", .text? f.mitigation)]) a.factors),
    ("recommendations", .texts a.recommendations), ("warnings", .texts a.warnings),
    ("max_recommended_amount", .real? a.maxRecommended), ("confidence", .real a.confidence)]

end Teller.Risk
