import Teller.Strategy.Basic

/-!
# Matching strategies with criteria

A strategy is scored by amount, risk, protocols, return and leverage; the scores are weighted and,
where popularity is preferred, raised by it. What the user would have to change for a strategy to
fit is listed beside the score.
-/

namespace Teller.Strategy

open Teller.Listing Teller.Number

/-- How strategies are matched. -/
structure Config where
  leastScore : Float := 0.5
  maxResults : Int := 10
  adjust : Bool := true
  preferPopular : Bool := true
  riskFactor : Float := 1

/-- What the user is looking for. -/
structure Criteria where
  amount : Float
  tolerance : Risk.Level
  preferred : List String := []
  excluded : List String := []
  leastApy : Option Float := none
  maxDuration : Option Int := none
  categories : Option (List Category) := none
  allowLeverage : Bool := false

/-- A change that would make a strategy fit. -/
inductive Adjustment where
  /-- More than the given amount is needed. -/
  | raiseAmount (current least : Float)
  /-- Less than the given amount is needed. -/
  | lowerAmount (current most : Float)
  /-- A strategy of the same category at a lower risk exists. -/
  | lowerRisk (current suggested : Risk.Level)
  /-- A longer commitment is needed. -/
  | lengthen (current needed : Int)
  deriving DecidableEq

namespace Adjustment

/-- What is to be changed. -/
def subject : Adjustment → String
  | raiseAmount .. | lowerAmount .. => "amount"
  | lowerRisk .. => "protocol"
  | lengthen .. => "duration"

/-- Why it is to be changed. -/
def reason : Adjustment → String
  | raiseAmount .. => "Minimum amount requirement not met"
  | lowerAmount .. => "Amount exceeds strategy maximum"
  | lowerRisk .. => "Strategy risk exceeds tolerance"
  | lengthen .. => "Strategy requires longer commitment"

def impact : Adjustment → Float
  | raiseAmount .. => 0.8
  | lowerAmount .. => 0.6
  | lowerRisk .. => 0.9
  | lengthen .. => 0.4

def document (a : Adjustment) : Document :=
  let (current, suggested) : Document × Document := match a with
    | raiseAmount current least => (.real current, .real least)
    | lowerAmount current most => (.real current, .real most)
    | lowerRisk current suggested => (.text current.name, .text suggested.name)
    | lengthen current needed => (.whole current, .whole needed)
  .record [("type", .text a.subject), ("current", current), ("suggested", suggested),
    ("reason", .text a.reason), ("impact", .real a.impact)]

end Adjustment

/-! ## Adjustments -/

/-- The level of the first strategy of the same category whose risk is tolerated. -/
def lowerRisk? (catalog : Catalog) (s : Strategy) (tolerance : Risk.Level) : Option Risk.Level :=
  (catalog.strategies.find? fun other =>
    other.category == s.category && other.risk.rank ≤ tolerance.rank).map (·.risk)

def amountAdjustment? (s : Strategy) (c : Criteria) : Option Adjustment :=
  if c.amount < s.least then some (.raiseAmount c.amount s.least)
  else (s.limit?.filter (· < c.amount)).map (.lowerAmount c.amount)

def riskAdjustment? (catalog : Catalog) (s : Strategy) (c : Criteria) : Option Adjustment :=
  if c.tolerance.rank < s.risk.rank then
    (lowerRisk? catalog s c.tolerance).map (.lowerRisk s.risk)
  else none

/-- The change of the duration that the strategy needs. Durations of zero do not count. -/
def durationAdjustment? (s : Strategy) (c : Criteria) : Option Adjustment :=
  match c.maxDuration.filter (· ≠ 0), s.duration.filter (· ≠ 0) with
  | some most, some needed => if most < needed then some (.lengthen most needed) else none
  | _, _ => none

/-- What the user would have to change for the strategy to fit, what matters most first. -/
def adjustments (catalog : Catalog) (s : Strategy) (c : Criteria) : List Adjustment :=
  ranked (fun a b => b.impact < a.impact)
    ([amountAdjustment? s c, riskAdjustment? catalog s c, durationAdjustment? s c].filterMap fun a => a)

/-! ## Scores -/

section Score

variable (α : Type) [Scale α]

/-- Full marks for an amount well within the limits, none for one below the least. -/
def amountScore (s : Strategy) (c : Criteria) : α :=
  let best := match s.limit? with
    | some most => most * 0.8
    | none => s.least * 10
  if c.amount < s.least then Scale.zero
  else if s.limit?.any (· < c.amount) then Scale.decimal 5 1
  else if s.least * 2 ≤ c.amount && c.amount ≤ best then Scale.one
  else Scale.decimal 8 1

/-- Full marks for the tolerated risk, none for a higher one; a lower one counts as configured. -/
def riskScore (config : Config) (s : Strategy) (c : Criteria) : α :=
  if c.tolerance.rank < s.risk.rank then Scale.zero
  else if s.risk.rank = c.tolerance.rank then Scale.one
  else Scale.atMost Scale.one (Scale.decimal 8 1 * Scale.ofFloat config.riskFactor)

/-- Names of protocols in lower case, each once. -/
def protocolSet (names : List String) : List String := distinct (names.map Text.lower)

/-- The part of the preferred protocols that the strategy uses; none if it uses an excluded one. -/
def protocolScore (s : Strategy) (c : Criteria) : α :=
  let used := protocolSet s.protocols
  let preferred := protocolSet c.preferred
  if used.any (protocolSet c.excluded).contains then Scale.zero
  else if preferred.isEmpty then Scale.decimal 7 1
  else Scale.atMost Scale.one
    (Scale.decimal (used.countP preferred.contains) 0 / Scale.decimal preferred.length 0)

/-- Full marks for the wanted return or more, and less by the part that is missing. -/
def apyScore (s : Strategy) (c : Criteria) : α :=
  match c.leastApy.filter (· != 0) with
  | none => Scale.decimal 8 1
  | some wanted =>
    if wanted ≤ s.apy then Scale.one
    else
      let deficit := (Scale.ofFloat wanted - Scale.ofFloat s.apy) / Scale.ofFloat wanted
      Scale.greater Scale.zero (Scale.one - deficit)

/-- No marks for borrowed funds that the user does not allow. -/
def leverageScore (s : Strategy) (c : Criteria) : α :=
  if s.usesLeverage && !c.allowLeverage then Scale.zero else Scale.one

def baseScore (config : Config) (s : Strategy) (c : Criteria) : α :=
  amountScore α s c * Scale.decimal 25 2 + riskScore α config s c * Scale.decimal 30 2 +
    protocolScore α s c * Scale.decimal 20 2 + apyScore α s c * Scale.decimal 15 2 +
    leverageScore α s c * Scale.decimal 10 2

def matchScore (config : Config) (s : Strategy) (c : Criteria) : α :=
  if config.preferPopular then
    baseScore α config s c * (Scale.one + Scale.ofFloat s.popularity * Scale.decimal 1 1)
  else baseScore α config s c

end Score

/-- A strategy with its score and what speaks for it. -/
structure Match where
  strategy : Strategy
  score : Float
  reasons : List String
  adjustments : List Adjustment

/-- What speaks for a strategy: the scores above 0.8. -/
def reasons (config : Config) (s : Strategy) (c : Criteria) : List String :=
  [(amountScore Float s c, "Amount fits strategy requirements"),
    (riskScore Float config s c, "Risk level matches your tolerance"),
    (protocolScore Float s c, "Uses your preferred protocols"),
    (apyScore Float s c, "Expected APY meets your requirements")].filterMap
      fun (score, reason) => if 0.8 < score then some reason else none

def evaluate (config : Config) (catalog : Catalog) (c : Criteria) (s : Strategy) : Match where
  strategy := s
  score := matchScore Float config s c
  reasons := reasons config s c
  adjustments := if config.adjust then adjustments catalog s c else []

/-- The strategy is of a wanted category; without wanted categories every one is. -/
def Criteria.wants (c : Criteria) (s : Strategy) : Bool :=
  (c.categories.filter (!·.isEmpty)).all (·.contains s.category)

/-- The strategies that match well enough, the best first. -/
def matching (config : Config) (catalog : Catalog) (c : Criteria) : List Match :=
  let matched := ((catalog.strategies.filter c.wants).map (evaluate config catalog c)).filter
    fun m => config.leastScore ≤ m.score
  limited config.maxResults (ranked (fun a b => b.score < a.score) matched)

def Match.document (m : Match) : Document :=
  .record [("strategy", m.strategy.summary), ("match_score", .real (roundTo 4 m.score)),
    ("reasons", .texts m.reasons), ("adjustments", .listOf Adjustment.document m.adjustments)]

end Teller.Strategy
