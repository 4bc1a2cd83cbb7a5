import Teller.Strategy.Matching

/-!
# Optimization of a portfolio of strategies

Suggestions for a user who already follows some strategies: better returns, less risk, a wider
spread over protocols and less gas.
-/

namespace Teller.Strategy

open Teller.Listing Teller.Number

inductive Suggestion.Kind where
  | yieldIncrease | riskReduction | diversification | gasOptimization
  deriving DecidableEq, Repr

def Suggestion.Kind.name : Suggestion.Kind → String
  | yieldIncrease => "yield_increase"
  | riskReduction => "risk_reduction"
  | diversification => "diversification"
  | gasOptimization => "gas_optimization"

structure Suggestion where
  kind : Suggestion.Kind
  title : String
  description : String
  benefit : String
  impact : Float
  difficulty : String
  requirements : List String
  steps : List String

def bestApy? (current : List Strategy) : Option Float :=
  greatest? (fun a b => b < a) (current.map (·.apy))

/-- The strategies of the catalog with a return more than a fifth above the best current one, the
best three of them. -/
def betterYields (catalog : Catalog) (best : Float) : List Strategy :=
  (ranked (fun a b => b.apy < a.apy)
    (catalog.strategies.filter fun s => best * 1.2 < s.apy)).take 3

/-- The suggestion to switch to a strategy with a better return. -/
def switchTo (best : Float) (s : Strategy) : Suggestion :=
  let improvement := (s.apy - best) / best * 100
  { kind := .yieldIncrease
    title := s!"Switch to {s.name}"
    description := s!"Higher yield strategy with {fixed 1 s.apy}% APY"
    benefit := s!"+{fixed 1 improvement}% yield increase"
    impact := improvement
    difficulty := s.difficulty
    requirements := s.requirements
    steps := ["Exit current positions", s!"Allocate funds to {s.name}",
      "Monitor performance and adjust as needed"] }

/-- Suggestions to switch; there are none if the current strategies earn nothing. -/
def yieldSuggestions (catalog : Catalog) (current : List Strategy) : List Suggestion :=
  match bestApy? current with
  | some best => if best ≤ 0 then [] else (betterYields catalog best).map (switchTo best)
  | none => []

def reduceRisk : Suggestion where
  kind := .riskReduction
  title := "Reduce Position Risk"
  description := "Some positions exceed your risk tolerance"
  benefit := "Improved portfolio stability"
  impact := 15
  difficulty := "easy"
  requirements := ["Review current positions"]
  steps := ["Identify high-risk positions", "Reduce position sizes or exit entirely",
    "Reallocate to lower-risk strategies"]

/-- The suggestion for a portfolio that rests on one protocol. -/
def diversify : Suggestion where
  kind := .diversification
  title := "Diversify Protocol Exposure"
  description := "High concentration in single protocol detected"
  benefit := "Reduced protocol risk"
  impact := 20
  difficulty := "medium"
  requirements := ["Identify alternative protocols"]
  steps := ["Review current protocol allocation", "Research alternative protocols",
    "Gradually migrate some positions"]

/-- The suggestion for a portfolio with costly steps. -/
def saveGas : Suggestion where
  kind := .gasOptimization
  title := "Optimize Gas Usage"
  description := "Some strategies have high gas costs"
  benefit := "Reduced transaction fees"
  impact := 10
  difficulty := "easy"
  requirements := ["Review transaction timing"]
  steps := ["Batch transactions when possible", "Time transactions for lower gas periods",
    "Consider gas-efficient alternatives"]

/-- One protocol is used more often than by six of ten strategies. -/
def isConcentrated (current : List Strategy) : Bool :=
  let used := current.flatMap (·.protocols)
  match mostFrequent? used with
  | some protocol =>
    0.6 < Float.ofNat (used.count protocol) / Float.ofNat current.length
  | none => false

/-- Suggestions for a portfolio, those with the greatest impact first. -/
def optimize (catalog : Catalog) (current : List Strategy) (c : Criteria) : List Suggestion :=
  if current.isEmpty then []
  else
    ranked (fun a b => b.impact < a.impact)
      (yieldSuggestions catalog current ++
        (if current.any fun s => c.tolerance.rank < s.risk.rank then [reduceRisk] else []) ++
        (if isConcentrated current then [diversify] else []) ++
        if current.any fun s => s.steps.any fun step => 500000 < step.gas then [saveGas] else [])

def Suggestion.document (s : Suggestion) : Document :=
  .record [("type", .text s.kind.name), ("title", .text s.title),
    ("description", .text s.description), ("potential_benefit", .text s.benefit),
    ("estimated_impact", .real s.impact), ("difficulty", .text s.difficulty),
    ("requirements", .texts s.requirements), ("steps", .texts s.steps)]

end Teller.Strategy
