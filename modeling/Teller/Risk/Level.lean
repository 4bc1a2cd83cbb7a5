import Teller.Number.Scale
import Teller.Intent

/-!
# Risk levels

Five levels of risk with their scores, and the levels of protocols, operations, leverage and
volatility.
-/

namespace Teller.Risk

open Teller.Number

inductive Level where
  | veryLow | low | medium | high | veryHigh
  deriving DecidableEq, Repr

namespace Level

/-- All levels from the lowest to the highest. -/
def all : List Level := [veryLow, low, medium, high, veryHigh]

/-- The place of a level in the order. -/
def rank : Level → Nat
  | veryLow => 0
  | low => 1
  | medium => 2
  | high => 3
  | veryHigh => 4

def name : Level → String
  | veryLow => "very_low"
  | low => "low"
  | medium => "medium"
  | high => "high"
  | veryHigh => "very_high"

def ofName? (name : String) : Option Level := all.find? (·.name == name)

/-- A level in words. -/
def words : Level → String
  | veryLow => "very low"
  | low => "low"
  | medium => "medium"
  | high => "high"
  | veryHigh => "very high"

/-- High or very high. -/
def isSevere : Level → Bool
  | high | veryHigh => true
  | _ => false

def score (α : Type) [Scale α] : Level → α
  | veryLow => Scale.decimal 1 1
  | low => Scale.decimal 3 1
  | medium => Scale.decimal 5 1
  | high => Scale.decimal 7 1
  | veryHigh => Scale.decimal 9 1

/-- The level that a score falls into. -/
def ofScore {α : Type} [Scale α] (score : α) : Level :=
  if score ≤ Scale.decimal 2 1 then veryLow
  else if score ≤ Scale.decimal 4 1 then low
  else if score ≤ Scale.decimal 6 1 then medium
  else if score ≤ Scale.decimal 8 1 then high
  else veryHigh

def ofLeverage (leverage : Float) : Level :=
  if leverage ≤ 2 then low
  else if leverage ≤ 5 then medium
  else if leverage ≤ 10 then high
  else veryHigh

/-- The levels of the protocols that have been judged. -/
def protocols : List (String × Level) :=
  [("dragonswap", low), ("symphony", low), ("silo", low), ("takara", medium), ("citrex", medium),
    ("experimental", high)]

/-- The level of a protocol, given in lower case. -/
def ofProtocol (protocol : String) : Level := (protocols.lookup protocol).getD medium

/-- The levels of the operations that have been judged. -/
def operations : List (String × Level) :=
  [("lend", low), ("supply", low), ("withdraw", low), ("swap", low), ("borrow", medium),
    ("add_liquidity", medium), ("leveraged_farming", high), ("arbitrage", high),
    ("perpetuals", high), ("options", veryHigh)]

/-- The level of an operation, given in lower case. -/
def ofOperation (operation : String) : Level := (operations.lookup operation).getD medium

/-- The liquidity risk of an amount: venues with deep liquidity take more before it is felt. -/
def ofLiquidity (protocol : String) (amount : Float) : Level :=
  if protocol == "dragonswap" || protocol == "symphony" then
    if 1000000 < amount then medium else low
  else if 100000 < amount then high
  else medium

end Level

end Teller.Risk
