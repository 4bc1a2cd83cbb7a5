import Teller.Account
import Teller.Command.Building

/-!
# Estimates

What a command is expected to yield and cost, with fixed figures in place of market data. Estimates
are made from what the user stated and never taken over from elsewhere.
-/

namespace Teller.Estimates

/-- The price that estimates refer to. -/
def referencePrice : Float := 1800

/-- The health of a position before an amount is borrowed. -/
def baseHealth : Float := 2.5

/-- The fee of protocols in percent. -/
def protocolFee : Float := 0.3

def gasPrice : Float := 1e-9

def impactOf (amount : Float) : Float :=
  if 10000 < amount then 0.5 else if 1000 < amount then 0.1 else 0.01

/-- What a swap yields after slippage. -/
def outputOf (amount slippage : Float) : String := Number.plain (amount * (1 - slippage / 100))

/-- The fees of a command that takes gas. -/
def feesOf (p : Primary) (gas : Float) : List Fee :=
  if gas == 0 then []
  else
    [{ kind := .protocol
       amount := Number.full protocolFee
       token := p.spent?.getD "USDC"
       percentage := protocolFee },
     { kind := .gas, amount := Number.plain (gas * gasPrice * referencePrice),
       token := Command.gasToken }]

def total (fees : List Fee) : Float :=
  fees.foldl (fun sum f => sum + (Number.read? f.amount).getD 0) 0

/-- The health of a position after an amount is borrowed, at least one. -/
def healthAfter (amount : Float) : Float :=
  let health := baseHealth - amount / 10000
  if 1 < health then health else 1

/-- The price at which a leveraged position is liquidated. -/
def liquidationAt (leverage : Float) : String := Number.plain (referencePrice * (1 - 1 / leverage))

/-- The gas of a template; without a template there is none. -/
def gasIn (template : Option Template) : Except Fault Float :=
  match template with
  | some t => Number.realOf t.gas
  | none => .ok 0

/-- The estimates for a command with this gas. The slippage is the one that is permitted, or else
the usual one. -/
def derive (usualSlippage : Float) (intent : Intent) (p : Primary) (t : Tuning) (gas : Float)
    (account : Option Account) : Estimates :=
  let amount := p.amount.bind Number.read?
  let fees := feesOf p gas
  { outputAmount := do
      let x ← amount
      let _ ← stated? p.fromToken
      let _ ← stated? p.toToken
      return outputOf x (t.maxSlippage.getD usualSlippage)
    priceImpact := do
      let x ← amount
      let _ ← p.spent?
      return impactOf x
    fees := if fees.isEmpty then none else some fees
    healthFactorAfter :=
      if intent = .borrow && account.isSome then some (healthAfter (amount.getD 0)) else none
    liquidationPrice := do
      let leverage ← p.leverage.filter (0 < ·)
      let _ ← p.spent?
      return liquidationAt leverage
    totalCost := amount.map fun x => Number.plain (x + total fees) }

end Teller.Estimates
