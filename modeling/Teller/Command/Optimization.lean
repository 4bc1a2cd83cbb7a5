import Teller.Account
import Teller.Command.Building

/-!
# Optimization of commands

A command is optimized by giving it a gas price and a gas limit and, if it is a swap, a limit for
the slippage and a route. Only these parameters change. The commands that it bundles are left as
they are.

    map_executable_optimize      a command of the desk is optimized as it is handed out
-/

namespace Teller

open Command

namespace Executable

/-- The gas price unless the account knows another. -/
def standardGasPrice : String := "20000000000"

def startingGasPrice (account : Option Account) : String :=
  (stated? (account.bind (·.gasPrice))).getD standardGasPrice

/-- The optimized gas price; a command that is to be confirmed pays more. -/
def gasPriceOf (x : Executable) (account : Option Account) : Except Fault Int := do
  let price ← Number.ofText (startingGasPrice account)
  Number.wholeOf (price * if x.confirm then 1.2 else 1)

/-- The optimized gas limit, a tenth above the gas; none if there is no gas. -/
def gasLimitOf (x : Executable) : Except Fault (Option Int) :=
  let gas := x.gas.getD 0
  if gas = 0 then .ok none
  else do return some (← Number.wholeOf ((← Number.realOf gas) * 1.1))

/-- The slippage that a swap of this amount may have. -/
def slippageFor (config : Config) (amount : Float) : Float :=
  if 100000 < amount then config.slippage * 2
  else if 10000 < amount then config.slippage * 1.5
  else config.slippage

/-- What optimization tunes. -/
def tuned (config : Config) (x : Executable) (account : Option Account) :
    Except Fault Tuning.Revision := do
  let price ← gasPriceOf x account
  let limit ← gasLimitOf x
  return {
    maxSlippage :=
      if x.intent = .swap then some (some (slippageFor config (amountOf x.parameters))) else none
    gasPrice := some (some (Number.ofInt price))
    gasLimit := limit.map some }

/-- The route of a swap with two tokens: one exchange, at the named protocol or else at the first
venue. -/
def routed? (x : Executable) : Option (List Hop) :=
  let p := x.parameters.primary
  match x.intent, stated? p.fromToken, stated? p.toToken with
  | .swap, some a, some b =>
    some [{
      protocol := (stated? p.protocol).getD Venue.dragonswap.id
      tokenIn := a
      tokenOut := b
      pool := some (a ++ "/" ++ b)
      amountIn := p.amount }]
  | _, _, _ => none

def revise (x : Executable) (r : Parameters.Revision) : Executable :=
  { x with parameters := x.parameters.revise r }

/-- Optimizes a command as it is handed out. -/
def optimize (config : Config) (x : Executable) (account : Option Account) :
    Except Fault Executable := do
  let tuning ← tuned config x account
  return x.revise { tuning, estimates := { route := (routed? x).map some } }

end Executable

def Command.optimize (config : Config) (c : Command) (account : Option Account) :
    Except Fault Command := do
  let x ← c.executable.optimize config account
  return { c with parameters := x.parameters }

/-! ## Lemmas -/

theorem Command.map_executable_optimize (config : Config) (c : Command) (account : Option Account) :
    (c.optimize config account).map Command.executable = c.executable.optimize config account := by
  unfold Command.optimize Executable.optimize
  cases Executable.tuned config c.executable account <;> rfl

end Teller
