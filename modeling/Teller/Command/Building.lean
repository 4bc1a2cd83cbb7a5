import Teller.Command.Basic
import Teller.Failure
import Teller.Number.Conversion
import Teller.Template
import Teller.Venue

/-!
# Building commands

From an intent and its parameters follow the action, the risk, the gas and whether the user must
confirm. The risk is a sum of points. Building fails only if the gas is no whole number.

    build_eq_ok_iff, build_eq_error_iff     what is built, and when building fails
-/

namespace Teller.Command

/-- Bounds beyond which a command is to be confirmed, and the slippage of optimized swaps. -/
structure Config where
  slippage : Float := 0.5
  confirmAmount : Float := 10000
  confirmLeverage : Float := 2

/-- The amount of parameters as a number; without one it is zero. -/
def amountOf (p : Parameters) : Float := (p.primary.amount.bind Number.read?).getD 0

/-- The leverage of parameters; one of zero is none. -/
def leverage? (p : Parameters) : Option Float := p.primary.leverage.filter (· != 0)

/-- The venue whose identifier parameters name, in any case. -/
def venue? (p : Parameters) : Option Venue :=
  p.primary.protocol.bind fun name => Venue.ofId? (Text.lower name)

/-! ## Risk -/

def intentPoints : Intent → Nat
  | .portfolioStatus | .showRates => 0
  | .swap | .addLiquidity => 2
  | .borrow => 3
  | .openPosition | .arbitrage => 4
  | .crossProtocolArbitrage => 5
  | _ => 1

def amountPoints (amount : Float) : Nat :=
  if 100000 < amount then 2 else if 10000 < amount then 1 else 0

def leveragePoints (leverage : Float) : Nat :=
  if 5 < leverage then 3 else if 2 < leverage then 2 else if 1 < leverage then 1 else 0

def protocolPoints (protocol : Option String) : Nat :=
  if Text.startsWith (Text.lower (protocol.getD "")) "experimental" then 2 else 0

def impactPoints (impact : Option Float) : Nat := if impact.any (5 < ·) then 2 else 0

def points (intent : Intent) (p : Parameters) : Nat :=
  intentPoints intent + amountPoints (amountOf p) + leveragePoints ((leverage? p).getD 1) +
    protocolPoints p.primary.protocol + impactPoints p.estimates.priceImpact

/-- The risk that points amount to. -/
def Risk.ofPoints (points : Nat) : Risk :=
  if 6 ≤ points then .high else if 3 ≤ points then .medium else .low

/-- The risk of a command; at a venue for leveraged trading it is always high. -/
def riskOf (intent : Intent) (p : Parameters) : Risk :=
  if venue? p = some .citrex then .high else .ofPoints (points intent p)

/-! ## Action -/

/-- What the actions of a venue begin with. -/
def actionMark : Venue → String
  | .dragonswap => "ds"
  | .symphony => "sym"
  | .citrex => "ctx"
  | .silo => "silo"
  | .takara => "tkr"

/-- The route goes through more than one exchange. -/
def isMultiHop (p : Parameters) : Bool := p.estimates.route.any (1 < ·.length)

def isLevered (p : Parameters) : Bool := (leverage? p).any (1 < ·)

/-- How the action of a command without a known venue is qualified. -/
def qualifiers (p : Parameters) : List String :=
  (if isLevered p then ["leveraged"] else []) ++
    (if p.tuning.maxSlippage.any (· < 0.1) then ["precise"] else []) ++
    (if isMultiHop p then ["multiHop"] else [])

def actionOf (intent : Intent) (p : Parameters) : String :=
  match venue? p with
  | some v => actionMark v ++ "_" ++ intent.action
  | none => Text.joined "_" (qualifiers p ++ [intent.action])

/-! ## Gas -/

/-- The gas of an intent, for the intents whose gas does not depend on the template. -/
def baseGas? : Intent → Option Int
  | .repay | .withdraw => some 120000
  | .lend => some 150000
  | .swap => some 180000
  | .borrow | .removeLiquidity | .closePosition => some 200000
  | .addLiquidity => some 250000
  | .openPosition => some 300000
  | .arbitrage => some 400000
  | _ => none

/-- The gas before it is adjusted; without a template it is 100000. -/
def startingGas (intent : Intent) (template : Option Template) : Int :=
  (baseGas? intent).getD ((template.map (·.gas)).getD 100000)

/-- What a venue adds to the gas. -/
def gasFactor : Option Venue → Float
  | some .symphony => 1.2
  | some .citrex => 1.5
  | some .silo => 0.9
  | _ => 1

/-- The gas of a command. A longer route and leverage add to it before it is first cut to a whole
number, the venue afterwards. -/
def gasOf (intent : Intent) (p : Parameters) (template : Option Template) : Except Fault Int := do
  let start ← Number.realOf (startingGas intent template)
  let routed := if isMultiHop p then start * 1.5 else start
  let levered := if isLevered p then routed * 1.3 else routed
  let base ← Number.wholeOf levered
  Number.wholeOf ((← Number.realOf base) * gasFactor (venue? p))

/-! ## Confirmation -/

/-- Intents that are always to be confirmed. -/
def isConfirmed : Intent → Bool
  | .borrow | .openPosition | .closePosition | .arbitrage | .crossProtocolArbitrage => true
  | _ => false

/-- The user must confirm: for a high risk, a large amount, a high leverage, or by the intent. -/
def needsConfirmation (config : Config) (intent : Intent) (p : Parameters) (risk : Risk) : Bool :=
  risk == .high || config.confirmAmount < amountOf p ||
    (leverage? p).any (config.confirmLeverage < ·) || isConfirmed intent

/-! ## Building -/

/-- What is asked of the builder. -/
structure Order where
  intent : Intent
  parameters : Parameters := {}
  template : Option Template := none

def buildFailure (intent : Intent) (fault : Fault) : Failure :=
  .of .commandBuilding .commandBuildError "Failed to build command"
    [("original_error", .text fault.describe), ("intent", .text intent.name)]

/-- Builds the command with a number at a time. -/
def build (config : Config) (time : Int) (number : Nat) (order : Order) : Except Failure Command :=
  let risk := riskOf order.intent order.parameters
  match gasOf order.intent order.parameters order.template with
  | .error fault => .error (buildFailure order.intent fault)
  | .ok gas =>
    .ok {
      number
      intent := order.intent
      action := actionOf order.intent order.parameters
      parameters := order.parameters
      metadata := { timestamp := time }
      confirm := needsConfirmation config order.intent order.parameters risk
      gas
      risk }

/-! ## Lemmas -/

variable {config : Config} {time : Int} {number : Nat} {order : Order} {c : Command} {f : Failure}

theorem build_eq_ok_iff : build config time number order = .ok c ↔ ∃ gas,
    gasOf order.intent order.parameters order.template = .ok gas ∧ c = {
      number
      intent := order.intent
      action := actionOf order.intent order.parameters
      parameters := order.parameters
      metadata := { timestamp := time }
      confirm := needsConfirmation config order.intent order.parameters
        (riskOf order.intent order.parameters)
      gas
      risk := riskOf order.intent order.parameters } := by
  unfold build
  cases gasOf order.intent order.parameters order.template with
  | error fault => simp
  | ok gas => simp [eq_comm]

theorem build_eq_error_iff : build config time number order = .error f ↔ ∃ fault,
    gasOf order.intent order.parameters order.template = .error fault ∧
      f = buildFailure order.intent fault := by
  unfold build
  cases gasOf order.intent order.parameters order.template with
  | error fault => simp [eq_comm]
  | ok gas => simp

end Teller.Command

namespace Teller.Batch

open Command

def failures (answers : List (Except Failure Command)) : List Failure :=
  answers.filterMap fun
    | .ok _ => none
    | .error f => some f

def commands (answers : List (Except Failure Command)) : List Command :=
  answers.filterMap Except.toOption

/-- Builds the commands of a batch, numbered from a first number. -/
def answers (config : Config) (time : Int) (first : Nat) (orders : List Order) :
    List (Except Failure Command) :=
  orders.mapIdx fun n order => build config time (first + n) order

/-- Builds a batch with a number, and its members with the numbers after it. It must have a member,
and all of them must be built. -/
def build (config : Config) (time : Int) (number : Nat) (orders : List Order) :
    Except Failure Batch :=
  let built := answers config time (number + 1) orders
  if orders.isEmpty then
    .error (.of .commandBuilding .emptyBatch "Batch contains no commands")
  else if (failures built).isEmpty then
    .ok ⟨number, time, commands built⟩
  else
    .error (.of .commandBuilding .commandBuildError "Failed to build some commands in batch"
      [("errors", .listOf Failure.document (failures built))])

end Teller.Batch
