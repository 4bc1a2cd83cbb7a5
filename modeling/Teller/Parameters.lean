import Teller.Document

/-!
# Parameters of a command

Three sections: what the user stated, how the command is to be executed, and what was estimated.
Every field may be missing. A revision gives new values to some fields; a field that it gives anew
is taken over even if the new value is none.

    Revised.apply_none, Revised.apply_some
                           a field keeps its value unless it is given anew
    Revised.apply_congr    only such a field depends on what it was
    revise_revise_self     revising twice by the same revision is revising once
-/

namespace Teller

inductive Fee.Kind where
  | protocol | gas | network
  deriving DecidableEq, Repr

def Fee.Kind.all : List Fee.Kind := [protocol, gas, network]

def Fee.Kind.name : Fee.Kind → String
  | protocol => "protocol"
  | gas => "gas"
  | network => "network"

structure Fee where
  kind : Fee.Kind
  amount : String
  token : String
  percentage : Float := 0

/-- One exchange on the way from one token to another. -/
structure Hop where
  protocol : String
  tokenIn : String
  tokenOut : String
  pool : Option String := none
  amountIn : Option String := none
  amountOut : Option String := none

/-- What the user stated. -/
structure Primary where
  amount : Option String := none
  token : Option String := none
  fromToken : Option String := none
  toToken : Option String := none
  protocol : Option String := none
  leverage : Option Float := none
  slippage : Option Float := none
  deadline : Option Int := none

/-- How the command is to be executed. -/
structure Tuning where
  maxSlippage : Option Float := none
  minOutput : Option String := none
  gasLimit : Option Int := none
  gasPrice : Option String := none
  recipient : Option String := none
  referrer : Option String := none
  route : Option (List String) := none
  riskAcknowledged : Option Bool := none

/-- What was estimated. -/
structure Estimates where
  outputAmount : Option String := none
  priceImpact : Option Float := none
  fees : Option (List Fee) := none
  route : Option (List Hop) := none
  healthFactorAfter : Option Float := none
  liquidationPrice : Option String := none
  totalCost : Option String := none

/-- The parameters of a command. -/
structure Parameters where
  primary : Primary := {}
  tuning : Tuning := {}
  estimates : Estimates := {}

/-- A text that is there and not empty. -/
def stated? (text : Option String) : Option String := text.filter (· ≠ "")

/-- The token that is given away: the one token, or the one to swap from. -/
def Primary.spent? (p : Primary) : Option String := (stated? p.token).or (stated? p.fromToken)

/-! ## Revisions -/

/-- A new value for a field, if one is given. The given value may be none. -/
abbrev Revised (α : Type) := Option (Option α)

/-- The value of a field after a revision. -/
def Revised.apply (new : Revised α) (old : Option α) : Option α := new.getD old

/-- New values for what the user stated. -/
structure Primary.Revision where
  amount : Revised String := none
  token : Revised String := none
  fromToken : Revised String := none
  toToken : Revised String := none
  protocol : Revised String := none
  leverage : Revised Float := none
  slippage : Revised Float := none
  deadline : Revised Int := none

structure Tuning.Revision where
  maxSlippage : Revised Float := none
  minOutput : Revised String := none
  gasLimit : Revised Int := none
  gasPrice : Revised String := none
  recipient : Revised String := none
  referrer : Revised String := none
  route : Revised (List String) := none
  riskAcknowledged : Revised Bool := none

structure Estimates.Revision where
  outputAmount : Revised String := none
  priceImpact : Revised Float := none
  fees : Revised (List Fee) := none
  route : Revised (List Hop) := none
  healthFactorAfter : Revised Float := none
  liquidationPrice : Revised String := none
  totalCost : Revised String := none

structure Parameters.Revision where
  primary : Primary.Revision := {}
  tuning : Tuning.Revision := {}
  estimates : Estimates.Revision := {}

def Primary.revise (p : Primary) (r : Primary.Revision) : Primary where
  amount := r.amount.apply p.amount
  token := r.token.apply p.token
  fromToken := r.fromToken.apply p.fromToken
  toToken := r.toToken.apply p.toToken
  protocol := r.protocol.apply p.protocol
  leverage := r.leverage.apply p.leverage
  slippage := r.slippage.apply p.slippage
  deadline := r.deadline.apply p.deadline

def Tuning.revise (t : Tuning) (r : Tuning.Revision) : Tuning where
  maxSlippage := r.maxSlippage.apply t.maxSlippage
  minOutput := r.minOutput.apply t.minOutput
  gasLimit := r.gasLimit.apply t.gasLimit
  gasPrice := r.gasPrice.apply t.gasPrice
  recipient := r.recipient.apply t.recipient
  referrer := r.referrer.apply t.referrer
  route := r.route.apply t.route
  riskAcknowledged := r.riskAcknowledged.apply t.riskAcknowledged

def Estimates.revise (e : Estimates) (r : Estimates.Revision) : Estimates where
  outputAmount := r.outputAmount.apply e.outputAmount
  priceImpact := r.priceImpact.apply e.priceImpact
  fees := r.fees.apply e.fees
  route := r.route.apply e.route
  healthFactorAfter := r.healthFactorAfter.apply e.healthFactorAfter
  liquidationPrice := r.liquidationPrice.apply e.liquidationPrice
  totalCost := r.totalCost.apply e.totalCost

namespace Parameters

def revise (p : Parameters) (r : Revision) : Parameters where
  primary := p.primary.revise r.primary
  tuning := p.tuning.revise r.tuning
  estimates := p.estimates.revise r.estimates

/-- The parameters that a revision makes of none. -/
def Revision.parameters (r : Revision) : Parameters := ({} : Parameters).revise r

end Parameters

/-! ## Values of fields -/

inductive FieldValue where
  | text (value : String)
  | real (value : Float)
  | whole (value : Int)
  | flag (value : Bool)
  | names (value : List String)
  | hops (value : List Hop)
  | fees (value : List Fee)

def Primary.get? (p : Primary) : (field : String) → Option FieldValue
  | "amount" => p.amount.map .text
  | "token" => p.token.map .text
  | "from_token" => p.fromToken.map .text
  | "to_token" => p.toToken.map .text
  | "protocol" => p.protocol.map .text
  | "leverage" => p.leverage.map .real
  | "slippage" => p.slippage.map .real
  | "deadline" => p.deadline.map .whole
  | _ => none

def Tuning.get? (t : Tuning) : (field : String) → Option FieldValue
  | "max_slippage" => t.maxSlippage.map .real
  | "min_output" => t.minOutput.map .text
  | "gas_limit" => t.gasLimit.map .whole
  | "gas_price" => t.gasPrice.map .text
  | "recipient" => t.recipient.map .text
  | "referrer" => t.referrer.map .text
  | "route" => t.route.map .names
  | "risk_acknowledged" => t.riskAcknowledged.map .flag
  | _ => none

def Estimates.get? (e : Estimates) : (field : String) → Option FieldValue
  | "output_amount" => e.outputAmount.map .text
  | "price_impact" => e.priceImpact.map .real
  | "fees" => e.fees.map .fees
  | "route" => e.route.map .hops
  | "health_factor_after" => e.healthFactorAfter.map .real
  | "liquidation_price" => e.liquidationPrice.map .text
  | "total_cost" => e.totalCost.map .text
  | _ => none

/-- The value of a field, looked for in the three sections in order. -/
def Parameters.get? (p : Parameters) (field : String) : Option FieldValue :=
  (p.primary.get? field).or ((p.tuning.get? field).or (p.estimates.get? field))

/-! ## Reports -/

def Fee.document (f : Fee) : Document :=
  .record [("type", .text f.kind.name), ("amount", .text f.amount), ("token", .text f.token),
    ("percentage", .real f.percentage)]

def Hop.document (h : Hop) : Document :=
  .record [("protocol", .text h.protocol), ("token_in", .text h.tokenIn),
    ("token_out", .text h.tokenOut), ("pool", .text? h.pool), ("amount_in", .text? h.amountIn),
    ("amount_out", .text? h.amountOut)]

def Primary.document (p : Primary) : Document :=
  .record [("amount", .text? p.amount), ("token", .text? p.token),
    ("from_token", .text? p.fromToken), ("to_token", .text? p.toToken),
    ("protocol", .text? p.protocol), ("leverage", .real? p.leverage),
    ("slippage", .real? p.slippage), ("deadline", .whole? p.deadline)]

def Tuning.document (t : Tuning) : Document :=
  .record [("max_slippage", .real? t.maxSlippage), ("min_output", .text? t.minOutput),
    ("gas_limit", .whole? t.gasLimit), ("gas_price", .text? t.gasPrice),
    ("recipient", .text? t.recipient), ("referrer", .text? t.referrer),
    ("route", .orNull .texts t.route), ("risk_acknowledged", .flag? t.riskAcknowledged)]

def Estimates.document (e : Estimates) : Document :=
  .record [("output_amount", .text? e.outputAmount), ("price_impact", .real? e.priceImpact),
    ("fees", .orNull (.listOf Fee.document) e.fees),
    ("route", .orNull (.listOf Hop.document) e.route),
    ("health_factor_after", .real? e.healthFactorAfter),
    ("liquidation_price", .text? e.liquidationPrice), ("total_cost", .text? e.totalCost)]

def Parameters.document (p : Parameters) : Document :=
  .record [("primary", p.primary.document), ("optional", p.tuning.document),
    ("derived", p.estimates.document)]

namespace FieldValue

def document : FieldValue → Document
  | text s => .text s
  | real x => .real x
  | whole n => .whole n
  | flag b => .flag b
  | names xs => .texts xs
  | hops xs => .listOf Hop.document xs
  | fees xs => .listOf Fee.document xs

/-- A record as it is shown inside a list: its kind and its fields. -/
def shownRecord (kind : String) : Document → String
  | .record fields =>
    kind ++ "(" ++ Text.joined ", " (fields.map fun (name, d) => name ++ "=" ++ d.shown) ++ ")"
  | other => other.shown

/-- The text of a value. -/
def shown : FieldValue → String
  | hops xs => "[" ++ Text.joined ", " (xs.map fun h => shownRecord "RouteStep" h.document) ++ "]"
  | fees xs => "[" ++ Text.joined ", " (xs.map fun f => shownRecord "Fee" f.document) ++ "]"
  | other => other.document.plain

end FieldValue

/-! ## Lemmas -/

theorem Revised.apply_none (old : Option α) : Revised.apply none old = old := rfl

theorem Revised.apply_some (value old : Option α) : Revised.apply (some value) old = value := rfl

/-- What a field was matters only if it is not given anew. -/
theorem Revised.apply_congr {new : Revised α} {old old' : Option α} (h : new = none → old = old') :
    new.apply old = new.apply old' := by
  cases new with
  | none => exact h rfl
  | some value => rfl

theorem Revised.apply_apply (new : Revised α) (old : Option α) :
    new.apply (new.apply old) = new.apply old := by
  cases new <;> rfl

namespace Parameters

theorem revise_revise_self (p : Parameters) (r : Revision) :
    (p.revise r).revise r = p.revise r := by
  simp only [revise, Primary.revise, Tuning.revise, Estimates.revise, Revised.apply_apply]

theorem get?_of_primary {p : Parameters} {field : String} {value : FieldValue}
    (h : p.primary.get? field = some value) : p.get? field = some value := by
  rw [get?, h]
  rfl

end Parameters

end Teller
