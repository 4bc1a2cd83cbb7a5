import Teller.Account
import Teller.Listing
import Teller.Question.Asking
import Teller.Validation.Rules

/-!
# Review of parameters

Parameters are reviewed in stages: required parameters, some of which the account can supply; the
rules of the template; the business rules of the intent; and what is still ambiguous. The stages add
to one list of errors and one of warnings.
-/

namespace Teller

open Listing

/-- Bounds of the business rules. -/
structure Review.Config where
  borrowLtv : Float := 0.75
  liquidTokens : List String := ["USDC", "USDT", "ETH", "SEI", "WSEI"]
  highBalanceRatio : Float := 0.9
  highUtilizationRatio : Float := 0.8
  maxPriceImpact : Float := 5

/-- What a review has found. If it asks, nothing is carried out before there is an answer. -/
structure Review where
  errors : List Finding := []
  warnings : List Finding := []
  asks : Bool := false
  question : Option Question := none
  suggestions : List String := []
  inferred : Table String := []

namespace Review

/-- The errors that block the command. -/
def blocking (r : Review) : List Finding := r.errors.filter (·.isBlocking)

/-- Nothing blocks the command. -/
def isValid (r : Review) : Bool := r.blocking.isEmpty

/-- What is under review. -/
structure Subject where
  intent : Intent
  parameters : Parameters
  template : Template
  account : Option Account := none
  entities : Option (List Entity) := none

/-! ## Required parameters -/

/-- How to state a missing parameter. -/
def hint (intent : Intent) (field : String) : String :=
  match intent, field with
  | .lend, "amount" => "Specify amount like \"1000\" or \"500.5\""
  | .lend, "token" => "Specify token like \"USDC\" or \"ETH\""
  | .lend, "protocol" => "Specify protocol like \"Silo\" or \"Takara\""
  | .swap, "amount" => "Specify amount to swap"
  | .swap, "from_token" => "Specify token to swap from"
  | .swap, "to_token" => "Specify token to swap to"
  | .swap, "protocol" => "Specify DEX like \"DragonSwap\" or \"Symphony\""
  | _, _ => s!"Please specify {field}"

/-- What the account supplies for a missing parameter: the most used protocol, or the token with the
greatest balance. -/
def infer? (account : Option Account) (field : String) : Option String :=
  account.bind fun a =>
    match field with
    | "protocol" => Venue.mostUsed? a.protocols
    | "token" => a.greatestBalance?
    | _ => none

/-- The parameter has a value; an empty text is none. -/
def isStated (p : Primary) (field : String) : Bool :=
  match p.get? field with
  | none | some (.text "") => false
  | some _ => true

def inferenceNote (field value : String) : Finding :=
  ⟨field, .parameterInferred, s!"Parameter '{field}' inferred from context: {value}", .info, none⟩

def missing (intent : Intent) (field : String) : Finding :=
  .error field .requiredParameterMissing s!"Required parameter '{field}' is missing"
    (some (hint intent field))

/-- The required parameters that have no value, each with what the account supplies. -/
def unstated (s : Subject) : List (String × Option String) :=
  (s.template.required.filter fun field => !isStated s.parameters.primary field).map fun field =>
    (field, infer? s.account field)

def requiredErrors (s : Subject) : List Finding :=
  (unstated s).filterMap fun (field, value) =>
    if value.isNone then some (missing s.template.intent field) else none

def inferenceNotes (s : Subject) : List Finding :=
  (unstated s).filterMap fun (field, value) => value.map (inferenceNote field)

/-- The values that the account supplies. -/
def inferences (s : Subject) : Table String :=
  .ofList ((unstated s).filterMap fun (field, value) => value.map (field, ·))

/-! ## Business rules -/

/-- What the business rules find. -/
structure Business where
  errors : List Finding := []
  warnings : List Finding := []

def amountOf? (p : Primary) : Option Float := p.amount.bind Number.read?

def balanceOf? (account : Option Account) (token : Option String) : Option Float :=
  account.bind (·.balanceOf? token)

/-- The error that a balance does not cover an amount. -/
def insufficientBalance (token : Option String) (balance : Float) (requested : Option String) :
    Finding :=
  let held := Number.general balance
  let name := token.getD ""
  let wanted := requested.getD ""
  .error "amount" .insufficientBalance
    s!"Insufficient {name} balance. Available: {held}, Required: {wanted}"
    (some s!"Use amount less than or equal to {held}")

/-- Lending takes no more than the balance, and most of it only with a warning. -/
def checkLending (config : Config) (s : Subject) : Business :=
  let p := s.parameters.primary
  match amountOf? p, balanceOf? s.account p.token with
  | some amount, some balance =>
    if balance < amount then { errors := [insufficientBalance p.token balance p.amount] }
    else if balance * config.highBalanceRatio < amount then
      let share := if balance != 0 then amount / balance * 100 else 100
      let token := p.token.getD ""
      { warnings := [.warning "amount" .highPercentageOfBalance
          s!"You are lending {Number.fixed 1 share}% of your {token} balance"
          (some "Consider keeping some tokens for gas fees and emergencies")] }
    else {}
  | _, _ => {}

/-- Borrowing takes no more than the configured part of what was lent. -/
def checkBorrowing (config : Config) (s : Subject) : Business :=
  let p := s.parameters.primary
  match amountOf? p, stated? p.token, s.account with
  | some amount, some _, some account =>
    let most := account.collateral * config.borrowLtv
    if most < amount then
      let limit := Number.fixed 2 most
      let requested := p.amount.getD ""
      { errors := [.error "amount" .insufficientCollateral
          s!"Insufficient collateral. Max borrow: {limit}, Requested: {requested}"
          (some s!"Reduce amount to {limit} or add more collateral")] }
    else if most * config.highUtilizationRatio < amount then
      { warnings := [.warning "amount" .highUtilization
          "High borrowing utilization increases liquidation risk"
          (some "Consider borrowing less to maintain a healthy position")] }
    else {}
  | _, _, _ => {}

/-- Both tokens of a swap are the same, in any case. -/
def isSelfSwap (p : Primary) : Bool :=
  match stated? p.fromToken, stated? p.toToken with
  | some a, some b => Text.upper a == Text.upper b
  | _, _ => false

/-- Swapping needs two tokens, a balance that covers the amount, and warns of a high price impact.
-/
def checkSwap (config : Config) (s : Subject) : Business :=
  let p := s.parameters.primary
  let same := if isSelfSwap p then
      [.error "to_token" .sameTokenSwap "Cannot swap a token to itself"
        (some "Choose a different token to swap to")]
    else []
  let uncovered := match amountOf? p, balanceOf? s.account p.fromToken with
    | some amount, some balance =>
      if balance < amount then [insufficientBalance p.fromToken balance p.amount] else []
    | _, _ => []
  let impact := match s.parameters.estimates.priceImpact with
    | some impact =>
      if config.maxPriceImpact < impact then
        [.warning "amount" .highPriceImpact s!"High price impact: {Number.fixed 2 impact}%"
          (some "Consider splitting the trade or using a different route")]
      else []
    | none => []
  { errors := same ++ uncovered, warnings := impact }

/-- Providing liquidity warns of tokens that are not known to be liquid. -/
def checkLiquidity (config : Config) (s : Subject) : Business :=
  match stated? s.parameters.primary.token with
  | some token =>
    if (config.liquidTokens.map Text.upper).contains (Text.upper token) then {}
    else
      { warnings := [.warning "token" .lowLiquidityToken
          s!"{token} may have low liquidity in pools"
          (some "Consider using more liquid tokens like USDC or ETH")] }
  | none => {}

def business (config : Config) (s : Subject) : Business :=
  match s.intent with
  | .lend => checkLending config s
  | .borrow => checkBorrowing config s
  | .swap => checkSwap config s
  | .addLiquidity => checkLiquidity config s
  | _ => {}

/-! ## Ambiguities -/

/-- The entities under review: the recognised ones, or those that the parameters imply. -/
def Subject.allEntities (s : Subject) : List Entity :=
  s.entities.getD (Ambiguity.entitiesOf s.parameters.primary)

/-- What is ambiguous. The direction of a swap is clear once one of its tokens is. -/
def ambiguities (s : Subject) : List Ambiguity :=
  let p := s.parameters.primary
  let found := Ambiguity.detect s.intent s.allEntities s.account
    (s.parameters.tuning.riskAcknowledged.getD false)
  if (stated? p.fromToken).isSome || (stated? p.toToken).isSome then
    found.filter (· != .tokenDirection)
  else found

/-- What a question would be asked about. -/
def inquiry (s : Subject) : Inquiry where
  intent := s.intent
  entities := s.allEntities
  ambiguities := ambiguities s
  account := s.account

/-- What the check for ambiguities finds. -/
@[ext]
structure Doubt where
  asks : Bool := false
  question : Option Question := none

/-- Whatever is ambiguous must be asked about, if there is a question to ask. -/
def checkAmbiguities (s : Subject) : Doubt :=
  if (ambiguities s).isEmpty then {}
  else
    match Question.ask (inquiry s) with
    | .ok q => { asks := true, question := some q }
    | .error _ => {}

/-- The question that is still open. -/
def openQuestion? (s : Subject) : Option Question := (checkAmbiguities s).question

/-! ## Suggestions -/

/-- What the user might consider. -/
def advice (s : Subject) : List String :=
  let p := s.parameters.primary
  let venues := (Venue.serving s.intent).map (·.title)
  let token := (stated? p.token).or p.fromToken
  (if (stated? p.protocol).isNone && !venues.isEmpty then
    ["Try specifying a protocol: " ++ Text.joined ", " venues] else []) ++
  (match amountOf? p, balanceOf? s.account token with
    | some amount, some balance =>
      if balance * 0.95 < amount then
        ["Consider leaving some " ++ token.getD "" ++ " for gas fees"] else []
    | _, _ => []) ++
  (if s.intent = .borrow && p.leverage.any (3 < ·) then
    ["Consider lower leverage to reduce liquidation risk"] else [])

end Review

/-! ## The review -/

open Review in
/-- Reviews parameters in all stages. -/
def review (config : Review.Config) (catalog : Asset.Catalog) (s : Review.Subject) : Review :=
  let b := business config s
  let d := checkAmbiguities s
  { errors := requiredErrors s ++ Rule.checkAll catalog s.parameters s.template.rules ++ b.errors
    warnings := inferenceNotes s ++ b.warnings
    asks := d.asks
    question := d.question
    suggestions := advice s
    inferred := inferences s }

namespace Review

/-- The review that could not be carried out. -/
def unexpected : Review where
  errors := [.error "general" .validationError "Unexpected validation error"]

def document (r : Review) : Document :=
  .record [("errors", .listOf Finding.document r.errors),
    ("warnings", .listOf Finding.document r.warnings), ("is_valid", .flag r.isValid),
    ("requires_disambiguation", .flag r.asks),
    ("disambiguation_options", .orNull Question.document r.question),
    ("suggestions", .texts r.suggestions),
    ("inferred_parameters", .record (r.inferred.map fun (field, value) => (field, .text value))),
    ("blocking", .whole r.blocking.length)]

end Review

end Teller
