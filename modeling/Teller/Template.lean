import Teller.Fault
import Teller.Intent
import Teller.Parameters
import Teller.Text.PatternText

/-!
# Templates of commands

For each intent that the desk carries out, a template states the required parameters, the rules that
parameters must pass, and what the command usually costs.
-/

namespace Teller

/-- A check that a rule can apply to a value: one of the two that the templates apply, or any other,
which may break off. -/
inductive Rule.Check where
  | positive | supportedToken
  | other (name : String) (passes : FieldValue → Except Fault Bool)

def Rule.Check.name : Rule.Check → String
  | positive => "positive"
  | supportedToken => "supported_token"
  | other name _ => name

def Rule.Check.ofName? (name : String) : Option Rule.Check :=
  [positive, supportedToken].find? (·.name == name)

/-- A value that a rule allows: its text, and whether the value of a field equals it, which may
break off. -/
structure Rule.Allowed where
  shown : String
  equals : FieldValue → Except Fault Bool

/-- A text that a rule allows; only this text equals it. -/
def Rule.Allowed.ofText (allowed : String) : Rule.Allowed where
  shown := allowed
  equals value := .ok (match value with
    | .text s => s == allowed
    | _ => false)

instance : Coe (Option (List String)) (Option (List Rule.Allowed)) :=
  ⟨Option.map (List.map Rule.Allowed.ofText)⟩

/-- A search in texts for what a pattern describes. It breaks off if the pattern is not well formed.
-/
structure Rule.Search where
  pattern : String
  finds : String → Except Fault Bool

/-- The search for a pattern that is given as text. -/
def Rule.Search.ofPattern (pattern : String) : Rule.Search where
  pattern := pattern
  finds s := match Text.Pattern.ofText? pattern with
    | some p => .ok (p.matchesIn s)
    | none => .error .badPattern

instance : Coe (Option String) (Option Rule.Search) := ⟨Option.map Rule.Search.ofPattern⟩

/-- What a rule asks of a value. The empty pattern asks for nothing. -/
structure Rule.Constraints where
  least : Option Float := none
  most : Option Float := none
  pattern : Option Rule.Search := none
  oneOf : Option (List Rule.Allowed) := none
  custom : Option Rule.Check := none

/-- What kind of value a rule asks for; an unknown kind asks for nothing. -/
inductive Rule.Kind where
  | string | number | boolean | token | protocol | address
  | other (name : String)
  deriving DecidableEq, Repr

namespace Rule.Kind

def name : Rule.Kind → String
  | string => "string"
  | number => "number"
  | boolean => "boolean"
  | token => "token"
  | protocol => "protocol"
  | address => "address"
  | other name => name

def ofName (name : String) : Rule.Kind :=
  ([string, number, boolean, token, protocol, address].find? (·.name == name)).getD (other name)

end Rule.Kind

structure Rule where
  field : String
  kind : Rule.Kind
  required : Bool := false
  check : Option Rule.Check := none
  constraints : Option Rule.Constraints := none

def Rule.document (r : Rule) : Document :=
  .record [("field", .text r.field), ("type", .text r.kind.name), ("required", .flag r.required),
    ("validator", .text? (r.check.map (·.name))),
    ("min", .real? (r.constraints.bind (·.least))), ("max", .real? (r.constraints.bind (·.most)))]

/-- What the desk knows about carrying out an intent. -/
structure Template where
  intent : Intent
  action : String
  required : List String
  optional : List String := []
  rules : List Rule := []
  risk : String := "low"
  gas : Int := 100000
  examples : List String := []

namespace Template

/-- Tokens that the lending and swap venues accept. -/
def supportedTokens : List String := ["USDC", "USDT", "SEI", "ETH"]

def amountRule : Rule where
  field := "amount"
  kind := .number
  required := true
  check := some .positive
  constraints := some { least := some 0.01 }

/-- The rule for a token that must be a supported one. -/
def tokenRule (field : String) : Rule where
  field := field
  kind := .token
  required := true
  check := some .supportedToken

/-- The rule for a token of the catalog. -/
def anyTokenRule : Rule where
  field := "token"
  kind := .token
  required := true

def protocolRule : Rule where
  field := "protocol"
  kind := .protocol

def slippageRule : Rule where
  field := "slippage"
  kind := .number
  constraints := some { least := some 0, most := some 50 }

def leverageRule : Rule where
  field := "leverage"
  kind := .number
  constraints := some { least := some 1, most := some 50 }

def recipientRule : Rule where
  field := "recipient"
  kind := .address

def all : List Template := [
  { intent := .lend, action := "supply", required := ["amount", "token"]
    optional := ["protocol", "deadline"]
    rules := [amountRule, tokenRule "token", protocolRule]
    risk := "low", gas := 150000, examples := ["Lend 1000 USDC", "Supply 500 USDT to Silo"] },
  { intent := .borrow, action := "borrow", required := ["amount", "token"]
    optional := ["protocol", "leverage", "deadline"]
    rules := [amountRule, tokenRule "token", protocolRule, leverageRule]
    risk := "medium", gas := 200000, examples := ["Borrow 500 USDT", "Take 1000 USDC loan"] },
  { intent := .repay, action := "repay", required := ["amount", "token"]
    optional := ["protocol"]
    rules := [amountRule, tokenRule "token", protocolRule]
    gas := 120000, examples := ["Repay 200 USDC"] },
  { intent := .withdraw, action := "withdraw", required := ["amount", "token"]
    optional := ["protocol", "recipient"]
    rules := [amountRule, tokenRule "token", protocolRule, recipientRule]
    gas := 120000, examples := ["Withdraw 300 USDC from Takara"] },
  { intent := .swap, action := "swap", required := ["amount", "from_token", "to_token"]
    optional := ["protocol", "slippage", "deadline", "recipient"]
    rules := [amountRule, tokenRule "from_token", tokenRule "to_token", protocolRule, slippageRule,
      recipientRule]
    risk := "low", gas := 120000
    examples := ["Swap 1000 USDC to SEI", "Trade 500 USDT for ETH"] },
  { intent := .addLiquidity, action := "addLiquidity", required := ["amount", "token"]
    optional := ["protocol", "slippage"]
    rules := [amountRule, anyTokenRule, protocolRule, slippageRule]
    risk := "medium", gas := 250000, examples := ["Add 1000 USDC liquidity on DragonSwap"] },
  { intent := .removeLiquidity, action := "removeLiquidity", required := ["amount", "token"]
    optional := ["protocol", "slippage"]
    rules := [amountRule, anyTokenRule, protocolRule]
    risk := "medium", gas := 200000, examples := ["Remove 500 USDC liquidity from Symphony"] },
  { intent := .openPosition, action := "openPosition", required := ["amount", "token"]
    optional := ["protocol", "leverage", "slippage"]
    rules := [amountRule, anyTokenRule, protocolRule, leverageRule]
    risk := "high", gas := 300000, examples := ["Open a 5x long on ETH with 1000 USDC"] },
  { intent := .closePosition, action := "closePosition", required := ["token"]
    optional := ["protocol", "amount"]
    rules := [anyTokenRule, protocolRule]
    risk := "medium", gas := 200000, examples := ["Close my ETH position"] },
  { intent := .arbitrage, action := "arbitrage", required := ["amount", "token"]
    optional := ["slippage"]
    rules := [amountRule, anyTokenRule, slippageRule]
    risk := "high", gas := 400000
    examples := ["Arbitrage 5000 USDC between DragonSwap and Symphony"] },
  { intent := .portfolioStatus, action := "getPortfolioStatus", required := []
    gas := 0, examples := ["Show my portfolio"] },
  { intent := .showRates, action := "getRates", required := []
    optional := ["protocol", "token"]
    rules := [protocolRule]
    gas := 0, examples := ["What are the USDC lending rates?"] }]

def of? (intent : Intent) : Option Template := all.find? (·.intent == intent)

/-- The intents that the desk carries out. -/
def supportedIntents : List Intent := all.map (·.intent)

def document (t : Template) : Document :=
  .record [("intent", .text t.intent.name), ("action", .text t.action),
    ("required_parameters", .texts t.required), ("optional_parameters", .texts t.optional),
    ("risk_level", .text t.risk), ("gas_estimate", .whole t.gas), ("examples", .texts t.examples),
    ("validation_rules", .listOf Rule.document t.rules)]

end Template

end Teller
