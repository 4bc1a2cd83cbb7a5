import Teller.Account
import Teller.Intake.Basic
import Teller.Question.Basic

/-!
# Intake of requests

Entities, parameters, questions and accounts as they come from outside. Which fields of parameters
are given, be it without a value, is kept: it decides what a revision takes over.
-/

namespace Teller.Intake

/-! ## Entities -/

def entity : Document → Checked Entity :=
  record fun d =>
    Entity.mk <$> required "type" (member Entity.Kind.ofName? .unknownMember) d
      <*> required "value" text d <*> required "normalized" text d
      <*> defaulted "confidence" share 1 d

/-! ## Parameters -/

def feeKind? (name : String) : Option Fee.Kind := Fee.Kind.all.find? (·.name == name)

def fee : Document → Checked Fee :=
  record fun d =>
    Fee.mk <$> required "type" (member feeKind? .unknownLiteral) d
      <*> required "amount" text d <*> required "token" text d
      <*> defaulted "percentage" real 0 d

def hop : Document → Checked Hop :=
  record fun d =>
    Hop.mk <$> required "protocol" text d <*> required "token_in" text d
      <*> required "token_out" text d <*> optional "pool" text d <*> optional "amount_in" text d
      <*> optional "amount_out" text d

def primary : Document → Checked Primary.Revision :=
  record fun d =>
    Primary.Revision.mk <$> given "amount" text d <*> given "token" text d
      <*> given "from_token" text d <*> given "to_token" text d <*> given "protocol" text d
      <*> given "leverage" real d <*> given "slippage" real d <*> given "deadline" whole d

def tuning : Document → Checked Tuning.Revision :=
  record fun d =>
    Tuning.Revision.mk <$> given "max_slippage" real d <*> given "min_output" text d
      <*> given "gas_limit" whole d <*> given "gas_price" text d <*> given "recipient" text d
      <*> given "referrer" text d <*> given "route" (list text) d
      <*> given "risk_acknowledged" flag d

def estimates : Document → Checked Estimates.Revision :=
  record fun d =>
    Estimates.Revision.mk <$> given "output_amount" text d <*> given "price_impact" real d
      <*> given "fees" (list fee) d <*> given "route" (list hop) d
      <*> given "health_factor_after" real d <*> given "liquidation_price" text d
      <*> given "total_cost" text d

/-- Parameters, as a revision. -/
def parameters : Document → Checked Parameters.Revision :=
  record fun d =>
    Parameters.Revision.mk <$> defaulted "primary" primary {} d <*> defaulted "optional" tuning {} d
      <*> defaulted "derived" estimates {} d

/-! ## Questions -/

def choice : Document → Checked Choice :=
  record fun d =>
    Choice.mk <$> required "id" text d <*> required "label" text d <*> required "description" text d
      <*> defaulted "parameters" parameters {} d <*> required "confidence" share d
      <*> optional "intent" (member Intent.ofName? .unknownMember) d

/-- At least one choice. -/
def choices (d : Document) : Checked (Choice × List Choice) :=
  match list choice d with
  | .ok (first :: others) => Checked.ok (first, others)
  | .ok [] => Checked.complain .tooShort
  | .error e => .error e

def question : Document → Checked Question :=
  record fun d =>
    (fun text (first, others) default timeout ambiguity =>
        { text, first, others, default, timeout, ambiguity }) <$>
      required "question" text d <*> required "options" choices d
      <*> optional "default_option" text d <*> defaulted "timeout" whole 30000 d
      <*> optional "ambiguity_type" (member Ambiguity.ofName? .unknownMember) d

/-! ## Accounts -/

def position : Document → Checked Position :=
  record fun d =>
    Position.mk <$> required "protocol" text d <*> required "type" text d
      <*> required "value" real d <*> optional "health_factor" real d

/-- A list of pairs, the first of each in its own text. -/
def pairs : Document → List (String × Document)
  | .list items => items.filterMap fun
    | .list [name, value] => some (name.plain, value)
    | _ => none
  | _ => []

/-- Balances; whatever they are given as, their texts are kept. -/
def balances (d : Document) : Table String :=
  Account.tokenTable ((pairs d).map fun (token, amount) => (token, amount.plain))

/-- The values of a table, each read under its name. -/
def tableOf {α : Type} (read : Document → Checked α) (entries : Table Document) :
    Checked (Table α) :=
  Checked.all (entries.map fun (name, value) => ((name, ·) <$> read value).within name)

/-- Allowances by token and spender. -/
def allowances (d : Document) : Checked (Table (Table String)) :=
  tableOf (fun spenders => tableOf text (.ofList (pairs spenders))) (Account.tokenTable (pairs d))

def account : Document → Checked Account :=
  record fun d =>
    (fun address allowances positions gasPrice =>
        { address, balances := balances ((d.get? "balances").getD .null), allowances, positions
          gasPrice }) <$>
      optional "user_address" text d <*> defaulted "allowances" (fun v => allowances v) [] d
      <*> defaulted "positions" (list position) [] d <*> optional "gas_price" text d

end Teller.Intake
