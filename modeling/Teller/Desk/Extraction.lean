import Teller.Desk.Basic
import Teller.Desk.Estimation

/-!
# Extraction of parameters

The parameters that entities state: the first amount, protocol, leverage and slippage, and one
token, or two tokens of which the first is given and the second wanted.
-/

namespace Teller.Desk

/-- The normalized text of the first entity of a kind. -/
def firstText? (kind : Entity.Kind) (entities : List Entity) : Option String :=
  (Entity.ofKind kind entities).head?.map (·.normalized)

/-- What entities state, with a deadline. -/
def primaryOf (deadline : Int) (entities : List Entity) : Primary :=
  let tokens := (Entity.ofKind .token entities).map (·.normalized)
  let (token, fromToken, toToken) := match tokens with
    | [] => (none, none, none)
    | [only] => (some only, none, none)
    | given :: wanted :: _ => (none, some given, some wanted)
  { amount := firstText? .amount entities
    token
    fromToken
    toToken
    protocol := firstText? .protocol entities
    leverage := (firstText? .leverage entities).bind Number.read?
    slippage := (firstText? .slippage entities).bind Number.read?
    deadline := some deadline }

/-- The execution that follows from what was stated and from the account. -/
def tuningOf (desk : Desk) (p : Primary) (account : Option Account) : Tuning where
  maxSlippage := some (p.slippage.getD desk.slippage)
  gasPrice := account.bind (·.gasPrice)

/-- The gas of a template as a double; without a template there is none. -/
def gasOf (template : Option Template) : Float :=
  match template with
  | some t => Float.ofInt t.gas
  | none => 0

/-- The parameters with estimates made anew. -/
def estimated (desk : Desk) (intent : Intent) (template : Option Template)
    (account : Option Account) (p : Parameters) : Parameters :=
  { p with
    estimates := .derive desk.slippage intent p.primary p.tuning (gasOf template) account }

/-- The parameters that entities state. -/
def extract (desk : Desk) (moment : Moment) (intent : Intent) (template : Option Template)
    (account : Option Account) (entities : List Entity) : Parameters :=
  let primary := primaryOf (moment.seconds + desk.deadline) entities
  estimated desk intent template account { primary, tuning := tuningOf desk primary account }

end Teller.Desk
