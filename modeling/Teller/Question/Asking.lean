import Teller.Question.Detection

/-!
# Asking questions

For the most urgent ambiguity of a request there is one question. The choices of a question are
built from the entities of the request and from the venues that serve its intent.
-/

namespace Teller

open Ambiguity

/-- What a question is asked about. -/
structure Inquiry where
  intent : Intent
  entities : List Entity
  ambiguities : List Ambiguity
  account : Option Account := none

/-- Why no question can be asked. -/
inductive AskError where
  /-- Nothing that is ambiguous can be asked about. -/
  | nothingToAsk (ambiguities : List Ambiguity)
  /-- The choices could not be built. -/
  | broken (fault : Fault)
  deriving DecidableEq, Repr

def AskError.failure : AskError → Failure
  | nothingToAsk ambiguities =>
    .of .commandProcessing .noStrategies "No disambiguation strategies available"
      [("ambiguities", .texts (ambiguities.map (·.name)))]
  | broken fault =>
    .of .commandProcessing .disambiguationError "Failed to generate disambiguation options"
      [("original_error", .text fault.describe)]

namespace Question

/-- A question whose default is its first choice; it must have one. -/
def of? (text : String) (timeout : Int) (ambiguity : Ambiguity) (whenEmpty : Fault) :
    List Choice → Except Fault Question
  | [] => .error whenEmpty
  | first :: others =>
    .ok { text, first, others, default := some first.id, timeout, ambiguity := some ambiguity }

/-- The identifier of the choice to go ahead in spite of a risk. -/
def proceedId : String := "proceed_with_risk"

/-- The identifier of the choice to cancel a risky operation. -/
def cancelId : String := "cancel_risky_operation"

/-- The identifier of the choice to reduce a risk. -/
def reduceId : String := "reduce_risk"

/-- The intents that are offered when the intent is unclear. -/
def commonIntents : List (Intent × String × String) :=
  [(.lend, "Lend/Supply tokens", "Earn yield by lending your tokens"),
    (.borrow, "Borrow tokens", "Borrow tokens against your collateral"),
    (.swap, "Swap tokens", "Exchange one token for another"),
    (.portfolioStatus, "Check portfolio", "View your current positions and balances"),
    (.showRates, "Check rates", "View current lending and borrowing rates")]

def intentChoice (intent : Intent) (label description : String) : Choice :=
  { id := s!"intent_{intent.name}", label, description, confidence := 0.9, intent := some intent }

/-- The question what the user wants. -/
def unclearIntent : Except Fault Question :=
  of? "What would you like to do?" 45000 .unclearIntent .outOfRange
    (commonIntents.map fun (intent, label, description) => intentChoice intent label description)

/-- The question which way to swap. -/
def tokenDirection (i : Inquiry) : Except Fault Question :=
  match (Entity.ofKind .token i.entities).head?, (Entity.ofKind .amount i.entities).head? with
  | some tokenEntity, some amountEntity =>
    let token := tokenEntity.normalized
    let amount := amountEntity.normalized
    of? s!"Do you want to swap FROM {token} or TO {token}?" 30000 .tokenDirection .outOfRange [
      { id := "from_token"
        label := s!"Swap FROM {token}"
        description := s!"Sell {amount} {token} for another token"
        revision := { primary :=
          { fromToken := some (some token), amount := some (some amount), token := some none } }
        confidence := 0.8 },
      { id := "to_token"
        label := s!"Swap TO {token}"
        description := s!"Buy {token} with another token"
        revision := { primary := { toToken := some (some token), token := some none } }
        confidence := 0.8 }]
  | _, _ => .error .noDirection

def venueChoice (idPrefix : String) (venue : Venue) (description : String) (confidence : Float) :
    Choice :=
  { id := idPrefix ++ venue.id
    label := venue.title
    description
    revision := { primary := { protocol := some (some venue.id) } }
    confidence }

/-- A venue in which the user already holds positions is offered with more confidence. -/
def venueConfidence (i : Inquiry) (venue : Venue) : Float :=
  let used := ((i.account.map (·.protocols)).getD []).map Text.lower
  if used.contains venue.id then 0.8 + 0.1 else 0.8

def missingProtocol (i : Inquiry) : Except Fault Question :=
  of? "Which protocol would you like to use?" 30000 .missingProtocol .outOfRange
    ((Venue.serving i.intent).map fun v =>
      venueChoice "protocol_" v (Venue.describe v.title i.intent) (venueConfidence i v))

/-- The question which of several amounts is meant. -/
def multipleAmounts (i : Inquiry) : Except Fault Question :=
  of? "Which amount do you want to use?" 30000 .multipleAmounts .outOfRange
    ((Entity.ofKind .amount i.entities).mapIdx fun n e =>
      { id := s!"amount_{n}"
        label := e.value
        description := s!"Use {e.normalized} as the amount"
        revision := { primary := { amount := some (some e.normalized) } }
        confidence := e.confidence })

/-- The question which of several venues in use is preferred. -/
def protocolChoice (i : Inquiry) : Except Fault Question :=
  of? "Which protocol offers the best value for your needs?" 30000 .protocolChoice .outOfRange
    ((Venue.serving i.intent).map fun v =>
      venueChoice "choice_" v ((v.comparison? i.intent).getD s!"Use {v.title} protocol") 0.85)

/-- Half the amount, and a leverage of at most two. -/
def reducedRisk (i : Inquiry) : Primary.Revision where
  amount := ((firstNumber? .amount i.entities).filter (· != 0)).map fun x =>
    some (Number.plain (x / 2))
  leverage := ((firstNumber? .leverage i.entities).filter (2 < ·)).map fun _ => some 2

/-- The question whether to go ahead in spite of a risk; the default is to cancel. -/
def riskConfirmation (i : Inquiry) : Question :=
  let acknowledged : Tuning.Revision := { riskAcknowledged := some (some true) }
  { text := "This operation carries significant risk. Do you want to proceed?"
    first :=
      { id := proceedId
        label := "Yes, proceed"
        description := "I understand the risks and want to proceed"
        revision := { tuning := acknowledged }
        confidence := 0.9 }
    others := [
      { id := cancelId
        label := "No, cancel"
        description := "Cancel this operation for safety"
        confidence := 0.9 },
      { id := reduceId
        label := "Reduce risk"
        description := "Modify the operation to reduce risk"
        revision := { primary := reducedRisk i, tuning := acknowledged }
        confidence := 0.8 }]
    default := some cancelId
    timeout := 60000
    ambiguity := some .riskConfirmation }

/-- The choices between contradicting numbers of one kind. -/
def conflictChoices (i : Inquiry) (kind : Entity.Kind) (revise : Float → Primary.Revision) :
    List Choice :=
  let numbers := distinctNumbers kind i.entities
  if numbers.length < 2 then []
  else numbers.mapIdx fun n (e, x) =>
    { id := s!"{kind.name}_{n}"
      label := s!"{e.value} {kind.name}"
      description := s!"Use {e.normalized} as the {kind.name}"
      revision := { primary := revise x }
      confidence := e.confidence }

def parameterConflict (i : Inquiry) : Except Fault Question :=
  of? "Which value should I use?" 30000 .parameterConflict .invalidRecord
    (conflictChoices i .leverage (fun x => { leverage := some (some x) }) ++
      conflictChoices i .slippage (fun x => { slippage := some (some x) }))

def about? (i : Inquiry) : Ambiguity → Except AskError Question
  | .unclearIntent => unclearIntent.mapError .broken
  | .tokenDirection => (tokenDirection i).mapError .broken
  | .missingProtocol => (missingProtocol i).mapError .broken
  | .multipleAmounts => (multipleAmounts i).mapError .broken
  | .protocolChoice => (protocolChoice i).mapError .broken
  | .riskConfirmation => .ok (riskConfirmation i)
  | .parameterConflict => (parameterConflict i).mapError .broken
  | .missingToken => .error (.nothingToAsk i.ambiguities)

/-- The question about the most urgent ambiguity. -/
def ask (i : Inquiry) : Except AskError Question :=
  match urgency.find? i.ambiguities.contains with
  | some a => about? i a
  | none => .error (.nothingToAsk i.ambiguities)

end Question

/-- Hints that go with a question: the user's favourite venue, and what is known about the intent.
-/
def Inquiry.hints (i : Inquiry) : List String :=
  let favourite := (Venue.mostUsed? ((i.account.map (·.protocols)).getD [])).bind fun protocol =>
    (Venue.serving i.intent).find? (·.id == Text.lower protocol)
  (match favourite with
    | some v => [s!"You frequently use {v.title}"]
    | none => []) ++
  (if i.intent = .lend then ["Silo currently offers the highest USDC lending rates"] else []) ++
  (if i.intent = .swap then ["Symphony typically has better rates for large swaps"] else []) ++
  (if i.ambiguities.contains .riskConfirmation then
    ["Consider starting with a smaller amount to test the strategy"] else [])

end Teller
