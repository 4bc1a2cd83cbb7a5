import Teller.Desk.Extraction

/-!
# Outcomes

What the desk answers to a request: a command, or the errors and the question that stand in its way,
together with suggestions and hints.

    command_outcomeOf_isSome_iff      there is a command exactly if nothing blocks it and nothing is asked
    of_command_outcomeOf              and it is the command that was built
-/

namespace Teller

inductive Advice.Kind where
  | optimization | warning | alternative
  deriving DecidableEq, Repr

def Advice.Kind.name : Advice.Kind → String
  | optimization => "optimization"
  | warning => "warning"
  | alternative => "alternative"

/-- A suggestion that goes with a command. -/
structure Advice where
  kind : Advice.Kind
  title : String
  description : String
  action : String
  benefit : Option String := none
  risk : Option Command.Risk := none

/-- The answer to a request. If it asks, there is no command before the question is answered. Only a
request whose intent is unclear has no gas and no risk. -/
structure Outcome where
  intent : Intent
  parameters : Parameters
  command : Option Command := none
  errors : List Finding := []
  warnings : List Finding := []
  advice : List Advice := []
  hints : List String := []
  asks : Bool := false
  question : Option Question := none
  gas : Option Int := none
  risk : Option Command.Risk := none

namespace Desk

/-! ## Metadata -/

/-- The approval that a command needs, if the allowance does not cover its amount. -/
def approvalsFor (p : Primary) (account : Option Account) : List Approval :=
  match p.spent?, p.amount, p.amount.bind Number.read? with
  | some token, some amount, some required =>
    let spender := (stated? p.protocol).getD "protocol"
    let allowed := (account.map (·.allowance token spender)).getD 0
    if required ≤ allowed then [] else [{ token, spender, amount }]
  | _, _, _ => []

/-- The protocols that a command involves: the named one, and those of its route. -/
def protocolsOf (p : Parameters) : List String :=
  let route := (p.estimates.route.getD []).map (·.protocol)
  Listing.distinct ((stated? p.primary.protocol).toList ++ route)

/-- How long a command is expected to take: a minute, half a minute for each approval and for each
exchange of a longer route, and two minutes for arbitrage. -/
def durationOf (intent : Intent) (p : Parameters) (approvals : Nat) : Int :=
  let hops := (p.estimates.route.getD []).length
  60 + 30 * approvals + (if intent.isArbitrage then 120 else 0) + (if 1 < hops then 30 * hops else 0)

/-- A command with its metadata; the time is the one at which it was built. -/
def withMetadata (c : Command) (account : Option Account) (confidence : Float)
    (warnings : List Finding) : Command :=
  let approvals := approvalsFor c.parameters.primary account
  { c with
    metadata := {
      timestamp := c.metadata.timestamp
      confidence
      approvals
      protocols := protocolsOf c.parameters
      duration := durationOf c.intent c.parameters approvals.length }
    status := if warnings.any (·.severity == .warning) then .warning else .valid }

/-! ## Suggestions and hints -/

/-- The suggestion to split a swap with a high price impact. -/
def splitTrade : Advice where
  kind := .optimization
  title := "High Price Impact"
  description := "Consider splitting the trade into smaller amounts"
  action := "Split trade into multiple transactions"
  benefit := some "Reduced slippage and better price"

/-- The suggestion to take less risk. -/
def lowerRisk : Advice where
  kind := .warning
  title := "High Risk Operation"
  description := "This operation carries significant risk"
  action := "Consider reducing the amount or leverage"
  risk := some .high

/-- The suggestion to compare with another venue. -/
def otherVenue : Advice where
  kind := .alternative
  title := "Alternative Protocol"
  description := "Symphony might offer better rates"
  action := "Compare rates on Symphony"
  benefit := some "Potentially better APY"

def adviceFor (c : Command) : List Advice :=
  (if c.intent = .swap && c.parameters.estimates.priceImpact.any (1 < ·) then [splitTrade] else []) ++
    (if c.risk = .high then [lowerRisk] else []) ++
    (if c.parameters.primary.protocol = some Venue.dragonswap.id then [otherVenue] else [])

/-- What the assessment of risk warns of, if the amount is a number. -/
def riskHints (desk : Desk) (intent : Intent) (p : Primary) : List String :=
  match p.amount.bind Number.read? with
  | none => []
  | some amount =>
    let operation : Risk.Operation := {
      amount
      protocol := (stated? p.protocol).getD "unknown"
      operation := intent.name
      leverage := p.leverage }
    match Risk.assess desk.risks operation with
    | .ok assessment => assessment.warnings
    | .error _ => []

/-- The hints that go with the question of a review. -/
def questionHints (s : Review.Subject) (found : Review) : List String :=
  match found.asks, found.question with
  | true, some q =>
    Inquiry.hints {
      intent := s.intent
      entities := s.entities.getD []
      ambiguities := q.ambiguity.toList
      account := s.account }
  | _, _ => []

/-- The outcome for a subject, from its review and the command that was built beside it. The command
is withheld if the review found errors or asks. -/
def outcomeOf (desk : Desk) (s : Review.Subject) (found : Review) (c : Command) : Outcome where
  intent := s.intent
  parameters := s.parameters
  command := if !found.isValid || found.asks then none else some c
  errors := found.errors
  warnings := found.warnings
  advice := adviceFor c
  hints := Listing.distinct (found.suggestions ++ riskHints desk s.intent s.parameters.primary ++
    questionHints s found)
  asks := found.asks
  question := found.question
  gas := some c.gas
  risk := some c.risk

end Desk

/-! ## Reports -/

def Advice.document (a : Advice) : Document :=
  .record [("type", .text a.kind.name), ("title", .text a.title),
    ("description", .text a.description), ("action", .text a.action),
    ("expected_benefit", .text? a.benefit), ("risk_level", .text? (a.risk.map (·.name)))]

def Outcome.document (o : Outcome) : Document :=
  .record [("intent", .text o.intent.name), ("parameters", o.parameters.document),
    ("command", .orNull Command.document o.command),
    ("validation_errors", .listOf Finding.document o.errors),
    ("warnings", .listOf Finding.document o.warnings),
    ("suggestions", .listOf Advice.document o.advice), ("hints", .texts o.hints),
    ("requires_disambiguation", .flag o.asks),
    ("disambiguation_options", .orNull Question.document o.question),
    ("estimated_gas", .whole? o.gas), ("risk_level", .text? (o.risk.map (·.name)))]

/-! ## Lemmas -/

theorem Desk.command_outcomeOf_isSome_iff (desk : Desk) (s : Review.Subject) (found : Review)
    (c : Command) :
    (outcomeOf desk s found c).command.isSome ↔ found.isValid ∧ found.asks = false := by
  unfold outcomeOf
  cases found.isValid <;> cases found.asks <;> simp

theorem Desk.of_command_outcomeOf (desk : Desk) (s : Review.Subject) (found : Review) (c : Command)
    {c' : Command} (h : (outcomeOf desk s found c).command = some c') : c' = c := by
  unfold outcomeOf at h
  dsimp only at h
  split at h
  · cases h
  · exact (Option.some.inj h).symm

end Teller
