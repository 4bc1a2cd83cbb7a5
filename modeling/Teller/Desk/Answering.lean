import Teller.Desk.Normalization
import Teller.Desk.Outcome

/-!
# Answering requests

A request is an intent with entities. It is answered by normalizing the entities, extracting
parameters, reviewing them and building a command. An answered question revises the parameters,
which are then reviewed again; estimates are made anew each time.

    resolve_cancel      a cancelled operation has no outcome
-/

namespace Teller

/-- A classified request. -/
structure Request where
  intent : Intent
  entities : List Entity := []
  account : Option Account := none
  confidence : Float := 1

/-- The answer to a question: the choice with an identifier. -/
structure Reply where
  intent : Intent
  parameters : Parameters := {}
  choice : String
  question : Question
  account : Option Account := none
  confidence : Float := 1

namespace Desk

/-- The failure to carry out an intent that has no template. -/
def notSupported (intent : Intent) : Failure :=
  let name := intent.name
  .of .commandProcessing .templateNotFound s!"No command template found for intent: {name}"
    [("intent", .text name)]

def cancelled (choice : String) : Failure :=
  .of .commandProcessing .operationCancelled "Operation cancelled"
    [("selected_option_id", .text choice)]

/-! ## Inference -/

/-- The kind of entity that an inferred parameter amounts to. -/
def inferredKind? (field : String) : Option Entity.Kind :=
  match field with
  | "protocol" => some .protocol
  | "token" => some .token
  | _ => none

/-- The entities that inferred parameters amount to. -/
def inferredEntities (inferred : Table String) : List Entity :=
  inferred.filterMap fun (field, value) =>
    (inferredKind? field).map fun kind => { kind, value, normalized := value }

/-- The revision that enters inferred parameters. -/
def inferredRevision (inferred : Table String) : Primary.Revision where
  protocol := (inferred.get? "protocol").map some
  token := (inferred.get? "token").map some

/-- A review together with what was reviewed. -/
structure Reviewed where
  subject : Review.Subject
  review : Review

/-- Reviews a subject. If parameters can be inferred, they are entered and the subject is reviewed
again; the notes of the first review come first. -/
def examine (desk : Desk) (s : Review.Subject) : Reviewed :=
  let first := review desk.reviews desk.catalog s
  if first.inferred.isEmpty then ⟨s, first⟩
  else
    let parameters := s.parameters.revise { primary := inferredRevision first.inferred }
    let completed : Review.Subject := { s with
      parameters := estimated desk s.intent s.template s.account parameters
      entities := s.entities.map (· ++ inferredEntities first.inferred) }
    let second := review desk.reviews desk.catalog completed
    let notes := first.warnings.filter (·.severity == .info)
    ⟨completed, { second with warnings := notes ++ second.warnings }⟩

/-! ## Outcomes -/

/-- Reviews a subject and builds its command, under the given number. -/
def process (desk : Desk) (moment : Moment) (number : Nat) (confidence : Float)
    (s : Review.Subject) : Except Failure Outcome := do
  let ⟨s, found⟩ := examine desk s
  let command ← Command.build desk.commands moment.milliseconds number
    { intent := s.intent, parameters := s.parameters, template := some s.template }
  let command := withMetadata command s.account confidence found.warnings
  return outcomeOf desk s found command

/-- Asks what the user wants. -/
def clarify (desk : Desk) (moment : Moment) (entities : List Entity) (account : Option Account) :
    Except Failure Outcome := do
  let inquiry : Inquiry := {
    intent := .unknown
    entities
    ambiguities := Ambiguity.detect .unknown entities account false
    account }
  let question ← (Question.ask inquiry).mapError AskError.failure
  return {
    intent := .unknown
    parameters := extract desk moment .unknown none account entities
    asks := true
    question := some question }

/-- Answers a request. A command that is handed out has the given number. -/
def parse (desk : Desk) (moment : Moment) (number : Nat) (r : Request) : Except Failure Outcome :=
  let entities := normalize desk r.entities r.account
  if r.intent = .unknown then clarify desk moment entities r.account
  else
    match Template.of? r.intent with
    | none => .error (notSupported r.intent)
    | some template =>
      process desk moment number r.confidence {
        intent := r.intent
        parameters := extract desk moment r.intent (some template) r.account entities
        template
        account := r.account
        entities := some entities }

/-- Answers the answer to a question. The choice may change the intent; to cancel is a failure. -/
def resolve (desk : Desk) (moment : Moment) (number : Nat) (r : Reply) : Except Failure Outcome := do
  if r.choice = Question.cancelId && (r.question.find? r.choice).isSome then
    throw (cancelled r.choice)
  let revised ← r.question.answer r.parameters r.choice
  let intent := ((r.question.find? r.choice).bind (·.intent)).getD r.intent
  match Template.of? intent with
  | none => throw (notSupported intent)
  | some template =>
    process desk moment number r.confidence {
      intent
      parameters := estimated desk intent (some template) r.account revised
      template
      account := r.account }

/-! ## Syntax -/

/-- The parameter is there, neither empty nor zero. -/
def isPresent (p : Primary) (field : String) : Bool :=
  match p.get? field with
  | some (.text s) => s ≠ ""
  | some (.real x) => x != 0
  | some (.whole n) => n ≠ 0
  | some _ => true
  | none => false

/-- Every parameter that the template of the intent requires is present. -/
def isComplete (intent : Intent) (p : Primary) : Bool :=
  match Template.of? intent with
  | some t => t.required.all (isPresent p)
  | none => false

/-! ## Lemmas -/

theorem resolve_cancel (desk : Desk) (moment : Moment) (number : Nat) (r : Reply)
    (h : r.choice = Question.cancelId) (offered : (r.question.find? r.choice).isSome) :
    resolve desk moment number r = .error (cancelled r.choice) := by
  simp [resolve, ← h, offered, throw, throwThe, MonadExceptOf.throw, bind, Except.bind]

theorem parse_unsupported (desk : Desk) (moment : Moment) (number : Nat) (r : Request)
    (h : r.intent ≠ .unknown) (none : Template.of? r.intent = none) :
    parse desk moment number r = .error (notSupported r.intent) := by
  simp [parse, h, none]

end Desk

end Teller
