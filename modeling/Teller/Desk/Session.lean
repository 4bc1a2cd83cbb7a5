import Teller.Command.Optimization
import Teller.Command.Readiness
import Teller.Desk.Answering

/-!
# Sessions

A session is a series of steps with one account. It remembers the last outcome, the last command and
all commands that were handed out. Commands are numbered in the order in which they are handed out.
A step that fails leaves the session as it was.
-/

namespace Teller

structure Session where
  account : Option Account := none
  last : Option Outcome := none
  command : Option Command := none
  history : List Command := []
  next : Nat := 1

/-- The answer to a question in a session. What is not given is taken from the last outcome. -/
structure Session.Choice where
  id : String
  intent : Option Intent := none
  parameters : Option Parameters := none
  question : Option Question := none
  confidence : Float := 1

inductive Session.Step where
  | parse (intent : Intent) (entities : List Entity) (confidence : Float)
  | resolve (choice : Session.Choice)
  | account (account : Option Account)
  | supported
  | batch
  | complete (dropped : List String) (intent : Option Intent)
  | readiness
  | optimize

namespace Session

/-- What a step answers. -/
inductive Reply where
  | outcome (outcome : Outcome)
  | failed (failure : Failure)
  | nothing
  | intents (intents : List Intent)
  | batch (batch : Batch)
  | verdict (holds : Bool)
  | readiness (command : Command) (account : Option Account)
  | command (command : Command)
  | skipped (why : String)

/-- The session after an outcome. A command counts as handed out. -/
def afterOutcome (s : Session) (o : Outcome) : Session :=
  match o.command with
  | none => { s with last := some o }
  | some c =>
    { s with
      last := some o
      command := some c
      history := s.history ++ [c]
      next := s.next + 1 }

/-- Goes on with the answer to a request. -/
def goOn (s : Session) (answer : Except Failure Outcome) : Session × Reply :=
  match answer with
  | .ok o => (s.afterOutcome o, .outcome o)
  | .error f => (s, .failed f)

/-- The answer to a question, completed from the last outcome, if there is a question. -/
def replyTo? (s : Session) (choice : Choice) : Option Teller.Reply :=
  (choice.question.or (s.last.bind (·.question))).map fun question => {
    intent := (choice.intent.or (s.last.map (·.intent))).getD .unknown
    parameters := (choice.parameters.or (s.last.map (·.parameters))).getD {}
    choice := choice.id
    question
    account := s.account
    confidence := choice.confidence }

/-- The command again, as an order with the template of its intent. -/
def reorder (c : Command) : Command.Order :=
  { intent := c.intent, parameters := c.parameters, template := Template.of? c.intent }

/-- Parameters without the named fields of the first section. -/
def without (fields : List String) (p : Primary) : Primary :=
  let drop {α : Type} (field : String) : Revised α := if fields.contains field then some none else none
  p.revise {
    amount := drop "amount", token := drop "token", fromToken := drop "from_token"
    toToken := drop "to_token", protocol := drop "protocol", leverage := drop "leverage"
    slippage := drop "slippage", deadline := drop "deadline" }

/-- Makes all commands of the session into a batch. -/
def batchAll (desk : Desk) (moment : Desk.Moment) (s : Session) : Session × Reply :=
  match Batch.build desk.commands moment.milliseconds s.next (s.history.map reorder) with
  | .ok b => ({ s with next := s.next + 1 + b.members.length }, .batch b)
  | .error f => (s, .failed f)

/-- Goes on with the last command, if there is one. -/
def withCommand (s : Session) (go : Command → Except Fault (Session × Reply)) :
    Except Fault (Session × Reply) :=
  match s.command with
  | some c => go c
  | none => .ok (s, .skipped "no command")

def step (desk : Desk) (moment : Desk.Moment) (s : Session) :
    Step → Except Fault (Session × Reply)
  | .parse intent entities confidence =>
    let request : Request := { intent, entities, account := s.account, confidence }
    .ok (s.goOn (desk.parse moment s.next request))
  | .resolve choice =>
    match s.replyTo? choice with
    | some reply => .ok (s.goOn (desk.resolve moment s.next reply))
    | none => .ok (s, .skipped "no options")
  | .account account => .ok ({ s with account }, .nothing)
  | .supported => .ok (s, .intents Template.supportedIntents)
  | .batch => .ok (batchAll desk moment s)
  | .complete dropped intent => s.withCommand fun c =>
    .ok (s, .verdict (Desk.isComplete (intent.getD c.intent)
      (without dropped c.parameters.primary)))
  | .readiness => s.withCommand fun c => .ok (s, .readiness c s.account)
  | .optimize => s.withCommand fun c => do
    let c ← c.optimize desk.commands s.account
    return ({ s with command := some c }, .command c)

def run (desk : Desk) (moment : Desk.Moment) (s : Session) :
    List Step → Except Fault (List Reply)
  | [] => .ok []
  | first :: rest => do
    let (s, reply) ← s.step desk moment first
    return reply :: (← run desk moment s rest)

end Session

end Teller
