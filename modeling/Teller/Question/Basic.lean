import Teller.Entity
import Teller.Failure
import Teller.Intent
import Teller.Parameters

/-!
# Questions to the user

A request may be ambiguous in several ways. A question offers choices, each of which revises the
parameters and may change the intent.

    find?_mem       a choice that is found is one of those offered
-/

namespace Teller

/-- A way in which a request can be ambiguous. -/
inductive Ambiguity where
  | missingProtocol | missingToken | tokenDirection | multipleAmounts | unclearIntent
  | protocolChoice | parameterConflict | riskConfirmation
  deriving DecidableEq, Repr

namespace Ambiguity

def all : List Ambiguity :=
  [missingProtocol, missingToken, tokenDirection, multipleAmounts, unclearIntent, protocolChoice,
    parameterConflict, riskConfirmation]

def name : Ambiguity → String
  | missingProtocol => "missing_protocol"
  | missingToken => "missing_token"
  | tokenDirection => "token_direction"
  | multipleAmounts => "multiple_amounts"
  | unclearIntent => "unclear_intent"
  | protocolChoice => "protocol_choice"
  | parameterConflict => "parameter_conflict"
  | riskConfirmation => "risk_confirmation"

def ofName? (name : String) : Option Ambiguity := all.find? (·.name == name)

/-- The ambiguities that can be asked about, the most urgent first. -/
def urgency : List Ambiguity :=
  [unclearIntent, tokenDirection, missingProtocol, multipleAmounts, protocolChoice,
    riskConfirmation, parameterConflict]

/-- How urgent an ambiguity is; what cannot be asked about is not urgent. -/
def priority : Ambiguity → Nat
  | unclearIntent => 10
  | tokenDirection => 9
  | missingProtocol => 8
  | multipleAmounts => 7
  | protocolChoice => 6
  | riskConfirmation => 5
  | parameterConflict => 4
  | missingToken => 0

end Ambiguity

structure Choice where
  id : String
  label : String
  description : String
  revision : Parameters.Revision := {}
  confidence : Float
  intent : Option Intent := none

/-- A question with at least one choice. The timeout, in milliseconds, is a hint. -/
structure Question where
  text : String
  first : Choice
  others : List Choice
  default : Option String := none
  timeout : Int := 30000
  ambiguity : Option Ambiguity := none

namespace Question

/-- The choices in the order in which they are offered. -/
def choices (q : Question) : List Choice := q.first :: q.others

/-- The first choice with this identifier. -/
def find? (q : Question) (id : String) : Option Choice := q.choices.find? (·.id == id)

def invalidChoice (q : Question) (id : String) : Failure :=
  .of .commandProcessing .invalidOption "Invalid disambiguation option selected"
    [("selected_option_id", .text id), ("available_options", .texts (q.choices.map (·.id)))]

/-- The parameters after the choice with this identifier. -/
def answer (q : Question) (p : Parameters) (id : String) : Except Failure Parameters :=
  match q.find? id with
  | some choice => .ok (p.revise choice.revision)
  | none => .error (q.invalidChoice id)

end Question

/-! ## Reports -/

def Choice.document (c : Choice) : Document :=
  .record [("id", .text c.id), ("label", .text c.label), ("description", .text c.description),
    ("parameters", c.revision.parameters.document), ("confidence", .real c.confidence),
    ("intent", .text? (c.intent.map (·.name)))]

def Question.document (q : Question) : Document :=
  .record [("question", .text q.text), ("options", .listOf Choice.document q.choices),
    ("default_option", .text? q.default), ("timeout", .whole q.timeout),
    ("ambiguity_type", .text? (q.ambiguity.map (·.name)))]

/-! ## Lemmas -/

theorem Question.find?_mem {q : Question} {id : String} {c : Choice} (h : q.find? id = some c) :
    c ∈ q.choices ∧ c.id = id := by
  unfold find? at h
  exact ⟨List.mem_of_find?_eq_some h, by simpa using List.find?_some h⟩

end Teller
