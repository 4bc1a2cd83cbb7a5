import Teller.Account
import Teller.Question.Basic
import Teller.Venue

/-!
# Detection of ambiguities

Each check looks at the intent, the entities and the account on its own; a request can be ambiguous
in several ways at once.
-/

namespace Teller.Ambiguity

/-- The number that the normalized text of an entity stands for. -/
def numberOf? (e : Entity) : Option Float := Number.read? e.normalized

/-- Adds an entity with its number, unless an earlier one has the same number. -/
def addDistinct (seen : List (Entity × Float)) (e : Entity) : List (Entity × Float) :=
  match numberOf? e with
  | some x => if seen.any (fun (_, y) => y == x) then seen else seen ++ [(e, x)]
  | none => seen

/-- The first entity of a kind for each number that occurs. -/
def distinctNumbers (kind : Entity.Kind) (entities : List Entity) : List (Entity × Float) :=
  (Entity.ofKind kind entities).foldl addDistinct []

def namesProtocol (entities : List Entity) : Bool := !(Entity.ofKind .protocol entities).isEmpty

/-- The intent needs a venue, none is named, and several serve it. -/
def lacksProtocol (intent : Intent) (entities : List Entity) : Bool :=
  !namesProtocol entities && 1 < (Venue.serving intent).length

/-- One token and one amount do not tell which way to swap. -/
def lacksDirection (intent : Intent) (entities : List Entity) : Bool :=
  intent == .swap && (Entity.ofKind .token entities).length == 1 &&
    (Entity.ofKind .amount entities).length == 1

/-- Leverages or slippages contradict each other. -/
def hasConflict (entities : List Entity) : Bool :=
  1 < (distinctNumbers .leverage entities).length ||
    1 < (distinctNumbers .slippage entities).length

/-- The number of the first entity of a kind. -/
def firstNumber? (kind : Entity.Kind) (entities : List Entity) : Option Float :=
  (Entity.ofKind kind entities).head?.bind numberOf?

/-- Intents that always carry a high risk. -/
def isRisky : Intent → Bool
  | .openPosition | .arbitrage | .crossProtocolArbitrage => true
  | _ => false

/-- The intent, a leverage above five or an amount above fifty thousand calls for a confirmation. -/
def needsConfirmation (intent : Intent) (entities : List Entity) : Bool :=
  (firstNumber? .leverage entities).any (5 < ·) ||
    (firstNumber? .amount entities).any (50000 < ·) || isRisky intent

/-- Everything that is ambiguous about a request. -/
def detect (intent : Intent) (entities : List Entity) (account : Option Account)
    (riskAcknowledged : Bool) : List Ambiguity :=
  let used := (account.map (·.protocols)).getD []
  let checks : List (Ambiguity × Bool) := [
    (missingProtocol, lacksProtocol intent entities),
    (tokenDirection, lacksDirection intent entities),
    (multipleAmounts, 1 < (Entity.ofKind .amount entities).length),
    (unclearIntent, intent == .unknown),
    (protocolChoice, Venue.hasChoice intent (namesProtocol entities) used),
    (parameterConflict, hasConflict entities),
    (riskConfirmation, !riskAcknowledged && needsConfirmation intent entities)]
  (checks.filter (·.2)).map (·.1)

/-- An entity with the same text as typed and normalized, if there is a text. -/
def entityOf (kind : Entity.Kind) (text : Option String) : List Entity :=
  match text with
  | none | some "" => []
  | some s => [{ kind, value := s, normalized := s }]

/-- The entities that parameters imply. -/
def entitiesOf (p : Primary) : List Entity :=
  entityOf .amount p.amount ++ entityOf .token p.token ++ entityOf .token p.fromToken ++
    entityOf .token p.toToken ++ entityOf .protocol p.protocol ++
    entityOf .leverage (p.leverage.map Number.plain) ++
    entityOf .slippage (p.slippage.map Number.plain)

end Teller.Ambiguity
