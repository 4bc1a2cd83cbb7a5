import Teller.Document

/-!
# Entities

Spans of the user's text that were recognised before the request arrives: a token, an amount, a
protocol, a leverage or a slippage, as typed and in normalized form.
-/

namespace Teller

/-- What a span stands for. -/
inductive Entity.Kind where
  | token | amount | protocol | leverage | slippage
  deriving DecidableEq, Repr

namespace Entity.Kind

def all : List Kind := [token, amount, protocol, leverage, slippage]

def name : Kind → String
  | token => "token"
  | amount => "amount"
  | protocol => "protocol"
  | leverage => "leverage"
  | slippage => "slippage"

def ofName? (name : String) : Option Kind := all.find? (·.name == name)

end Entity.Kind

/-- A recognised span. -/
structure Entity where
  kind : Entity.Kind
  value : String
  normalized : String
  confidence : Float := 1

namespace Entity

/-- The normalized text, or the text as typed if that is empty. -/
def text (e : Entity) : String := if e.normalized.isEmpty then e.value else e.normalized

/-- The entities of one kind, in order. -/
def ofKind (kind : Kind) (entities : List Entity) : List Entity :=
  entities.filter (·.kind == kind)

def document (e : Entity) : Document :=
  .record [("type", .text e.kind.name), ("value", .text e.value),
    ("normalized", .text e.normalized), ("confidence", .real e.confidence)]

end Entity

end Teller
