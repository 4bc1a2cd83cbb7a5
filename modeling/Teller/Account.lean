import Teller.Document
import Teller.Number.Reading
import Teller.Table
import Teller.Text.Case

/-!
# Accounts

What is known about the user's account when a request arrives: balances, allowances and positions.
Tokens are kept in upper case, and balances as the texts in which they were supplied.
-/

namespace Teller

structure Position where
  protocol : String
  kind : String
  value : Float
  healthFactor : Option Float := none

/-- The state of the user's account. -/
structure Account where
  address : Option String := none
  balances : Table String := []
  allowances : Table (Table String) := []
  positions : List Position := []
  gasPrice : Option String := none

namespace Account

variable {α : Type}

/-- The entries for tokens, first entered as they are and then again with the tokens in upper case.
-/
def tokenTable (entries : List (String × α)) : Table α :=
  .ofList ((Table.ofList entries).map fun (token, value) => (Text.upper token, value))

/-- The balance of a token, if there is one and it names a number. -/
def balanceOf? (a : Account) (token : Option String) : Option Float := do
  let token ← token.filter (· ≠ "")
  Number.read? (← a.balances.get? (Text.upper token))

/-- The allowance of a token for a spender, or else for any protocol; without one it is zero. -/
def allowance (a : Account) (token spender : String) : Float :=
  let spenders := (a.allowances.get? (Text.upper token)).getD []
  let stated := ((spenders.get? spender).or (spenders.get? "protocol")).getD "0"
  (Number.read? stated).getD 0

def protocols (a : Account) : List String := a.positions.map (·.protocol)

/-- The value of the positions, if there are any. -/
def portfolioValue? (a : Account) : Option Float :=
  if a.positions.isEmpty then none else some (a.positions.foldl (fun sum p => sum + p.value) 0)

/-- The value of what the user has lent. -/
def collateral (a : Account) : Float :=
  (a.positions.filter (·.kind == "lending")).foldl (fun sum p => sum + p.value) 0

/-- The token with the greatest known balance, the first one of several. -/
def greatestBalance? (a : Account) : Option String :=
  let known := a.balances.filterMap fun (token, _) =>
    (a.balanceOf? (some token)).map (token, ·)
  match known with
  | [] => none
  | first :: rest =>
    some (rest.foldl (fun best next => if best.2 < next.2 then next else best) first).1

end Account

def Position.document (p : Position) : Document :=
  .record [("protocol", .text p.protocol), ("type", .text p.kind), ("value", .real p.value),
    ("health_factor", .real? p.healthFactor)]

end Teller
