import Teller.Account
import Teller.Command.Building

/-!
# Readiness of commands

What stands in the way of executing a command: a balance that does not suffice, approvals that are
still needed, too little for gas, or a high risk. The gas of a command that was not built here, or
of a batch, may be beyond all doubles; then it cannot be compared with a balance.

    isReady_iff                a command is ready exactly if nothing stands in its way
    obstacles_executable       a command of the desk is looked at as it is handed out
-/

namespace Teller.Command

/-- Why a command cannot be executed as it is. -/
inductive Obstacle where
  | balance (token : String)
  | approvals
  | gas
  | risk
  deriving DecidableEq, Repr

def Obstacle.message : Obstacle → String
  | balance token => s!"Insufficient {token} balance"
  | approvals => "Token approvals required before execution"
  | gas => "Insufficient SEI for gas fees"
  | risk => "High risk operation - review carefully before execution"

/-- The account is known to have balances, but not enough of the token. -/
def balanceObstacle (p : Parameters) (account : Option Account) : List Obstacle :=
  match p.primary.spent?, account with
  | some token, some a =>
    if (stated? p.primary.amount).isNone || a.balances.isEmpty then []
    else if (a.balanceOf? (some token)).all (· < amountOf p) then [.balance token]
    else []
  | _, _ => []

/-- What is known of the balance of the gas token. -/
def gasBalance? (account : Option Account) : Option Float :=
  account.bind (·.balanceOf? (some gasToken))

/-- What gas costs in the gas token. -/
def gasCost (gas : Float) : Float := gas * 1e-9 * 20

/-- The balance of the gas token is known and does not cover the gas. -/
def gasObstacle (gas : Float) (account : Option Account) : List Obstacle :=
  if (gasBalance? account).any (· < gasCost gas) then [.gas] else []

/-- Everything that stands in the way of a command with these parameters, metadata, risk and gas. -/
def obstaclesOf (p : Parameters) (m : Metadata) (risk : Risk) (gas : Float) (account : Option Account) :
    List Obstacle :=
  balanceObstacle p account ++
    (if m.approvals.isEmpty then [] else [.approvals]) ++
    gasObstacle gas account ++
    (if risk = .high then [.risk] else [])

def obstacles (c : Command) (account : Option Account) : List Obstacle :=
  obstaclesOf c.parameters c.metadata c.risk (Float.ofInt c.gas) account

def isReady (c : Command) (account : Option Account) : Bool := (obstacles c account).isEmpty

def readinessDocument (c : Command) (account : Option Account) : Document :=
  .record [("ready", .flag (isReady c account)),
    ("issues", .texts ((obstacles c account).map (·.message)))]

end Teller.Command

namespace Teller

open Command

/-- The gas of a command as a double, if it is to be compared with a balance. -/
def Executable.comparedGas (x : Executable) (account : Option Account) : Except Fault Float :=
  if (gasBalance? account).isSome then Number.realOf (x.gas.getD 0) else .ok 0

/-- Everything that stands in the way of a command as it is handed out. -/
def Executable.obstacles (x : Executable) (account : Option Account) :
    Except Fault (List Obstacle) := do
  let gas ← x.comparedGas account
  return obstaclesOf x.parameters x.metadata x.risk gas account

/-! ## Lemmas -/

namespace Command

theorem isReady_iff (c : Command) (account : Option Account) :
    isReady c account ↔ obstacles c account = [] := by
  simp [isReady]

theorem gasObstacle_of_unknown {account : Option Account} (unknown : gasBalance? account = none)
    (gas : Float) : gasObstacle gas account = [] := by
  simp [gasObstacle, unknown]

theorem obstacles_executable (c : Command) (account : Option Account)
    (small : c.gas.natAbs < Number.wholeBound) :
    c.executable.obstacles account = .ok (c.obstacles account) := by
  unfold Executable.obstacles Executable.comparedGas
  by_cases known : (gasBalance? account).isSome = true
  · rw [if_pos known]
    show (Number.realOf c.gas >>= _) = _
    rw [Number.realOf_eq_ok c.gas small]
    rfl
  · rw [if_neg known]
    have unknown : gasBalance? account = none := by simpa using known
    show Except.ok (obstaclesOf _ _ _ _ _) = _
    unfold Command.obstacles obstaclesOf
    rw [gasObstacle_of_unknown unknown, gasObstacle_of_unknown unknown]
    rfl

end Command

end Teller
