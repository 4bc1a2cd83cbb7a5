import Teller.Failure

/-!
# Amounts

What a stated amount is read against: the permitted range, and the sums that a share can be a share
of.

    rangeFault?_eq_none_iff      nothing speaks against a positive number within the range
    check_eq_ok_iff              an amount passes exactly if nothing speaks against it
-/

namespace Teller.Amount

/-- The permitted range of amounts, the places shown, and which kinds of shares are understood. -/
structure Config where
  least : Float := 0.000001
  most : Float := 1e12
  places : Int := 6
  percentages : Bool := true
  relative : Bool := true

/-- The sums that percentages and words like "half" refer to. -/
structure Bases where
  balance : Option Float := none
  portfolio : Option Float := none
  position : Option Float := none
  currency : Option String := none

/-- One of the sums. -/
inductive Base where
  | balance | portfolio | position
  deriving DecidableEq, Repr

namespace Base

/-- The order in which bases are tried unless the text asks for another. -/
def order : List Base := [balance, portfolio, position]

/-- How a base is called in the interpretation of a share. -/
def label : Base → String
  | balance => "wallet balance"
  | portfolio => "portfolio value"
  | position => "current position"

end Base

/-- The sum that a base stands for. A sum of zero is no base for a share. -/
def Bases.get? (bases : Bases) (base : Base) : Option Float :=
  (match base with
    | .balance => bases.balance
    | .portfolio => bases.portfolio
    | .position => bases.position).filter (· != 0)

/-- The first base, in the given order, that stands for a sum. -/
def Bases.first? (bases : Bases) (order : List Base) : Option (Base × Float) :=
  order.findSome? fun base => (bases.get? base).map (base, ·)

/-- Why an amount is refused. -/
inductive RangeFault where
  | notPositive | tooSmall | tooLarge
  deriving DecidableEq, Repr

def RangeFault.code : RangeFault → Failure.Code
  | notPositive => .invalidAmount
  | tooSmall => .amountTooSmall
  | tooLarge => .amountTooLarge

/-- Why this amount is refused, if it is: it is no positive number, or not in the range. -/
def rangeFault? (config : Config) (amount : Float) : Option RangeFault :=
  if amount.isNaN || amount ≤ 0 then some .notPositive
  else if amount < config.least then some .tooSmall
  else if config.most < amount then some .tooLarge
  else none

/-- The refusal of an amount as a failure; an amount may also be missing. -/
def RangeFault.failure (config : Config) (amount : Option Float) : RangeFault → Failure
  | notPositive =>
    .of .amountParsing .invalidAmount "Amount must be a positive number" [("amount", .real? amount)]
  | tooSmall =>
    .of .amountParsing .amountTooSmall s!"Amount too small. Minimum: {Number.full config.least}"
      [("min_amount", .real config.least)]
  | tooLarge =>
    .of .amountParsing .amountTooLarge s!"Amount too large. Maximum: {Number.full config.most}"
      [("max_amount", .real config.most)]

/-- The amount itself, if it is in the range. -/
def check (config : Config) (amount : Option Float) : Except Failure (Option Float) :=
  match amount with
  | none => .error (RangeFault.notPositive.failure config none)
  | some x =>
    match rangeFault? config x with
    | some fault => .error (fault.failure config x)
    | none => .ok x

/-! ## Lemmas -/

theorem rangeFault?_eq_none_iff {config : Config} {x : Float} :
    rangeFault? config x = none ↔
      (x.isNaN = false ∧ ¬x ≤ 0) ∧ ¬x < config.least ∧ ¬config.most < x := by
  unfold rangeFault?
  grind

theorem check_eq_ok_iff {config : Config} {amount answer : Option Float} :
    check config amount = .ok answer ↔
      ∃ x, amount = some x ∧ answer = some x ∧ rangeFault? config x = none := by
  cases amount with
  | none => simp [check]
  | some x =>
    cases h : rangeFault? config x with
    | none => simp [check, h, eq_comm]
    | some fault => simp [check, h]

end Teller.Amount
