import Teller.Failure
import Teller.Question.Basic

/-!
# Findings

What validation reports about parameters: findings with a field, a code, a message and a severity.
Only errors block a command.
-/

namespace Teller

/-- How severe a finding is. -/
inductive Finding.Severity where
  | error | warning | info
  deriving DecidableEq, Repr

def Finding.Severity.name : Finding.Severity → String
  | error => "error"
  | warning => "warning"
  | info => "info"

/-- What was found. -/
inductive Finding.Code where
  | requiredParameterMissing | parameterInferred
  | invalidType | validationFailed | constraintViolation
  | insufficientBalance | highPercentageOfBalance
  | insufficientCollateral | highUtilization
  | sameTokenSwap | highPriceImpact | lowLiquidityToken
  | validationError
  deriving DecidableEq, Repr

def Finding.Code.name : Finding.Code → String
  | requiredParameterMissing => "REQUIRED_PARAMETER_MISSING"
  | parameterInferred => "PARAMETER_INFERRED"
  | invalidType => "INVALID_TYPE"
  | validationFailed => "VALIDATION_FAILED"
  | constraintViolation => "CONSTRAINT_VIOLATION"
  | insufficientBalance => "INSUFFICIENT_BALANCE"
  | highPercentageOfBalance => "HIGH_PERCENTAGE_OF_BALANCE"
  | insufficientCollateral => "INSUFFICIENT_COLLATERAL"
  | highUtilization => "HIGH_UTILIZATION"
  | sameTokenSwap => "SAME_TOKEN_SWAP"
  | highPriceImpact => "HIGH_PRICE_IMPACT"
  | lowLiquidityToken => "LOW_LIQUIDITY_TOKEN"
  | validationError => "VALIDATION_ERROR"

/-- A finding about a field. -/
structure Finding where
  field : String
  code : Finding.Code
  message : String
  severity : Finding.Severity
  suggestion : Option String := none
  deriving DecidableEq, Repr

namespace Finding

/-- A finding that blocks the command. -/
def error (field : String) (code : Code) (message : String) (suggestion : Option String := none) :
    Finding :=
  ⟨field, code, message, .error, suggestion⟩

/-- A finding that only warns. -/
def warning (field : String) (code : Code) (message : String) (suggestion : Option String := none) :
    Finding :=
  ⟨field, code, message, .warning, suggestion⟩

/-- Errors block. -/
def isBlocking (f : Finding) : Bool := f.severity == .error

def document (f : Finding) : Document :=
  .record [("field", .text f.field), ("code", .text f.code.name), ("message", .text f.message),
    ("severity", .text f.severity.name), ("suggestion", .text? f.suggestion)]

end Finding

end Teller
