import Teller.Text.Quoted

/-!
# Faults of single steps

A step that cannot be carried out: a number that cannot be converted, a list without a first
element. A fault either ends an operation or is reported in the details of a failure.
-/

namespace Teller

/-- Why a step could not be carried out. -/
inductive Fault where
  /-- A text that names no number. -/
  | noNumber (text : String)
  /-- A whole number beyond all doubles. -/
  | tooLarge
  /-- An infinity where a whole number is needed. -/
  | infiniteWhole
  /-- A NaN where a whole number is needed. -/
  | nanWhole
  /-- A division by zero. -/
  | zeroDivision
  /-- The first element of an empty list. -/
  | outOfRange
  /-- A record that does not fulfil its own constraints. -/
  | invalidRecord
  /-- A swap whose direction is asked for without a token or an amount. -/
  | noDirection
  /-- A negative number of places. -/
  | noPrecision
  /-- A pattern that is not well formed. -/
  | badPattern
  /-- A name that belongs to no member of a family of names. -/
  | unknownName (name family : String)
  deriving DecidableEq, Repr

namespace Fault

def kind : Fault → String
  | noNumber _ | noDirection | noPrecision | nanWhole | unknownName .. => "ValueError"
  | tooLarge | infiniteWhole => "OverflowError"
  | zeroDivision => "ZeroDivisionError"
  | badPattern => "error"
  | outOfRange => "IndexError"
  | invalidRecord => "ValidationError"

def message : Fault → String
  | noNumber text => s!"could not convert string to float: {Text.quoted text}"
  | tooLarge => "int too large to convert to float"
  | infiniteWhole => "cannot convert float infinity to integer"
  | nanWhole => "cannot convert float NaN to integer"
  | zeroDivision => "float division by zero"
  | outOfRange => "list index out of range"
  | invalidRecord => ""
  | badPattern => "malformed pattern"
  | noDirection => "Missing token or amount for direction disambiguation"
  | noPrecision => "Format specifier missing precision"
  | unknownName name family => s!"{Text.quoted name} is not a valid {family}"

/-- A fault in the details of a failure: its kind and its text. -/
def describe (f : Fault) : String :=
  match f with
  | invalidRecord => f.kind
  | _ => f.kind ++ ": " ++ f.message

end Fault

end Teller
