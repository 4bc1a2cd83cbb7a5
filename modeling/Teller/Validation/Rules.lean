import Teller.Asset.Basic
import Teller.Number.Conversion
import Teller.Parameters
import Teller.Template
import Teller.Validation.Address
import Teller.Validation.Finding
import Teller.Venue

/-!
# Checking rules

A rule looks at the value of one field: first at its kind, then at a check, then at constraints. The
first that fails decides the finding; a rule that cannot be carried out is a finding of its own.
-/

namespace Teller.Rule

/-- The number that a value stands for. A flag is no number, and neither is a list; a whole number
may be too large. -/
def numberOf? : FieldValue → Except Fault (Option Float)
  | .text s => .ok (Number.read? s)
  | .real x => .ok (some x)
  | .whole n => (Number.realOf n).map some
  | .flag _ | .names _ | .hops _ | .fees _ => .ok none

/-- The value is a positive number; here a set flag counts as one. -/
def isPositive (value : FieldValue) : Except Fault Bool :=
  match value with
  | .flag b => .ok b
  | value => (numberOf? value).map (·.any (0 < ·))

def Check.passes (value : FieldValue) : Check → Except Fault Bool
  | positive => isPositive value
  | supportedToken => .ok (Template.supportedTokens.contains (Text.upper value.shown))
  | other _ passes => passes value

def Kind.fits (catalog : Asset.Catalog) (value : FieldValue) : Kind → Except Fault Bool
  | string => .ok (match value with
    | .text _ => true
    | _ => false)
  | number => (numberOf? value).map (·.isSome)
  | boolean => .ok (match value with
    | .flag _ => true
    | _ => false)
  | token => .ok (catalog.get? value.shown).isSome
  | protocol => .ok (Venue.isKnown value.shown)
  | address => .ok (Address.isValid value.shown)
  | other _ => .ok true

/-- A constraint that the value violates, in words. -/
def Constraints.violation? (c : Constraints) (value : FieldValue) :
    Except Fault (Option String) := do
  let number ← numberOf? value
  if let (some least, some x) := (c.least, number) then
    if x < least then return some s!"Value must be at least {Number.general least}"
  if let (some most, some x) := (c.most, number) then
    if most < x then return some s!"Value must be at most {Number.general most}"
  if let some search := c.pattern.filter (·.pattern ≠ "") then
    if !(← search.finds value.shown) then
      return some "Value does not match required pattern"
  if let some allowed := c.oneOf then
    if !(← allowed.anyM (·.equals value)) then
      return some ("Value must be one of: " ++ Text.joined ", " (allowed.map (·.shown)))
  if let some check := c.custom then
    if !(← check.passes value) then return some "Value failed custom validation"
  return none

/-- What a rule finds about the value of its field. -/
def finding? (catalog : Asset.Catalog) (rule : Rule) (value : FieldValue) :
    Except Fault (Option Finding) := do
  let field := rule.field
  if !(← rule.kind.fits catalog value) then
    return some (.error field .invalidType
      s!"Parameter '{field}' must be of type {rule.kind.name}")
  if let some check := rule.check then
    if !(← check.passes value) then
      return some (.error field .validationFailed s!"Parameter '{field}' failed validation")
  if let some constraints := rule.constraints then
    if let some violation ← constraints.violation? value then
      return some (.error field .constraintViolation violation)
  return none

/-- What a rule finds about parameters. A field without a value passes. -/
def findingIn? (catalog : Asset.Catalog) (p : Parameters) (rule : Rule) : Option Finding :=
  match p.get? rule.field with
  | none => none
  | some value =>
    match finding? catalog rule value with
    | .ok found => found
    | .error _ =>
      some (.error rule.field .validationError s!"Validation error for '{rule.field}'")

/-- What the rules find, in their order. -/
def checkAll (catalog : Asset.Catalog) (p : Parameters) (rules : List Rule) : List Finding :=
  rules.filterMap (findingIn? catalog p)

end Teller.Rule
