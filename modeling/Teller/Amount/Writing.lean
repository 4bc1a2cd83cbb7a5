import Teller.Amount.Basic

/-!
# Writing amounts

An amount of a thousand or more is written with a unit, in two places if that names it closely
enough and otherwise in more; a smaller one is written with the configured places, or plainly if
they do not suffice.
-/

namespace Teller.Amount

/-- The units for writing, the greatest first. -/
def writtenUnits : List (Float × String) := [(1e9, "B"), (1e6, "M"), (1e3, "K")]

/-- The two numbers differ by at most a billionth of the greater one. -/
def isClose (a b : Float) : Bool :=
  if a == b then true
  else if a.isInf || b.isInf then false
  else
    let difference := (b - a).abs
    difference ≤ (1e-9 * b).abs || difference ≤ (1e-9 * a).abs || difference ≤ 0

/-- With a number of places that may not be negative. -/
def fixed? (places : Int) (x : Float) : Except Fault String :=
  if places < 0 then .error .noPrecision else .ok (Number.fixed places.toNat x)

/-- The text of an amount without currency. -/
def writeNumber (config : Config) (amount : Float) : Except Fault String :=
  match writtenUnits.find? fun (unit, _) => unit ≤ amount with
  | some (unit, mark) => do
    let scaled := amount / unit
    let short := Number.fixed 2 scaled
    if isClose (Number.roundTo 2 scaled * unit) amount then return short ++ mark
    else
      let long ← fixed? (config.places + 3) scaled
      return String.ofList (Number.dropTrailingZeros long.toList) ++ mark
  | none => do
    let short ← fixed? config.places amount
    if isClose (Number.roundTo config.places.toNat amount) amount then return short
    else return Number.plain amount

/-- The text of an amount, followed by the currency if one is given. -/
def write (config : Config) (amount : Float) (currency : Option String) : Except Fault String := do
  let number ← writeNumber config amount
  match currency with
  | none | some "" => return number
  | some name => return number ++ " " ++ name

end Teller.Amount
