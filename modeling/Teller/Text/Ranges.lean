/-!
# Tables of characters

A class of characters is a list of ranges of code points; a change of case is a list of shifted
runs.
-/

namespace Teller.Text

/-- A class of characters: ranges of code points, both ends included. -/
abbrev Ranges := List (Nat × Nat)

/-- A character is in the class if one of the ranges holds its code point. -/
def Ranges.has (ranges : Ranges) (c : Char) : Bool :=
  ranges.any fun (first, last) => first ≤ c.toNat && c.toNat ≤ last

/-- A run of code points, `step` apart, that all move by the same offset. -/
structure Shift where
  first : Nat
  last : Nat
  step : Nat
  offset : Int

/-- The run holds this character. -/
def Shift.has (s : Shift) (c : Char) : Bool :=
  s.first ≤ c.toNat && c.toNat ≤ s.last && (c.toNat - s.first) % s.step == 0

/-- The shifted character; a character that no run holds stays as it is. -/
def shifted (shifts : List Shift) (c : Char) : Char :=
  match shifts.find? (·.has c) with
  | some s => Char.ofNat (c.toNat + s.offset).toNat
  | none => c

end Teller.Text
