import Teller.Number.Binary

/-!
# Decimals

Whole numbers with a power of ten, the double nearest to one, and the fewest digits that name a
double: among the decimals that read back as the double those with the fewest digits, and of these
the one nearest to it.
-/

namespace Teller.Number

/-- The number `digits · 10 ^ exponent`. -/
structure Decimal where
  digits : Nat
  exponent : Int
  deriving DecidableEq, Repr

/-- How many decimal digits `n` has; zero has one. -/
def digitCount (n : Nat) : Nat := (Nat.toDigits 10 n).length

/-- The double nearest to a decimal; beyond the greatest double it is infinite. Decimals far out of
the range of doubles are settled by their number of digits. -/
def Decimal.toFloat (d : Decimal) : Float :=
  let top := (digitCount d.digits : Int) + d.exponent
  if d.digits = 0 || top < -330 then 0
  else if 310 < top then 1 / 0
  else Float.ofScientific d.digits (d.exponent < 0) d.exponent.natAbs

/-- The power of ten of the leading digit: `10 ^ k ≤ a < 10 ^ (k + 1)` for a positive fraction. -/
def Fraction.magnitude (a : Fraction) : Int :=
  let k := (digitCount a.num : Int) - digitCount a.den
  if (Fraction.scaled 1 10 k).le a then k else k - 1

/-- The fraction rounded to so many significant digits, a half to the even neighbour. -/
def Fraction.significant (a : Fraction) (count : Nat) : Decimal :=
  let exponent := a.magnitude - (count - 1)
  let digits := (a.shift (-exponent)).round
  if digits = Nat.pow 10 count then ⟨Nat.pow 10 (count - 1), exponent + 1⟩ else ⟨digits, exponent⟩

/-- The numbers that read back as one double: an interval around it, whose ends belong to it if the
mantissa is even. -/
structure Neighbourhood where
  low : Fraction
  high : Fraction
  closed : Bool

/-- Half way to either neighbour. Below a power of two the neighbour is half as far away. -/
def Neighbourhood.around (m : Nat) (e : Int) : Neighbourhood where
  low := .scaled (4 * m - (if m = Binary.leadingBit ∧ e ≠ -1074 then 1 else 2)) 2 (e - 2)
  high := .scaled (4 * m + 2) 2 (e - 2)
  closed := m % 2 = 0

/-- The fraction reads back as the double. -/
def Neighbourhood.has (n : Neighbourhood) (a : Fraction) : Bool :=
  if n.closed then n.low.le a && a.le n.high else !a.le n.low && !n.high.le a

/-- The better of the two decimals next to `a` on the grid of `10 ^ exponent`, if one of them lies
in the neighbourhood: the nearer one, or the even one of two that are equally near. -/
def Neighbourhood.onGrid? (n : Neighbourhood) (a : Fraction) (exponent : Int) : Option Decimal :=
  let shifted := a.shift (-exponent)
  let below := shifted.num / shifted.den
  let reads (digits : Nat) : Bool := n.has (.scaled digits 10 exponent)
  let nearest := shifted.round
  let other := if nearest = below then below + 1 else below
  if reads nearest then some ⟨nearest, exponent⟩
  else if reads other then some ⟨other, exponent⟩
  else none

/-- The shortest decimal for `m · 2 ^ e`; seventeen digits always suffice. -/
def shortest (m : Nat) (e : Int) : Decimal :=
  let a := Binary.size m e
  let n := Neighbourhood.around m e
  let lead := a.magnitude
  ((List.range 17).findSome? fun (k : Nat) => n.onGrid? a (lead - k)).getD (a.significant 17)

end Teller.Number
