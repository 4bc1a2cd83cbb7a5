import Teller.Number.Decimal

/-!
# How numbers are written

Four written forms of a double. `full` is the shortest text that reads back as the same double.
`fixed` has a given number of places. `general` has six significant digits. `plain` has no exponent:
whole numbers are written exactly, all others with at most twelve places.
-/

namespace Teller.Number

def digitsOf (n : Nat) : List Char := Nat.toDigits 10 n

/-- The digits of `n` with a point before the last `places` of them. -/
def pointed (places n : Nat) : List Char :=
  let digits := digitsOf n
  let padded := List.replicate (places + 1 - digits.length) '0' ++ digits
  if places = 0 then padded
  else padded.take (padded.length - places) ++ '.' :: padded.drop (padded.length - places)

/-- The text without trailing copies of `c`. -/
def dropTrailing (c : Char) (cs : List Char) : List Char := (cs.reverse.dropWhile (· == c)).reverse

/-- Without the zeros that end a fraction and without a point that ends the text. -/
def dropTrailingZeros (cs : List Char) : List Char := dropTrailing '.' (dropTrailing '0' cs)

def signMark (negative : Bool) : List Char := if negative then ['-'] else []

/-- The written form of a double, given that of its size. -/
def written (x : Float) (size : (mantissa : Nat) → (exponent : Int) → List Char) : String :=
  match Binary.ofFloat x with
  | .finite negative m e => String.ofList (signMark negative ++ size m e)
  | .infinite negative => String.ofList (signMark negative ++ ['i', 'n', 'f'])
  | .nan => "nan"

/-- With so many places, rounded to the nearest, a half to the even neighbour. -/
def fixed (places : Nat) (x : Float) : String :=
  written x fun m e => pointed places ((Binary.size m e).shift places).round

/-- An exponent with its sign and at least two digits. -/
def exponentMark (exponent : Int) : List Char :=
  let digits := digitsOf exponent.natAbs
  ['e', if exponent < 0 then '-' else '+'] ++ List.replicate (2 - digits.length) '0' ++ digits

/-- In positional notation, without an exponent. -/
def Decimal.positional (d : Decimal) : List Char :=
  if d.exponent < 0 then pointed d.exponent.natAbs d.digits
  else digitsOf (d.digits * Nat.pow 10 d.exponent.natAbs)

/-- With one digit before the point and an exponent. -/
def Decimal.scientific (d : Decimal) : List Char :=
  let digits := digitsOf d.digits
  let fraction := digits.drop 1
  digits.take 1 ++ (if fraction.isEmpty then [] else '.' :: fraction) ++
    exponentMark (d.exponent + fraction.length)

/-- The power of ten of the first digit. -/
def Decimal.lead (d : Decimal) : Int := d.exponent + (digitCount d.digits - 1 : Nat)

/-- The same number without trailing zeros among its digits. -/
def Decimal.trimmed (d : Decimal) : Decimal :=
  let kept := dropTrailing '0' (digitsOf d.digits)
  let dropped := digitCount d.digits - kept.length
  if d.digits = 0 then ⟨0, 0⟩ else ⟨d.digits / Nat.pow 10 dropped, d.exponent + dropped⟩

/-- The shortest text that reads back as the same double. It is positional, with at least one place,
if the first digit stands between the fourth place and the sixteenth digit before the point. -/
def full (x : Float) : String :=
  written x fun m e =>
    if m = 0 then ['0', '.', '0']
    else
      let d := (shortest m e).trimmed
      if -4 ≤ d.lead && d.lead < 16 then
        if d.exponent < 0 then d.positional else d.positional ++ ['.', '0']
      else d.scientific

/-- Six significant digits without trailing zeros; positional from the fourth place up to six digits
before the point. -/
def general (x : Float) : String :=
  written x fun m e =>
    if m = 0 then ['0']
    else
      let d := ((Binary.size m e).significant 6).trimmed
      if -4 ≤ d.lead && d.lead < 6 then d.positional else d.scientific

def ofInt (n : Int) : String := String.ofList (signMark (n < 0) ++ digitsOf n.natAbs)

/-- A number without exponent: a whole number exactly, any other with at most twelve places. -/
def plain (x : Float) : String :=
  match isWhole x, truncate? x with
  | true, some n => ofInt n
  | _, _ => String.ofList (dropTrailingZeros (fixed 12 x).toList)

/-- The double nearest to the number rounded to so many places, a half to the even neighbour. -/
def roundTo (places : Nat) (x : Float) : Float :=
  match Binary.ofFloat x with
  | .finite negative m e =>
    let size := Decimal.toFloat ⟨((Binary.size m e).shift places).round, -(places : Int)⟩
    if negative then -size else size
  | _ => x

/-- The least whole number beyond all doubles: half way from the greatest double to `2 ^ 1024`. -/
@[irreducible]
def wholeBound : Nat := Nat.pow 2 1024 - Nat.pow 2 970

/-- The double nearest to a whole number, unless the number is beyond all doubles. -/
def ofInt? (n : Int) : Option Float :=
  if wholeBound ≤ n.natAbs then none else some (Float.ofInt n)

end Teller.Number
