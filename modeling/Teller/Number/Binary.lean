/-!
# Doubles as exact numbers

A finite double is a sign, a mantissa and a power of two. Everything that prints, truncates or
rounds a double works on this exact value, in natural numbers.
-/

namespace Teller.Number

/-- What a double stands for: `± mantissa · 2 ^ exponent`, an infinity, or no number. -/
inductive Binary where
  | finite (negative : Bool) (mantissa : Nat) (exponent : Int)
  | infinite (negative : Bool)
  | nan
  deriving DecidableEq, Repr

/-- The leading bit of a mantissa of 53 bits, `2 ^ 52`. -/
def Binary.leadingBit : Nat := 4503599627370496

/-- The fields of the 64 bits: a sign, eleven bits of exponent and 52 bits of mantissa. Numbers
whose exponent field is zero have no hidden leading bit. -/
def Binary.ofBits (bits : Nat) : Binary :=
  let negative := bits / leadingBit / 2048 % 2 == 1
  let exponent : Nat := bits / leadingBit % 2048
  let fraction : Nat := bits % leadingBit
  if exponent = 2047 then
    if fraction = 0 then .infinite negative else .nan
  else if exponent = 0 then .finite negative fraction (-1074)
  else .finite negative (fraction + leadingBit) ((exponent : Int) - 1075)

def Binary.ofFloat (x : Float) : Binary := Binary.ofBits x.toBits.toNat

structure Fraction where
  num : Nat
  den : Nat
  deriving DecidableEq, Repr

/-- The fraction `m · base ^ e`. -/
def Fraction.scaled (m base : Nat) : Int → Fraction
  | .ofNat k => ⟨m * Nat.pow base k, 1⟩
  | .negSucc k => ⟨m, Nat.pow base (k + 1)⟩

/-- The product of two fractions, not reduced. -/
def Fraction.mul (a b : Fraction) : Fraction := ⟨a.num * b.num, a.den * b.den⟩

/-- The fraction times a power of ten. -/
def Fraction.shift (a : Fraction) (places : Int) : Fraction := a.mul (.scaled 1 10 places)

/-- The quotient rounded to the nearest whole number, a half to the even neighbour. -/
def Fraction.round (a : Fraction) : Nat :=
  let quotient := a.num / a.den
  let twice := 2 * (a.num % a.den)
  if twice < a.den then quotient
  else if a.den < twice then quotient + 1
  else quotient + quotient % 2

/-- Comparison by cross multiplication. -/
def Fraction.le (a b : Fraction) : Bool := a.num * b.den ≤ b.num * a.den

/-- The size of a finite double, exactly. -/
def Binary.size (mantissa : Nat) (exponent : Int) : Fraction := .scaled mantissa 2 exponent

def signed (negative : Bool) (n : Nat) : Int := if negative then -(n : Int) else n

/-- The part of a finite double before the point. -/
def truncate? (x : Float) : Option Int :=
  match Binary.ofFloat x with
  | .finite negative m e => some (signed negative ((Binary.size m e).num / (Binary.size m e).den))
  | _ => none

def isWhole (x : Float) : Bool :=
  match Binary.ofFloat x with
  | .finite _ m e => (Binary.size m e).num % (Binary.size m e).den == 0
  | _ => false

end Teller.Number
