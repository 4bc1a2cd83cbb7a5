import Teller.Number.Binary

/-!
# Scales for scores

Scores are computed the same way in doubles, when the program runs, and in rational numbers, where
their laws are free of rounding. A scale has the four operations, an order, decimal constants and
the value of each double.
-/

namespace Teller.Number

/-- Numbers in which scores can be computed. -/
class Scale (α : Type) extends Add α, Sub α, Mul α, Div α, LE α, LT α where
  /-- The constant `digits · 10 ^ -places`. -/
  decimal (digits places : Nat) : α
  /-- The value of a double. -/
  ofFloat : Float → α
  decidableLE : DecidableLE α
  decidableLT : DecidableLT α

namespace Scale

variable {α : Type} [Scale α]

instance : DecidableLE α := decidableLE
instance : DecidableLT α := decidableLT

def zero : α := decimal 0 0

def one : α := decimal 1 0

/-- The sum, from left to right. -/
def sum (xs : List α) : α := xs.foldl (· + ·) zero

/-- `x`, or `cap` if `x` is above it. -/
def atMost (cap x : α) : α := if cap < x then cap else x

/-- The greater of two numbers, the first if neither exceeds the other. -/
def greater (x y : α) : α := if x < y then y else x

end Scale

instance : Scale Float where
  decimal digits places := Float.ofScientific digits true places
  ofFloat x := x
  decidableLE := inferInstance
  decidableLT := inferInstance

/-- The exact value of a finite double; infinities and NaN have none and count as zero. -/
def exactValue (x : Float) : Rat :=
  match Binary.ofFloat x with
  | .finite negative m e =>
    let size := Binary.size m e
    mkRat (signed negative size.num) size.den
  | _ => 0

instance : Scale Rat where
  decimal digits places := mkRat digits (Nat.pow 10 places)
  ofFloat := exactValue
  decidableLE := inferInstance
  decidableLT := inferInstance

end Teller.Number
