import Teller.Number.Decimal
import Teller.Text.Words

/-!
# Reading numbers

The texts that name a number: blanks around it, a sign, digits of any script with single underscores
between them, a point, an exponent, or the words `inf`, `infinity` and `nan` in any case.
-/

namespace Teller.Number

open Teller.Text

/-- Blanks that may stand around a number; the four separators among the control characters may
not. -/
def isMargin (c : Char) : Bool := isBlank c && !(28 ≤ c.toNat && c.toNat ≤ 31)

/-- Digits of any script become ASCII digits. -/
def latinDigit (c : Char) : Char :=
  match digit? c with
  | some d => Char.ofNat (48 + d)
  | none => c

/-- The text without its underscores, if each of them stands between two digits. -/
def withoutUnderscores? : (afterDigit : Bool) → List Char → Option (List Char)
  | _, [] => some []
  | afterDigit, '_' :: rest =>
    match rest with
    | c :: _ => if afterDigit && c.isDigit then withoutUnderscores? false rest else none
    | [] => none
  | _, c :: rest => (withoutUnderscores? c.isDigit rest).map (c :: ·)

def ofDigits (cs : List Char) : Nat := cs.foldl (fun n c => 10 * n + (c.toNat - 48)) 0

def splitSign : List Char → Bool × List Char
  | '-' :: rest => (true, rest)
  | '+' :: rest => (false, rest)
  | rest => (false, rest)

/-- An exponent that takes up the whole text, or nothing at all. -/
def exponent? : List Char → Option Int
  | [] => some 0
  | mark :: rest =>
    let (negative, digits) := splitSign rest
    if (mark == 'e' || mark == 'E') && !digits.isEmpty && digits.all Char.isDigit then
      some (signed negative (ofDigits digits))
    else none

/-- The digits before the point, those after it, and the rest. -/
def splitNumeral (cs : List Char) : List Char × List Char × List Char :=
  let whole := cs.takeWhile Char.isDigit
  match cs.dropWhile Char.isDigit with
  | '.' :: rest => (whole, rest.takeWhile Char.isDigit, rest.dropWhile Char.isDigit)
  | rest => (whole, [], rest)

/-- The decimal that an unsigned numeral stands for. -/
def decimal? (cs : List Char) : Option Decimal :=
  let (whole, fraction, rest) := splitNumeral cs
  if whole.isEmpty && fraction.isEmpty then none
  else (exponent? rest).map fun e => ⟨ofDigits (whole ++ fraction), e - fraction.length⟩

/-- The number that an unsigned text without margins stands for. -/
def size? (cs : List Char) : Option Float :=
  let word := String.ofList (cs.map Char.toLower)
  if word == "inf" || word == "infinity" then some (1 / 0)
  else if word == "nan" then some (0 / 0)
  else (decimal? cs).map Decimal.toFloat

/-- The number that a text stands for. -/
def read? (s : String) : Option Float :=
  let cs := (strip isMargin s.toList).map latinDigit
  (withoutUnderscores? false cs).bind fun cs =>
    let (negative, cs) := splitSign cs
    (size? cs).map fun x => if negative then -x else x

end Teller.Number
