import Teller.Text.Quoted

/-!
# Identifiers

Identifiers are made from numbers: short ones in decimal, and long ones of 32 hexadecimal digits for
use beyond one desk. Different numbers make different identifiers.

    short_injective      different numbers, different short identifiers
    head?_short          a short identifier begins like its start
    tail_long            behind the start of a long identifier stand its digits
-/

namespace Teller.Identifier

def short (start : String) (number : Nat) : String :=
  start ++ String.ofList (Nat.toDigits 10 number)

def longDigits : Nat := 32

/-- A long identifier, for numbers below `16 ^ 32`. -/
def long (start : String) (number : Nat) : String :=
  start ++ String.ofList (Text.hex longDigits number)

/-- What stands behind the start of an identifier. -/
def tail (start id : String) : List Char := id.toList.drop start.toList.length

/-! ## Lemmas -/

theorem short_injective {start : String} {m n : Nat} (h : short start m = short start n) :
    m = n := by
  have digits : Nat.toDigits 10 m = Nat.toDigits 10 n := by
    simpa [short] using congrArg String.toList h
  rw [← Nat.ofDigitChars_ten_toDigits (n := m), digits, Nat.ofDigitChars_ten_toDigits]

theorem head?_short {start : String} {c : Char} (h : start.toList.head? = some c) (number : Nat) :
    (short start number).toList.head? = some c := by
  simp [short, h]

theorem tail_long (start : String) (number : Nat) :
    tail start (long start number) = Text.hex longDigits number := by
  simp [tail, long]

end Teller.Identifier
