import Teller.Text.DigitTable
import Teller.Text.PrintableTable
import Teller.Text.WordTable

/-!
# Classes of characters

Blanks, decimal digits, characters of words and printable characters, over all of Unicode. On ASCII
every class is given directly; the tables serve the rest.

    isWord_of_isAlphanum         ASCII letters and digits are in words
    isDigit_of_ascii             ASCII digits are digits
    isBlank_of_isWhitespace      ASCII blanks are blanks
-/

namespace Teller.Text

/-- Blanks: the spaces, tabulators, line ends and separators of Unicode. -/
def isBlank (c : Char) : Bool :=
  [(9, 13), (28, 32), (133, 133), (160, 160), (5760, 5760), (8192, 8202), (8232, 8233),
    (8239, 8239), (8287, 8287), (12288, 12288)].any fun (first, last) =>
      first ≤ c.toNat && c.toNat ≤ last

/-- The value of a decimal digit of any script. -/
def digit? (c : Char) : Option Nat :=
  if c.isDigit then some (c.toNat - 48)
  else if c.toNat < 128 then none
  else (digitZeros.find? fun z => z ≤ c.toNat && c.toNat < z + 10).map (c.toNat - ·)

/-- Decimal digits of any script. -/
def isDigit (c : Char) : Bool := (digit? c).isSome

/-- Characters of words: letters, numbers and the underscore. -/
def isWord (c : Char) : Bool :=
  if c.toNat < 128 then c.isAlphanum || c == '_' else Ranges.has alphanumericRanges c

/-- Characters that a quoted text shows as they are. -/
def isPrintable (c : Char) : Bool :=
  if c.toNat < 128 then 32 ≤ c.toNat && c.toNat < 127 else Ranges.has printableRanges c

def isHex (c : Char) : Bool :=
  c.isDigit || ('a' ≤ c && c ≤ 'f') || ('A' ≤ c && c ≤ 'F')

/-! ## Lemmas -/

theorem toNat_lt_of_isAlphanum {c : Char} (h : c.isAlphanum) : c.toNat < 128 := by
  have parts : ((c.isUpper || c.isLower) || c.isDigit) = true := h
  have last {bound : UInt32} (le : c.val ≤ bound) (small : bound.toNat < 128) : c.toNat < 128 :=
    Nat.lt_of_le_of_lt (UInt32.le_iff_toNat_le.1 le) small
  rcases Bool.or_eq_true_iff.1 parts with letter | digit
  · rcases Bool.or_eq_true_iff.1 letter with upper | lower
    · exact last (of_decide_eq_true upper).2 (by decide)
    · exact last (of_decide_eq_true (Bool.and_eq_true_iff.1 lower).2) (by decide)
  · exact last (of_decide_eq_true (Bool.and_eq_true_iff.1 digit).2) (by decide)

theorem isWord_of_isAlphanum {c : Char} (h : c.isAlphanum) : isWord c := by
  simp [isWord, toNat_lt_of_isAlphanum h, h]

theorem isDigit_of_ascii {c : Char} (h : c.isDigit) : isDigit c := by
  simp [isDigit, digit?, h]

theorem isBlank_of_isWhitespace {c : Char} (h : c.isWhitespace) : isBlank c := by
  simp only [Char.isWhitespace, Bool.or_eq_true, decide_eq_true_eq] at h
  rcases h with ((h | h) | h) | h <;> subst h <;> decide

end Teller.Text
