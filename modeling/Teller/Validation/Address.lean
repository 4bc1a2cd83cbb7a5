import Teller.Text.Characters

/-!
# Addresses

An address is written in hexadecimal after `0x`, or natively in letters and digits. One line feed at
the end is passed over.
-/

namespace Teller.Address

/-- The text without a line feed at its end. -/
def withoutLineFeed (cs : List Char) : List Char :=
  if cs.getLast? = some '\n' then cs.dropLast else cs

/-- `0x` and forty hexadecimal digits. -/
def isHexadecimal : List Char → Bool
  | '0' :: 'x' :: digits => digits.length == 40 && digits.all Text.isHex
  | _ => false

/-- Between 39 and 59 letters and digits of ASCII. -/
def isNative (cs : List Char) : Bool :=
  39 ≤ cs.length && cs.length ≤ 59 && cs.all Char.isAlphanum

/-- The text is an address of one of the two forms. -/
def isValid (s : String) : Bool :=
  let cs := withoutLineFeed s.toList
  isHexadecimal cs || isNative cs

end Teller.Address
