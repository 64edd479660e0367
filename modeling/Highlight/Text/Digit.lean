/-!
# Digits and code points

The numbers that decimal and hexadecimal digits write, and the characters that numbers stand for.
-/

namespace Highlight.Text

/-- The value of a hexadecimal digit in either case. -/
def hexValue? (c : Char) : Option Nat :=
  if c.isDigit then some (c.toNat - '0'.toNat)
  else if 'a' ≤ c ∧ c ≤ 'f' then some (c.toNat - 'a'.toNat + 10)
  else if 'A' ≤ c ∧ c ≤ 'F' then some (c.toNat - 'A'.toNat + 10)
  else none

/-- Whether a character is a hexadecimal digit. -/
def isHexDigit (c : Char) : Bool := (hexValue? c).isSome

/-- The number that digits write in a base, where digits that are none count as zero. -/
def digitsValue (base : Nat) (digits : List Char) : Nat :=
  digits.foldl (fun n c => n * base + (hexValue? c).getD 0) 0

/-- The number that decimal digits write; there has to be one, and nothing else. -/
def decimalNumber? (digits : List Char) : Option Nat :=
  if digits ≠ [] ∧ digits.all Char.isDigit then some (digitsValue 10 digits) else none

/-- The character with a code point, unless that is a surrogate or too large. -/
def scalar? (n : Nat) : Option Char :=
  if n < 0xd800 ∨ (0xdfff < n ∧ n ≤ 0x10ffff) then some (Char.ofNat n) else none

/-- The character whose code point is written by hexadecimal digits; there has to be one. -/
def codePoint? (digits : List Char) : Option Char :=
  if digits ≠ [] ∧ digits.all isHexDigit then scalar? (digitsValue 16 digits) else none

end Highlight.Text
