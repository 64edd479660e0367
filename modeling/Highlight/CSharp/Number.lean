import Highlight.Text.Digit

/-!
# Numbers of C#

A number is a hexadecimal or binary literal, or a decimal one with an optional sign, fraction,
exponent and suffix. `number?` gives the number of characters it takes.
-/

namespace Highlight.CSharp

/-- Whether a character is a decimal digit or an underscore. -/
def isDigitOrBar (c : Char) : Bool := c.isDigit || c == '_'

/-- Whether a character may stand in a binary literal. -/
def isBinaryDigit (c : Char) : Bool := c == '0' || c == '1' || c == '_'

/-- Whether a character may stand in the suffix of an integer. -/
def isIntegerSuffix (c : Char) : Bool := c == 'u' || c == 'U' || c == 'l' || c == 'L'

/-- Whether a character is the suffix of a floating or decimal number. -/
def isFloatSuffix (c : Char) : Bool :=
  c == 'f' || c == 'F' || c == 'd' || c == 'D' || c == 'm' || c == 'M'

/-- Whether a character is a sign. -/
def isSign (c : Char) : Bool := c == '+' || c == '-'

/-- The number of characters at the beginning of a text that satisfy a condition. -/
def runLength (p : Char → Bool) (text : List Char) : Nat :=
  (text.takeWhile p).length

/-- The length of a hexadecimal or binary literal; its digits may be missing. -/
def radixNumber? : List Char → Option Nat
  | '0' :: mark :: rest =>
    let literal (isDigit : Char → Bool) : Nat :=
      let digits := runLength isDigit rest
      2 + digits + runLength isIntegerSuffix (rest.drop digits)
    if mark == 'x' || mark == 'X' then some (literal Text.isHexDigit)
    else if mark == 'b' || mark == 'B' then some (literal isBinaryDigit)
    else none
  | _ => none

/-- The length of the sign, digits and underscores of a decimal literal. A sign may be followed by
an underscore, but some digit there must be. -/
def wholePart? : List Char → Option Nat
  | [] => none
  | c :: rest =>
    let digits := rest.takeWhile isDigitOrBar
    if c.isDigit || (isSign c && digits.any Char.isDigit) then some (1 + digits.length) else none

/-- The length of a fraction with its point; there may be none. -/
def fractionLength : List Char → Nat
  | '.' :: rest => 1 + runLength isDigitOrBar rest
  | _ => 0

/-- The length of an exponent, zero if there is none; nothing if it has no digits. -/
def exponentLength? : List Char → Option Nat
  | [] => some 0
  | c :: rest =>
    if c == 'e' || c == 'E' then
      let sign := if rest.head?.any isSign then 1 else 0
      let digits := runLength Char.isDigit (rest.drop sign)
      if digits = 0 then none else some (1 + sign + digits)
    else some 0

/-- The length of a suffix: one letter of a floating number, or the letters of an integer. -/
def suffixLength (isInteger : Bool) (text : List Char) : Nat :=
  if text.head?.any isFloatSuffix then 1
  else if isInteger then runLength isIntegerSuffix text
  else 0

/-- The length of a decimal literal. -/
def decimalNumber? (text : List Char) : Option Nat := do
  let whole ← wholePart? text
  let fraction := fractionLength (text.drop whole)
  let exponent ← exponentLength? (text.drop (whole + fraction))
  let mantissa := whole + fraction + exponent
  return mantissa + suffixLength (fraction = 0 && exponent = 0) (text.drop mantissa)

/-- The length of the number that a text begins with. -/
def number? (text : List Char) : Option Nat :=
  (radixNumber? text).or (decimalNumber? text)

end Highlight.CSharp
