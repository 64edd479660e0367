import Highlight.Text.Digit
import Highlight.Toml.Value

/-!
# Numbers, dates and times of TOML
-/

namespace Highlight.Toml

/-- Reads digits, between any two of which an underscore may stand; the underscores are left out. -/
def readDigits (isDigit : Char → Bool) : List Char → Option (List Char × List Char)
  | [] => none
  | c :: rest =>
    if !isDigit c then none
    else match rest with
      | '_' :: rest => (readDigits isDigit rest).map fun (digits, rest) => (c :: digits, rest)
      | rest =>
        match readDigits isDigit rest with
        | some (digits, rest) => some (c :: digits, rest)
        | none => if rest.head?.any isDigit then none else some ([c], rest)

/-- Reads a sign; whether it is a minus. -/
def readSign : List Char → Bool × List Char
  | '+' :: rest => (false, rest)
  | '-' :: rest => (true, rest)
  | cs => (false, cs)

/-- Reads the digits of a decimal integer, which begin with a zero only if nothing else follows. -/
def readWhole : List Char → Option (List Char × List Char)
  | '0' :: rest => some (['0'], rest)
  | cs => readDigits Char.isDigit cs

/-- The least integer of 64 bits. -/
def minInteger : Int := -9223372036854775808

/-- The greatest integer of 64 bits. -/
def maxInteger : Int := 9223372036854775807

/-- The integer as a value, if it fits in 64 bits. -/
def integer? (n : Int) : Option Value :=
  if minInteger ≤ n ∧ n ≤ maxInteger then some (.integer n) else none

/-- Reads an integer: hexadecimal, octal or binary without a sign, or decimal. -/
def readInteger (cs : List Char) : Option (Value × List Char) :=
  let radix (base : Nat) (isDigit : Char → Bool) (cs : List Char) : Option (Value × List Char) := do
    let (digits, rest) ← readDigits isDigit cs
    let value ← integer? (Text.digitsValue base digits)
    return (value, rest)
  match cs with
  | '0' :: 'x' :: rest => radix 16 Text.isHexDigit rest
  | '0' :: 'o' :: rest => radix 8 (fun c => '0' ≤ c && c ≤ '7') rest
  | '0' :: 'b' :: rest => radix 2 (fun c => c == '0' || c == '1') rest
  | cs => do
    let (negative, rest) := readSign cs
    let (digits, rest) ← readWhole rest
    let n : Int := Text.digitsValue 10 digits
    let value ← integer? (if negative then -n else n)
    return (value, rest)

/-- Whether `mantissa * 10 ^ exponent` is too large for a number of double precision. -/
def overflows (mantissa : Nat) (exponent : Int) : Bool :=
  let size := (Nat.toDigits 10 mantissa).length + exponent
  if mantissa = 0 || size < 300 then false
  else if 320 < size then true
  else
    let bound := Nat.pow 2 1024 - Nat.pow 2 970
    if 0 ≤ exponent then bound ≤ mantissa * Nat.pow 10 exponent.toNat
    else bound * Nat.pow 10 (-exponent).toNat ≤ mantissa

/-- Reads the exponent of a number. -/
def readExponent : List Char → Option (Int × List Char)
  | c :: rest =>
    if c == 'e' || c == 'E' then do
      let (negative, rest) := readSign rest
      let (digits, rest) ← readDigits Char.isDigit rest
      let n : Int := Text.digitsValue 10 digits
      return (if negative then -n else n, rest)
    else none
  | [] => none

/-- Reads a number with a fraction or an exponent, or one that is no number or infinite. -/
def readFloat (cs : List Char) : Option (Value × List Char) := do
  let value (rest : List Char) : Value :=
    .float (String.ofList (cs.take (cs.length - rest.length)))
  let (negative, rest) := readSign cs
  match rest with
  | 'i' :: 'n' :: 'f' :: rest => return (value rest, rest)
  | 'n' :: 'a' :: 'n' :: rest => return (value rest, rest)
  | _ =>
    let (whole, rest) ← readWhole rest
    let (fraction, exponent, rest) ← match rest with
      | '.' :: rest => do
        let (fraction, rest) ← readDigits Char.isDigit rest
        match readExponent rest with
        | some (exponent, rest) => some (fraction, exponent, rest)
        | none => some (fraction, 0, rest)
      | rest => (readExponent rest).map fun (exponent, rest) => ([], exponent, rest)
    let mantissa := Text.digitsValue 10 (whole ++ fraction)
    if !negative && overflows mantissa (exponent - fraction.length) then none
    else return (value rest, rest)

/-- Reads exactly `count` decimal digits as a number between two bounds. -/
def readField (count low high : Nat) (cs : List Char) : Option (Nat × List Char) :=
  let digits := cs.take count
  let n := Text.digitsValue 10 digits
  if digits.length = count && digits.all Char.isDigit && low ≤ n && n ≤ high then
    some (n, cs.drop count)
  else none

/-- Reads one character. -/
def readChar (char : Char) : List Char → Option (List Char)
  | c :: rest => if c == char then some rest else none
  | [] => none

/-- The number of days of a month. -/
def daysIn (year month : Nat) : Nat :=
  if month = 2 then
    if year % 4 = 0 && (year % 100 != 0 || year % 400 = 0) then 29 else 28
  else if month = 4 || month = 6 || month = 9 || month = 11 then 30
  else 31

/-- Reads a date and gives the rest. -/
def readDate (cs : List Char) : Option (List Char) := do
  let (year, cs) ← readField 4 0 9999 cs
  let (month, cs) ← readField 2 1 12 (← readChar '-' cs)
  let (_, cs) ← readField 2 1 (daysIn year month) (← readChar '-' cs)
  return cs

/-- Reads a time of day, with a fraction of a second or without, and gives the rest. -/
def readTime (cs : List Char) : Option (List Char) := do
  let (_, cs) ← readField 2 0 23 cs
  let (_, cs) ← readField 2 0 59 (← readChar ':' cs)
  let (_, cs) ← readField 2 0 60 (← readChar ':' cs)
  match cs with
  | '.' :: rest => if rest.head?.any Char.isDigit then return rest.dropWhile Char.isDigit else none
  | cs => return cs

/-- Reads the distance of a time from universal time and gives the rest. -/
def readOffset : List Char → Option (List Char)
  | c :: rest =>
    if c == 'Z' || c == 'z' then some rest
    else if c == '+' || c == '-' then do
      let (_, cs) ← readField 2 0 23 rest
      let (_, cs) ← readField 2 0 59 (← readChar ':' cs)
      return cs
    else none
  | [] => none

/-- Reads a date, a time, or both with an offset or without. -/
def readDateTime (cs : List Char) : Option (Value × List Char) :=
  let value (rest : List Char) : Value × List Char :=
    (.dateTime (String.ofList (cs.take (cs.length - rest.length))), rest)
  match readDate cs with
  | some rest =>
    match rest with
    | c :: time =>
      if c == 'T' || c == 't' || c == ' ' then
        match readTime time with
        | some rest => some (value ((readOffset rest).getD rest))
        | none => some (value (c :: time))
      else some (value (c :: time))
    | [] => some (value [])
  | none => (readTime cs).map value

/-- Reads a number, a date or a time. -/
def readNumber (cs : List Char) : Option (Value × List Char) :=
  (readDateTime cs).or ((readFloat cs).or (readInteger cs))

end Highlight.Toml
