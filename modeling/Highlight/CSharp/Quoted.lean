/-!
# Strings and characters of C#

Where a string or a character literal ends. In a plain or an interpolated string a backslash takes
the character behind it along; in a verbatim string a quote is written twice.
-/

namespace Highlight.CSharp

/-- The number of characters of the body of a string up to its closing quote, which is included. -/
def quotedEnd? : List Char → Option Nat
  | [] => none
  | '"' :: _ => some 1
  | '\\' :: _ :: rest => (quotedEnd? rest).map (· + 2)
  | _ :: rest => (quotedEnd? rest).map (· + 1)

/-- The number of characters of the body of a verbatim string up to its closing quote, which is
included; nothing if the string goes on on the next line. -/
def verbatimEnd? : List Char → Option Nat
  | [] => none
  | '"' :: '"' :: rest => (verbatimEnd? rest).map (· + 2)
  | '"' :: _ => some 1
  | _ :: rest => (verbatimEnd? rest).map (· + 1)

/-- The length of a plain string. -/
def plainString? : List Char → Option Nat
  | '"' :: body => (quotedEnd? body).map (· + 1)
  | _ => none

/-- The length of an interpolated string. -/
def interpolatedString? : List Char → Option Nat
  | '$' :: '"' :: body => (quotedEnd? body).map (· + 2)
  | _ => none

/-- The length of what opens a verbatim string. -/
def verbatimOpening? : List Char → Option Nat
  | '@' :: '"' :: _ => some 2
  | '$' :: '@' :: '"' :: _ => some 3
  | '@' :: '$' :: '"' :: _ => some 3
  | _ => none

/-- The length of a character literal: one character, or a backslash and one character. -/
def charLiteral? : List Char → Option Nat
  | '\'' :: '\\' :: rest =>
    match rest with
    | _ :: '\'' :: _ => some 4
    | _ => none
  | '\'' :: _ :: '\'' :: _ => some 3
  | _ => none

end Highlight.CSharp
