import Highlight.Regex.Basic
import Highlight.Regex.Expr

/-!
# What patterns mean

A pattern is turned into a regular expression from left to right, with the flags that are in force
at each place; runs and choices are simplified where their group ends. A pattern that asks for parts
of characters, or for a property that does not exist, means nothing.
-/

namespace Highlight.Regex

/-- The condition that an assertion stands for under the flags. -/
def Assertion.look (flags : Flags) : Assertion → Look
  | .lineStart => if flags.multiLine then .lineStart flags.crlf else .textStart
  | .lineEnd => if flags.multiLine then .lineEnd flags.crlf else .textEnd
  | .textStart => .textStart
  | .textEnd => .textEnd
  | .wordBoundary => .wordBoundary flags.unicode
  | .notWordBoundary => .notWordBoundary flags.unicode
  | .wordStart => .wordStart flags.unicode
  | .wordEnd => .wordEnd flags.unicode
  | .wordStartHalf => .wordStartHalf flags.unicode
  | .wordEndHalf => .wordEndHalf flags.unicode

/-- The class closed under letter case, where case is ignored. -/
def CharClass.fold (flags : Flags) (c : CharClass) : CharClass :=
  if flags.ignoreCase then c.closeCase flags.unicode else c

/-- The class or its complement; without Unicode a complement would hold parts of characters. -/
def CharClass.negate? (flags : Flags) (negated : Bool) (c : CharClass) : Option CharClass :=
  if negated then (if flags.unicode then some (.compl c) else none) else some c

/-- The class of a one-letter escape. -/
def LetterClass.toClass (unicode : Bool) : LetterClass → CharClass
  | .digit => if unicode then .digit else .asciiDigit
  | .space => if unicode then .space else .asciiSpace
  | .word => if unicode then .word else .asciiWord

/-- The set of characters that a class stands for under the flags. -/
def ClassSet.toClass? (flags : Flags) : ClassSet → Option CharClass
  | .nothing => some .empty
  | .literal l => if flags.unicode || l.char.toNat < 128 then some (.single l.char) else none
  | .range first last =>
    if flags.unicode || last.char.toNat < 128 then some (.range first.char last.char) else none
  | .ascii ranges negated => ((CharClass.ofRanges ranges).fold flags).negate? flags negated
  | .letter kind negated => (kind.toClass flags.unicode).negate? flags negated
  | .property query negated => do
    guard flags.unicode
    let c ← query.resolve
    (c.fold flags).negate? flags negated
  | .bracket negated s => do
    let c ← s.toClass? flags
    (c.fold flags).negate? flags negated
  | .union a b => do
    let a ← a.toClass? flags
    let b ← b.toClass? flags
    return .union a b
  | .binary op a b => do
    let a ← a.toClass? flags
    let b ← b.toClass? flags
    let a := a.fold flags
    let b := b.fold flags
    return match op with
      | .intersection => .inter a b
      | .difference => .diff a b
      | .symmetricDifference => .symmDiff a b

/-- Everything the dot stands for: any character, or any that does not end a line. -/
def dotClass (flags : Flags) : CharClass :=
  if flags.dotAll then .any
  else if flags.crlf then .compl (.union (.single '\r') (.single '\n'))
  else .compl (.single '\n')

/-- The expression that takes a character, or one equal to it up to case where case is ignored. -/
def literalRegex (flags : Flags) (c : Char) : Regex :=
  if flags.ignoreCase && 1 < (CharClass.variants flags.unicode c).length then
    .set flags.unicode ((CharClass.single c).fold flags)
  else .text c []

/-- The regular expression of a pattern under the flags, and the flags in force behind it. -/
def Expr.meaning? (flags : Flags) : Expr → Option (Regex × Flags)
  | .empty => some (.empty, flags)
  | .setFlags change => some (.empty, flags.apply change)
  | .literal l =>
    if !flags.unicode && l.asByte && 128 ≤ l.char.toNat then none
    else some (literalRegex flags l.char, flags)
  | .dot => if flags.unicode then some (.ofClass true (dotClass flags), flags) else none
  | .assertion a => some (.look (a.look flags), flags)
  | .set s => (s.toClass? flags).map fun c => (.ofClass flags.unicode c, flags)
  | .repetition e min max greedy => do
    let (r, flags) ← e.meaning? flags
    return (r.repetition min max (greedy != flags.swapGreed), flags)
  | .group number change e => do
    let (r, _) ← e.meaning? (flags.apply change)
    return (match number with
      | some n => .counted n r.simplify
      | none => r.simplify, flags)
  | .cat a b => do
    let (a, flags) ← a.meaning? flags
    let (b, flags) ← b.meaning? flags
    return (.cat a b, flags)
  | .alt a b => do
    let (a, flags) ← a.meaning? flags
    let (b, flags) ← b.meaning? flags
    return (.alt a b, flags)

/-- The regular expression of a whole pattern. -/
def Expr.regex? (flags : Flags) (e : Expr) : Option Regex :=
  (e.meaning? flags).map fun (r, _) => r.simplify

end Highlight.Regex
