import Highlight.Language
import Highlight.Regex.Search

/-!
# Compiled rules

A rule is compiled to a program that is looked for from the beginning of a text. Lengths of matches
are counted in bytes of UTF-8; `glyphsWithin` counts the characters that a number of bytes holds.
-/

namespace Highlight

/-- The number of bytes of a text in UTF-8. -/
def utf8Length : List Char → Nat
  | [] => 0
  | c :: rest => c.utf8Size + utf8Length rest

/-- The number of characters at the beginning of a text that fit in a number of bytes. -/
def glyphsWithin : (bytes : Nat) → List Char → Nat
  | _, [] => 0
  | bytes, c :: rest =>
    if c.utf8Size ≤ bytes then glyphsWithin (bytes - c.utf8Size) rest + 1 else 0

/-- A rule that is ready to be matched. -/
structure CompiledRule where
  program : Regex.Program
  category : Category

namespace Rule

/-- The pattern that is compiled: the text of the rule in a group at the start of the text. -/
def anchoredPattern (rule : Rule) : List Char :=
  ['^', '(', '?', ':'] ++ rule.pattern.toList ++ [')']

/-- Compiles a rule of a language. -/
def compile (rule : Rule) (language : String) (caseSensitive : Bool) :
    Except LanguageError CompiledRule :=
  if rule.pattern = "" then throw (.emptyPattern language)
  else match Regex.Program.ofPattern? rule.anchoredPattern (!caseSensitive) with
    | some program => pure { program, category := rule.category }
    | none => throw (.invalidPattern rule.pattern language)

end Rule

namespace CompiledRule

/-- The number of bytes up to the end of the leftmost match in a text. -/
def matchBytes? (rule : CompiledRule) (text : List Char) : Option Nat :=
  (rule.program.findEnd? text).map fun n => utf8Length (text.take n)

end CompiledRule

/-- Whole characters are counted by their bytes without loss. -/
theorem glyphsWithin_utf8Length (text : List Char) (n : Nat) (h : n ≤ text.length) :
    glyphsWithin (utf8Length (text.take n)) text = n := by
  induction text generalizing n with
  | nil =>
    have : n = 0 := by simpa using h
    simp [this, glyphsWithin]
  | cons c rest ih =>
    cases n with
    | zero =>
      have := Char.utf8Size_pos c
      simp [utf8Length, glyphsWithin]
      omega
    | succ n =>
      have hle : c.utf8Size ≤ utf8Length ((c :: rest).take (n + 1)) := by
        simp [utf8Length]
      have hsub :
          utf8Length ((c :: rest).take (n + 1)) - c.utf8Size = utf8Length (rest.take n) := by
        simp [utf8Length]
      rw [glyphsWithin, if_pos hle, hsub, ih n (by simpa using h)]

end Highlight
