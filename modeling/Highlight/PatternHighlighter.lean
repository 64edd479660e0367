import Highlight.Highlighter
import Highlight.Marker
import Highlight.Rule
import Highlight.Words

/-!
# The highlighter for language tables

A line is cut into tokens by the table of a language alone: blanks, comments between the marks of
the table, a preprocessor directive in front of all code, and else the first rule in declared order
that matches some text. What no rule matches is a lone character.
-/

namespace Highlight

/-- A table with its patterns compiled and its words stored. -/
structure PatternHighlighter where
  language : Language
  rules : List CompiledRule
  words : Words

namespace PatternHighlighter

/-- What is shown about a known identifier. -/
def declaration : String := "Built-in function"

/-- Checks a table and compiles its rules in order; the first fault is reported. -/
def ofLanguage (language : Language) : Except LanguageError PatternHighlighter := do
  language.validate
  let rules ← language.rules.mapM fun rule => rule.compile language.name language.caseSensitive
  return { language, rules, words := Words.ofLanguage language declaration }

/-- A token at the beginning of a text; the last one of a line tells the state it hands on. -/
inductive Step where
  | token (length : Nat) (category : Category)
  | last (category : Category) (next : LineState)
deriving Repr, DecidableEq

/-- The token of a comment whose body begins `opening` characters into the text. -/
def commentStep (language : Language) (opening : Nat) (text : List Char) : Step :=
  match Marker.endOf? language.commentEnd.toList (text.drop opening) with
  | some n => .token (opening + n) .blockComment
  | none => .last .blockComment .blockComment

/-- The first rule with a match that is not empty, and the number of bytes of the match. -/
def matchRules? (rules : List CompiledRule) (text : List Char) : Option (CompiledRule × Nat) :=
  rules.findSome? fun rule =>
    match rule.matchBytes? text with
    | some n => if 0 < n then some (rule, n) else none
    | none => none

/-- The token of the first rule that matches; an identifier has the category of its word. -/
def ruleStep? (h : PatternHighlighter) (text : List Char) : Option Step :=
  (matchRules? h.rules text).map fun (rule, bytes) =>
    let length := glyphsWithin bytes text
    let category :=
      if rule.category = .identifier then h.words.categoryOf (text.take length) else rule.category
    .token length category

/-- The token that the text `c :: rest` begins with; `seenCode` once something that is not blank
stands before it. -/
def step (h : PatternHighlighter) (seenCode : Bool) (c : Char) (rest : List Char) : Step :=
  let text := c :: rest
  if Unicode.isBlank c then .token 1 .plain
  else if Marker.startsWith h.language.commentStart.toList text then
    commentStep h.language h.language.commentStart.toList.length text
  else if Marker.startsWith h.language.lineComment.toList text then .last .comment .normal
  else if !seenCode && h.language.preprocessor == some c then .last .preprocessor .normal
  else (h.ruleStep? text).getD (.token 1 .plain)

/-- The tokens of the rest of a line that no comment has been carried into, and the state it hands
on. -/
def tokensFrom (h : PatternHighlighter) (seenCode : Bool) : List Char → List Token × LineState
  | [] => ([], .normal)
  | c :: rest =>
    match h.step seenCode c rest with
    | .last category next => ([⟨rest.length + 1, category⟩], next)
    | .token length category =>
      let (others, last) :=
        h.tokensFrom (seenCode || !Unicode.isBlank c) (rest.drop (length - 1))
      (⟨length, category⟩ :: others, last)
termination_by text => text.length
decreasing_by simp only [List.length_drop, List.length_cons]; omega

/-- The tokens of a line and the state it hands on. A comment is carried on only where the table has
a mark that ends it. -/
def tokens (h : PatternHighlighter) (state : LineState) (text : List Char) :
    List Token × LineState :=
  if state = .blockComment ∧ h.language.commentEnd ≠ "" then
    match Marker.endOf? h.language.commentEnd.toList text with
    | some n =>
      let (others, last) := h.tokensFrom true (text.drop n)
      (⟨n, .blockComment⟩ :: others, last)
    | none => ([⟨text.length, .blockComment⟩], .blockComment)
  else h.tokensFrom false text

/-- The highlighter that a compiled table stands for. -/
def highlighter (h : PatternHighlighter) : Highlighter :=
  { autoIndentation := h.language.autoIndentation
    maxLinesPerFrame := Highlighter.defaultMaxLines
    tooltip? := h.words.tooltip?
    tokens := h.tokens }

end PatternHighlighter

end Highlight
