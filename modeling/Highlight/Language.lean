import Highlight.Category
import Highlight.Unicode.CharacterClass

/-!
# Language tables

What a highlighter has to know about a language: its words, its rules in order, and the marks of
its comments. `LanguageError` holds what can be wrong with a table.
-/

namespace Highlight

/-- A pattern for tokens of one category. -/
structure Rule where
  pattern : String
  category : Category
deriving Repr, DecidableEq

/-- A language as a table. -/
structure Language where
  name : String
  extensions : List String := []
  keywords : List String := []
  identifiers : List String := []
  rules : List Rule := []
  lineComment : String := ""
  commentStart : String := ""
  commentEnd : String := ""
  preprocessor : Option Char := none
  caseSensitive : Bool := true
  autoIndentation : Bool := true
deriving Repr, DecidableEq

/-- What can be wrong with the table of a language. -/
inductive LanguageError where
  | missingName
  | missingCommentEnd (language : String)
  | emptyPattern (language : String)
  | invalidPattern (pattern language : String)
deriving Repr, DecidableEq

/-- The wording of an error. -/
def LanguageError.message : LanguageError → String
  | missingName => "language definition has no name"
  | missingCommentEnd language =>
    "language " ++ language ++ " has a comment start marker but no end marker"
  | emptyPattern language => "empty pattern in language " ++ language
  | invalidPattern pattern language =>
    "invalid pattern \x60" ++ pattern ++ "\x60 in language " ++ language

/-- Checks a table without looking at its patterns: it has a name that is not blank, and a mark that
begins comments comes with one that ends them. -/
def Language.validate (language : Language) : Except LanguageError Unit :=
  if language.name.toList.all Unicode.isBlank then throw .missingName
  else if language.commentStart ≠ "" ∧ language.commentEnd = "" then
    throw (.missingCommentEnd language.name)
  else pure ()

end Highlight
