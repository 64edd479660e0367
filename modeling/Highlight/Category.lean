/-!
# Color categories

The closed set of classes that a character of a source text can fall into. `ofName?_name` says that
every category is found again under its name.
-/

namespace Highlight

/-- What a character of a source text is. -/
inductive Category where
  | plain
  | keyword
  | identifier
  | knownIdentifier
  | string
  | charLiteral
  | number
  | comment
  | blockComment
  | preprocessor
  | punctuation
deriving Repr, DecidableEq, Inhabited

namespace Category

/-- Every category, in a fixed order. -/
def all : List Category :=
  [plain, keyword, identifier, knownIdentifier, string, charLiteral, number, comment, blockComment,
    preprocessor, punctuation]

/-- The name of a category in language files. -/
def name : Category → String
  | plain => "Default"
  | keyword => "Keyword"
  | identifier => "Identifier"
  | knownIdentifier => "KnownIdentifier"
  | string => "String"
  | charLiteral => "CharLiteral"
  | number => "Number"
  | comment => "Comment"
  | blockComment => "MultiLineComment"
  | preprocessor => "Preprocessor"
  | punctuation => "Punctuation"

/-- The category with this name, letter case included. -/
def ofName? (text : String) : Option Category :=
  all.find? (·.name == text)

/-- Reading the name of a category gives the category back. -/
theorem ofName?_name (c : Category) : ofName? c.name = some c := by
  cases c <;> decide

end Category

end Highlight
