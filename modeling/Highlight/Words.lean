import Highlight.Language
import Highlight.Trie

/-!
# The words of a language

Keywords and known identifiers are looked up in one trie. Known identifiers are stored after the
keywords, so a word in both lists is a known identifier; empty words are left out.
-/

namespace Highlight

/-- What is known about a word. -/
structure WordInfo where
  category : Category
  declaration : Option String
deriving Repr, DecidableEq

namespace WordInfo

/-- What is known about a keyword. -/
def keyword : WordInfo := ⟨.keyword, none⟩

/-- What is known about a known identifier. -/
def known (declaration : String) : WordInfo := ⟨.knownIdentifier, some declaration⟩

end WordInfo

/-- The words of a language with what is known about them. -/
abbrev Words := Trie WordInfo

namespace Words

/-- The words with one more, unless it is empty. -/
def add (info : WordInfo) (words : Words) (word : String) : Words :=
  if word = "" then words else words.insert word.toList info

/-- The words of a language; known identifiers carry the declaration. -/
def ofLanguage (language : Language) (declaration : String) : Words :=
  let keywords := language.keywords.foldl (add .keyword) (Trie.empty language.caseSensitive)
  language.identifiers.foldl (add (.known declaration)) keywords

/-- The category of an identifier. -/
def categoryOf (words : Words) (word : List Char) : Category :=
  match words.get? word with
  | some info => info.category
  | none => .identifier

/-- The declaration of a word, if it is a known identifier. -/
def tooltip? (words : Words) (word : String) : Option String :=
  (words.get? word.toList).bind WordInfo.declaration

end Words

end Highlight
