import Highlight.Builtin
import Highlight.CSharp
import Highlight.Path
import Highlight.PatternHighlighter
import Highlight.Unicode.LowerCase
import Std.Data.TreeMap

/-!
# Registries of languages

A registry finds the highlighter of a language by its name, and the name of a language by the
extension of a file, in any letter case. The latest registration of a name or of an extension wins.
-/

namespace Highlight

/-- The languages that are known by name and by extension. -/
structure Registry where
  highlighters : Std.TreeMap String Highlighter := {}
  /-- The name of the language for each extension in lower case. -/
  languageOf : Std.TreeMap String String := {}
  /-- The number of lines that each highlighter colors in one pass. -/
  maxLinesPerFrame : Nat := Highlighter.defaultMaxLines

/-- A language that is not in a registry. -/
structure UnknownLanguage where
  name : String
deriving Repr, DecidableEq

/-- The wording of the error. -/
def UnknownLanguage.message (error : UnknownLanguage) : String :=
  "unknown language: " ++ error.name

namespace Registry

/-- Registers a highlighter under a name and for extensions. -/
def addHighlighter (registry : Registry) (name : String) (extensions : List String)
    (highlighter : Highlighter) : Registry :=
  { registry with
    highlighters := registry.highlighters.insert name highlighter
    languageOf := extensions.foldl
      (fun languageOf extension => languageOf.insert (Unicode.lowerCaseText extension) name)
      registry.languageOf }

/-- Registers a language by its table; a table with a fault changes nothing. -/
def addLanguage (registry : Registry) (language : Language) : Except LanguageError Registry := do
  let patterns ← PatternHighlighter.ofLanguage language
  return registry.addHighlighter language.name language.extensions
    (patterns.highlighter.withMaxLines registry.maxLinesPerFrame)

/-- Registers a built-in language; C# has a tokenizer of its own. -/
def addBuiltin (registry : Registry) (language : Language) : Except LanguageError Registry :=
  if language.name = Builtin.csharp.name then
    .ok (registry.addHighlighter language.name language.extensions
      ((CSharp.highlighter language).withMaxLines registry.maxLinesPerFrame))
  else registry.addLanguage language

/-- The registry of the built-in languages. -/
def withMaxLines (maxLinesPerFrame : Nat) : Except LanguageError Registry :=
  Builtin.all.foldlM addBuiltin { maxLinesPerFrame }

/-- The name of the language of a file, by the extension in its path. -/
def detect? (registry : Registry) (path : String) : Option String :=
  (Path.extension? path).bind fun extension =>
    registry.languageOf[Unicode.lowerCaseText extension]?

/-- The highlighter of a language. -/
def get? (registry : Registry) (name : String) : Option Highlighter :=
  registry.highlighters[name]?

/-- The highlighter of a language that has to be there. -/
def require (registry : Registry) (name : String) : Except UnknownLanguage Highlighter :=
  match registry.get? name with
  | some highlighter => .ok highlighter
  | none => .error ⟨name⟩

/-- The names of all languages, in order. -/
def names (registry : Registry) : List String :=
  registry.highlighters.keys

end Registry

end Highlight
