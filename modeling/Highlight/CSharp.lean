import Highlight.CSharp.Tokens
import Highlight.Highlighter

/-!
# The highlighter for C#

A tokenizer made for C# does what a table of patterns cannot: verbatim strings over several lines,
and suffixes of numbers. Of a table it takes the words and whether letter case counts.
-/

namespace Highlight.CSharp

/-- What is shown about a known identifier. -/
def declaration : String := "Built-in type/function"

/-- The highlighter for C# with the words of a table. -/
def highlighter (language : Language) : Highlighter :=
  let words := Words.ofLanguage language declaration
  { autoIndentation := true
    maxLinesPerFrame := Highlighter.defaultMaxLines
    tooltip? := words.tooltip?
    tokens := tokens words }

end Highlight.CSharp
