import Highlight.Language

/-!
# The language table of Python
-/

namespace Highlight.Builtin

/-- The table of Python, which has no block comments. A string in triple quotes has to end on its
line. -/
def python : Language where
  name := "Python"
  extensions := ["py", "pyw", "pyi"]
  keywords := [
    "False", "None", "True", "and", "as", "assert", "async", "await", "break", "class",
    "continue", "def", "del", "elif", "else", "except", "finally", "for", "from", "global", "if",
    "import", "in", "is", "lambda", "nonlocal", "not", "or", "pass", "raise", "return", "try",
    "while", "with", "yield"]
  identifiers := [
    "abs", "all", "any", "bool", "bytes", "callable", "chr", "dict", "dir", "enumerate", "filter",
    "float", "format", "getattr", "hasattr", "int", "isinstance", "iter", "len", "list", "map",
    "max", "min", "next", "object", "open", "ord", "print", "range", "repr", "reversed", "round",
    "set", "sorted", "str", "sum", "super", "tuple", "type", "zip"]
  lineComment := "#"
  commentStart := ""
  commentEnd := ""
  rules := [
    ⟨"[fFrRbBuU]\x7b0,2\x7d\"\"\"(?:[^\"\\\\]|\\\\.|\"[^\"]|\"\"[^\"])*\"\"\"", .string⟩,
    ⟨"[fFrRbBuU]\x7b0,2\x7d\"(?:[^\"\\\\]|\\\\.)*\"", .string⟩,
    ⟨"[fFrRbBuU]\x7b0,2\x7d'(?:[^'\\\\]|\\\\.)*'", .string⟩,
    ⟨"0[xX][0-9a-fA-F_]+", .number⟩,
    ⟨"0[bB][01_]+", .number⟩,
    ⟨"0[oO][0-7_]+", .number⟩,
    ⟨"[0-9][0-9_]*\\.?[0-9_]*(?:[eE][+-]?[0-9]+)?j?", .number⟩,
    ⟨"[\\p\x7bL\x7d_][\\p\x7bL\x7d\\p\x7bN\x7d_]*", .identifier⟩,
    ⟨"[+\\-*/%&|^!<>=@~()\\[\\]\x7b\x7d:;,.]", .punctuation⟩]

end Highlight.Builtin
