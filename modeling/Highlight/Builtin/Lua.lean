import Highlight.Language

/-!
# The language table of Lua
-/

namespace Highlight.Builtin

/-- The table of Lua. A block comment begins like a line comment and is tried first. -/
def lua : Language where
  name := "Lua"
  extensions := ["lua"]
  keywords := [
    "and", "break", "do", "else", "elseif", "end", "false", "for", "function", "goto", "if", "in",
    "local", "nil", "not", "or", "repeat", "return", "then", "true", "until", "while"]
  identifiers := [
    "assert", "collectgarbage", "dofile", "error", "getmetatable", "ipairs", "load", "loadfile",
    "next", "pairs", "pcall", "print", "rawequal", "rawget", "rawlen", "rawset", "require",
    "select", "setmetatable", "tonumber", "tostring", "type", "xpcall", "coroutine", "io", "math",
    "os", "string", "table", "utf8"]
  lineComment := "--"
  commentStart := "--[["
  commentEnd := "]]"
  rules := [
    ⟨"\"(?:[^\"\\\\]|\\\\.)*\"", .string⟩,
    ⟨"'(?:[^'\\\\]|\\\\.)*'", .string⟩,
    ⟨"\\[\\[.*?\\]\\]", .string⟩,
    ⟨"0[xX][0-9a-fA-F]+", .number⟩,
    ⟨"[0-9]+\\.?[0-9]*(?:[eE][+-]?[0-9]+)?", .number⟩,
    ⟨"[a-zA-Z_][a-zA-Z0-9_]*", .identifier⟩,
    ⟨"[\\[\\]\x7b\x7d()\\-+*/%^#=~<>;:,.]", .punctuation⟩]

end Highlight.Builtin
