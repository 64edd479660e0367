import Highlight.Language

/-!
# The language table of SQL
-/

namespace Highlight.Builtin

/-- The table of SQL, where letter case does not count. -/
def sql : Language where
  name := "SQL"
  extensions := ["sql"]
  keywords := [
    "ADD", "ALL", "ALTER", "AND", "AS", "ASC", "BETWEEN", "BY", "CASE", "CHECK", "COLUMN",
    "CONSTRAINT", "CREATE", "DATABASE", "DEFAULT", "DELETE", "DESC", "DISTINCT", "DROP", "ELSE",
    "END", "EXISTS", "FOREIGN", "FROM", "FULL", "GROUP", "HAVING", "IN", "INDEX", "INNER",
    "INSERT", "INTO", "IS", "JOIN", "KEY", "LEFT", "LIKE", "LIMIT", "NOT", "NULL", "ON", "OR",
    "ORDER", "OUTER", "PRIMARY", "REFERENCES", "RIGHT", "SELECT", "SET", "TABLE", "THEN", "TOP",
    "TRUNCATE", "UNION", "UNIQUE", "UPDATE", "VALUES", "VIEW", "WHEN", "WHERE"]
  identifiers := [
    "AVG", "CAST", "COALESCE", "CONVERT", "COUNT", "GETDATE", "ISNULL", "LEN", "LOWER", "MAX",
    "MIN", "NULLIF", "ROUND", "SUBSTRING", "SUM", "UPPER"]
  lineComment := "--"
  commentStart := "/*"
  commentEnd := "*/"
  caseSensitive := false
  autoIndentation := false
  rules := [
    ⟨"'(?:[^']|'')*'", .string⟩,
    ⟨"\"(?:[^\"]|\"\")*\"", .string⟩,
    ⟨"[0-9]+\\.?[0-9]*(?:e[+-]?[0-9]+)?", .number⟩,
    ⟨"[@#]?[a-z_][a-z0-9_]*", .identifier⟩,
    ⟨"[\\[\\]\x7b\x7d()\\-+*/%<>=!;,.]", .punctuation⟩]

end Highlight.Builtin
