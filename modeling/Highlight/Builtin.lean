import Highlight.Builtin.C
import Highlight.Builtin.CSharp
import Highlight.Builtin.Lua
import Highlight.Builtin.Python
import Highlight.Builtin.Sql

/-!
# The built-in languages
-/

namespace Highlight.Builtin

/-- Every built-in table, in the order of registration. -/
def all : List Language := [csharp, c, lua, python, sql]

end Highlight.Builtin
