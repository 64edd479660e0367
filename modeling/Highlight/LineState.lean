/-!
# Line states

What one line of a source text hands on to the next.
-/

namespace Highlight

/-- The state between two lines: outside of everything, inside a comment, or inside a verbatim
string. -/
inductive LineState where
  | normal
  | blockComment
  | verbatimString
deriving Repr, DecidableEq, Inhabited

end Highlight
