import Highlight.Highlighter

/-!
# Buffers of lines

A buffer is a list of colored lines. `Buffer.pass` colors all of it in one go, each line with the
state that the line before hands on; the colors that a host sees are measured against it.
-/

namespace Highlight

/-- The lines of a text. -/
abbrev Buffer := List Line

/-- One change that a host makes to the lines of a buffer. New lines come without colors. -/
inductive Edit where
  | change (line : Nat) (text : String)
  | insert (line : Nat) (text : String)
  | remove (line : Nat)
  | clear
deriving Repr, DecidableEq

namespace Buffer

/-- The buffer after an edit. -/
def edit (buffer : Buffer) : Edit → Buffer
  | .change line text => buffer.set line (Line.ofText text)
  | .insert line text => buffer.insertIdx line (Line.ofText text)
  | .remove line => buffer.eraseIdx line
  | .clear => []

/-- The lines colored from `state` on, each with the state it hands on. -/
def passFrom (h : Highlighter) (state : LineState) : Buffer → List (Line × LineState)
  | [] => []
  | line :: rest =>
    let colored := h.colorize line state
    colored :: passFrom h colored.2 rest

/-- All lines colored in one pass, each with the state it hands on. -/
def pass (h : Highlighter) (buffer : Buffer) : List (Line × LineState) :=
  passFrom h .normal buffer

end Buffer

end Highlight
