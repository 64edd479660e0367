import Highlight.Span

/-!
# Runs that follow one another

The runs of a line follow one another without gaps from its beginning to its end (`tiles_runs`), so
what they stand for, put together, is the line.
-/

namespace Highlight

/-- Whether spans follow one another without gaps from one place to another. -/
inductive Span.Tiles : (start : Nat) → List Span → (stop : Nat) → Prop where
  | nil {place : Nat} : Tiles place [] place
  | cons {span : Span} {spans : List Span} {stop : Nat} (hle : span.start ≤ span.stop)
    (rest : Tiles span.stop spans stop) : Tiles span.start (span :: spans) stop

namespace Line

/-- The run that is growing and those behind it reach to the end of the line. -/
theorem tiles_runsFrom (current : Span) (rest : Line) (hle : current.start ≤ current.stop) :
    Span.Tiles current.start (runsFrom current rest) (current.stop + rest.length) := by
  induction rest generalizing current with
  | nil => exact .cons hle .nil
  | cons glyph rest ih =>
    have hlength : current.stop + (glyph :: rest).length = current.stop + 1 + rest.length := by
      rw [List.length_cons]
      omega
    rw [runsFrom, hlength]
    by_cases hsame : glyph.category = current.category
    · rw [if_pos hsame]
      exact ih { current with stop := current.stop + 1 } (Nat.le_succ_of_le hle)
    · rw [if_neg hsame]
      exact .cons hle (ih ⟨current.stop, current.stop + 1, glyph.category⟩ (Nat.le_succ _))

/-- The runs of a line follow one another without gaps from its beginning to its end. -/
theorem tiles_runs (line : Line) : Span.Tiles 0 (runs line) line.length := by
  cases line with
  | nil => exact .nil
  | cons glyph rest =>
    rw [List.length_cons, Nat.add_comm]
    exact tiles_runsFrom ⟨0, 1, glyph.category⟩ rest (Nat.zero_le 1)

end Line

end Highlight
