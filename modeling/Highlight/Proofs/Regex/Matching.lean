import Highlight.Regex.Basic

/-!
# What a regular expression matches

`Matches` says which texts an expression matches between its neighbours, whatever it prefers. A
search that prefers one match to another has no choice where there is only one.
-/

namespace Highlight.Regex

/-- The character that stands in front of what follows `taken`. -/
def lastOf (before : Option Char) (taken : List Char) : Option Char :=
  taken.getLast?.or before

/-- Whether an expression matches the text `taken` when `before` stands in front of it and `after`
behind it. -/
inductive Matches : Regex → (before : Option Char) → (taken after : List Char) → Prop where
  | empty {before : Option Char} {after : List Char} : Matches .empty before [] after
  | text {before : Option Char} {c : Char} {rest after : List Char} :
    Matches (.text c rest) before (c :: rest) after
  | set {before : Option Char} {unicode : Bool} {s : CharClass} {c : Char} {after : List Char}
    (h : s.contains c = true) : Matches (.set unicode s) before [c] after
  | look {before : Option Char} {l : Look} {after : List Char}
    (h : l.holds before after.head? = true) : Matches (.look l) before [] after
  | cat {a b : Regex} {before : Option Char} {first second after : List Char}
    (hfirst : Matches a before first (second ++ after))
    (hsecond : Matches b (lastOf before first) second after) :
    Matches (.cat a b) before (first ++ second) after
  | altFirst {a b : Regex} {before : Option Char} {taken after : List Char}
    (h : Matches a before taken after) : Matches (.alt a b) before taken after
  | altSecond {a b : Regex} {before : Option Char} {taken after : List Char}
    (h : Matches b before taken after) : Matches (.alt a b) before taken after
  /-- No turn more has to be taken. -/
  | noTurn {a : Regex} {max : Option Nat} {greedy : Bool} {before : Option Char}
    {after : List Char} : Matches (.rep a 0 max greedy) before [] after
  /-- One turn, and then others. -/
  | turn {a : Regex} {min : Nat} {max : Option Nat} {greedy : Bool} {before : Option Char}
    {first others after : List Char} (hmax : max ≠ some 0)
    (hfirst : Matches a before first (others ++ after))
    (hothers : Matches (.rep a (min - 1) (max.map (· - 1)) greedy) (lastOf before first) others
      after) : Matches (.rep a min max greedy) before (first ++ others) after
  | counted {number : Nat} {a : Regex} {before : Option Char} {taken after : List Char}
    (h : Matches a before taken after) : Matches (.counted number a) before taken after

variable {a b : Regex} {before : Option Char} {taken after : List Char}

theorem matches_text_iff {c : Char} {rest : List Char} :
    Matches (.text c rest) before taken after ↔ taken = c :: rest := by
  constructor
  · rintro ⟨⟩
    rfl
  · rintro rfl
    exact .text

theorem matches_set_iff {unicode : Bool} {s : CharClass} :
    Matches (.set unicode s) before taken after ↔ ∃ c, s.contains c = true ∧ taken = [c] := by
  constructor
  · rintro ⟨⟩
    exact ⟨_, ‹_›, rfl⟩
  · rintro ⟨c, hc, rfl⟩
    exact .set hc

/-- A look takes nothing and sees both neighbours. -/
theorem matches_look_iff {l : Look} :
    Matches (.look l) before taken after ↔ l.holds before after.head? = true ∧ taken = [] := by
  constructor
  · rintro ⟨⟩
    exact ⟨‹_›, rfl⟩
  · rintro ⟨h, rfl⟩
    exact .look h

/-- Of two expressions in a row the first has the second before it as what follows. -/
theorem matches_cat_iff : Matches (.cat a b) before taken after ↔ ∃ first second,
    taken = first ++ second ∧ Matches a before first (second ++ after) ∧
      Matches b (lastOf before first) second after := by
  constructor
  · rintro ⟨⟩
    exact ⟨_, _, rfl, ‹_›, ‹_›⟩
  · rintro ⟨first, second, rfl, hfirst, hsecond⟩
    exact .cat hfirst hsecond

/-- An alternative matches what one of its two sides does. -/
theorem matches_alt_iff : Matches (.alt a b) before taken after ↔
    Matches a before taken after ∨ Matches b before taken after := by
  constructor
  · rintro (⟨⟩ | ⟨⟩)
    · exact .inl ‹_›
    · exact .inr ‹_›
  · rintro (h | h)
    · exact .altFirst h
    · exact .altSecond h

/-- An expression that may be left out is left out, or it is there. -/
theorem matches_optional_iff {greedy : Bool} :
    Matches (.rep a 0 (some 1) greedy) before taken after ↔
      taken = [] ∨ Matches a before taken after := by
  constructor
  · intro h
    cases h with
    | noTurn => exact .inl rfl
    | turn hmax hfirst hothers =>
      cases hothers with
      | noTurn =>
        rw [List.append_nil]
        exact .inr hfirst
      | turn hmax' => exact absurd rfl hmax'
  · rintro (rfl | h)
    · exact .noTurn
    · rw [← List.append_nil taken]
      exact .turn (by decide) h .noTurn

/-- A text that is put together from turns. -/
inductive Turns (Turn : List Char → Prop) : List Char → Prop where
  | none : Turns Turn []
  | more {first others : List Char} (hfirst : Turn first) (hothers : Turns Turn others) :
    Turns Turn (first ++ others)

/-- An expression that can be taken any number of times matches what is put together from the texts
that one turn matches, provided that the neighbours have no part in these. -/
theorem matches_star_iff {Turn : List Char → Prop} {greedy : Bool}
    (hturn : ∀ before taken after, Matches a before taken after ↔ Turn taken) :
    Matches (.rep a 0 none greedy) before taken after ↔ Turns Turn taken := by
  constructor
  · intro h
    generalize hstar : Regex.rep a 0 none greedy = star at h
    induction h with
    | noTurn => exact .none
    | turn hmax hfirst hothers ihfirst ihothers =>
      cases hstar
      exact .more ((hturn _ _ _).1 hfirst) (ihothers rfl)
    | _ => cases hstar
  · intro h
    induction h generalizing before with
    | none => exact .noTurn
    | more hfirst hothers ih => exact .turn nofun ((hturn _ _ _).2 hfirst) ih

end Highlight.Regex
