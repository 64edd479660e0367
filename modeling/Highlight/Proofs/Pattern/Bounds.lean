import Highlight.PatternHighlighter
import Highlight.Proofs.Tokens
import Mathlib.Tactic.Lemma

/-!
# Lengths of tokens under a table

The match of a rule ends between two characters of the text, so the glyphs it paints are counted
without loss. `step_within` is the bound for a step of the tokenizer, whatever the table is, and
`cuts_tokens` says that the tokens of a line cut it.
-/

namespace Highlight

variable {text : List Char} {n : Nat}

/-- As many bytes as some characters at the beginning of a text have hold these characters, or the
whole text where there are fewer. -/
theorem glyphsWithin_take (text : List Char) (n : Nat) :
    glyphsWithin (utf8Length (text.take n)) text = min n text.length := by
  by_cases hn : n ≤ text.length
  · rw [glyphsWithin_utf8Length text n hn, Nat.min_eq_left hn]
  · have hall := glyphsWithin_utf8Length text text.length (Nat.le_refl _)
    rw [List.take_length] at hall
    rw [List.take_of_length_le (by omega), hall, Nat.min_eq_right (by omega)]

namespace PatternHighlighter

/-- The token of a rule takes at least one character, for a rule with an empty match does not count,
and at most what is left. -/
theorem matchRules?_within {rules : List CompiledRule} {rule : CompiledRule} {bytes : Nat}
    (h : matchRules? rules text = some (rule, bytes)) : Within (glyphsWithin bytes text) text := by
  obtain ⟨candidate, -, hmatch⟩ := List.exists_of_findSome?_eq_some h
  cases hbytes : candidate.matchBytes? text with
  | none =>
    rw [hbytes] at hmatch
    cases hmatch
  | some m =>
    rw [hbytes] at hmatch
    simp only at hmatch
    split at hmatch
    · rename_i hpos
      cases hmatch
      -- the bytes are those of `k` whole characters
      obtain ⟨k, -, rfl⟩ := Option.map_eq_some_iff.1 hbytes
      rw [glyphsWithin_take]
      have hne : text.take k ≠ [] := by
        intro hnil
        rw [hnil] at hpos
        exact absurd hpos (Nat.lt_irrefl 0)
      have hlen := List.length_pos_iff.2 hne
      rw [List.length_take] at hlen
      exact ⟨hlen, Nat.min_le_right _ _⟩
    · cases hmatch

variable (h : PatternHighlighter)

lemma ruleStep?_within {category : Category}
    (hstep : h.ruleStep? text = some (.token n category)) : Within n text := by
  obtain ⟨⟨rule, bytes⟩, hmatch, htoken⟩ := Option.map_eq_some_iff.1 hstep
  cases htoken
  exact matchRules?_within hmatch

lemma commentStep_within {language : Language} {opening : Nat} {category : Category}
    (hstep : commentStep language opening text = .token n category) : Within n text := by
  unfold commentStep at hstep
  split at hstep
  · rename_i m hm
    cases hstep
    exact Within.add_of_drop ⟨Marker.endOf?_pos hm, Marker.endOf?_le hm⟩
  · cases hstep

/-- A step that does not end the line takes at least one character and at most what is left. -/
theorem step_within {seenCode : Bool} {c : Char} {rest : List Char} {category : Category}
    (hstep : h.step seenCode c rest = .token n category) : Within n (c :: rest) := by
  -- what nothing takes is taken alone
  have hone : Within 1 (c :: rest) := Within.one (List.cons_ne_nil c rest)
  unfold step at hstep
  simp only at hstep
  split at hstep
  · cases hstep
    exact hone
  · split at hstep
    · exact commentStep_within hstep
    · split at hstep
      · cases hstep
      · split at hstep
        · cases hstep
        · cases hrule : h.ruleStep? (c :: rest) with
          | none =>
            rw [hrule] at hstep
            cases hstep
            exact hone
          | some found =>
            rw [hrule] at hstep
            rw [Option.getD_some] at hstep
            exact ruleStep?_within h (hstep ▸ hrule)

/-- The tokens of a text cut it from its beginning to its end. -/
lemma cuts_tokensFrom (seenCode : Bool) (text : List Char) :
    Token.Cuts (h.tokensFrom seenCode text).1 text.length := by
  fun_induction tokensFrom h seenCode text with
  | case1 seenCode => exact Token.Cuts.nil
  | case2 seenCode c rest category next hstep =>
    have hall : Token.Cuts [⟨(c :: rest).length, category⟩] (c :: rest).length :=
      Token.Cuts.single (List.cons_ne_nil c rest)
    exact hall
  | case3 seenCode c rest length category hstep others last hrest ih =>
    have hlength := step_within h hstep
    refine Token.Cuts.cons hlength ?_
    rw [hrest, List.length_drop] at ih
    have hpos := hlength.1
    rwa [List.length_cons, show rest.length + 1 - length = rest.length - (length - 1) by omega]

/-- The tokens of a line that is not empty cut it. -/
theorem cuts_tokens (state : LineState) (hne : text ≠ []) :
    Token.Cuts (h.tokens state text).1 text.length := by
  unfold tokens
  split
  · split
    · rename_i m hm
      refine Token.Cuts.cons ⟨Marker.endOf?_pos hm, Marker.endOf?_le hm⟩ ?_
      have hrest := cuts_tokensFrom h true (text.drop m)
      rwa [List.length_drop] at hrest
    · exact Token.Cuts.single hne
  · exact cuts_tokensFrom h false text

/-- The tokens of every line cover it; an empty line in a comment has one token of no length. -/
theorem total_tokens (state : LineState) (text : List Char) :
    Token.total (h.tokens state text).1 = text.length := by
  by_cases hne : text = []
  · subst hne
    unfold tokens
    split
    · rfl
    · rw [tokensFrom]
      rfl
  · exact (cuts_tokens h state hne).1

end PatternHighlighter

end Highlight
