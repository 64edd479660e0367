import Highlight.Proofs.Pattern.Bounds
import Highlight.Proofs.Pattern.Compile
import Highlight.Proofs.Regex.Anchor
import Highlight.Proofs.Regex.Enclosure

/-!
# Rules at the beginning of a text

A rule is compiled from its pattern in a group at the start of the text. For a pattern that is valid
by itself and can stand in a group (`FitsGroup`), the rule matches what the pattern matches at the
beginning of a text, and nothing further on. All other patterns are refused, but for those with a
closing parenthesis that has no opening one: by themselves they are invalid, and in the group they
may close it. `Rule.isAnchored` puts this together.
-/

namespace Highlight

open Regex

namespace Regex

/-! ## Patterns in the group -/

variable {pattern : List Char} {ignoreCase : Bool} {e : Expr} {program : Program}

/-- A pattern is read if it can be and is not too deep. -/
lemma read?_eq_some_iff :
    Expr.read? pattern = some e ↔
      readFrom (pattern.length + 1) {} pattern = some e ∧ e.depth ≤ maxDepth := by
  unfold Expr.read?
  cases readFrom (pattern.length + 1) {} pattern with
  | none => simp
  | some e' =>
    simp only [Option.bind_eq_bind, Option.bind_some, Option.some_inj]
    split
    · rename_i hdepth
      constructor
      · intro h
        cases h
        exact ⟨rfl, hdepth⟩
      · intro h
        rw [h.1]
        rfl
    · rename_i hdepth
      constructor
      · intro h
        cases h
      · intro h
        rw [h.1] at hdepth
        exact absurd h.2 hdepth

/-- A pattern has a program if it can be read, has a meaning and is not too long. -/
theorem ofPattern?_eq_some_iff :
    Program.ofPattern? pattern ignoreCase = some program ↔
      ∃ e r, Expr.read? pattern = some e ∧ e.regex? { ignoreCase } = some r ∧
        size r ≤ Program.maxSize ∧ program = Program.ofRegex r := by
  unfold Program.ofPattern?
  constructor
  · intro h
    obtain ⟨e, hread, h⟩ := Option.bind_eq_some_iff.1 h
    obtain ⟨r, hregex, h⟩ := Option.bind_eq_some_iff.1 h
    split at h
    · rename_i hsize
      cases h
      exact ⟨e, r, hread, hregex, hsize, rfl⟩
    · cases h
  · intro h
    obtain ⟨e, r, hread, hregex, hsize, rfl⟩ := h
    rw [hread, Option.bind_eq_bind, Option.bind_some, hregex, Option.bind_eq_bind, Option.bind_some,
      if_pos hsize]
    rfl

lemma depth_enclose (e : Expr) : (anchorGroup.enclose e).depth = e.depth + 2 := by
  rw [enclose_anchorGroup]
  show max 0 (e.depth + 1) + 1 = e.depth + 2
  omega

/-- The meaning of the enclosed expression is the meaning of the expression behind the start of the
text. -/
lemma regex?_enclose (e : Expr) (ignoreCase : Bool) :
    (anchorGroup.enclose e).regex? { ignoreCase } =
      (e.meaning? { ignoreCase }).map fun result =>
        (Regex.cat (.look .textStart) result.1.simplify).simplify := by
  rw [enclose_anchorGroup]
  show ((((e.meaning? { ignoreCase }).bind fun result => some (result.1.simplify, _)).bind
    fun result => some (Regex.cat _ result.1, result.2)).map _) = _
  cases e.meaning? { ignoreCase } with
  | none => rfl
  | some result => rfl

/-- The group adds an instruction, which does not matter for the empty expression. -/
theorem size_anchored_le_iff (r : Regex) :
    size (Regex.cat (.look .textStart) r.simplify).simplify ≤ Program.maxSize ↔
      size r.simplify + 1 ≤ Program.maxSize := by
  rcases simplify_anchored r with ⟨hempty, hanchored⟩ | hanchored
  · rw [hanchored, hempty]
    decide
  · rw [hanchored, size, size, Nat.add_comm]

/-- Whether a pattern is valid by itself, with its program, and can stand in a group: there is room
for the group and its instruction, and no comment of the pattern takes a parenthesis behind it. -/
structure FitsGroup (pattern : List Char) (ignoreCase : Bool) (program : Program) : Prop where
  valid : Program.ofPattern? pattern ignoreCase = some program
  shallow : ∀ e, Expr.read? pattern = some e → e.depth + 2 ≤ maxDepth
  short : program.code.size ≤ Program.maxSize
  closes : Expr.read? (pattern ++ [')']) = none

lemma size_ofRegex (r : Regex) : (Program.ofRegex r).code.size = size r + 1 := by
  simp [Program.ofRegex, length_code]

/-- A pattern that can be read closes no group that it does not open. -/
lemma not_hasUnopened_of_read? (h : Expr.read? pattern = some e) : ¬ HasUnopened pattern := by
  intro hunopened
  have hread := (read?_eq_some_iff.1 h).1
  rw [readFrom_of_comesToUnopened hunopened] at hread
  cases hread

/-- A pattern that fits has a program in the group, which finds what the pattern matches at the
beginning of a text. -/
theorem FitsGroup.exists_anchored (h : FitsGroup pattern ignoreCase program) :
    ∃ anchored, Program.ofPattern? (['^', '(', '?', ':'] ++ pattern ++ [')']) ignoreCase =
        some anchored ∧
      ∀ text, anchored.findEnd? text = program.matchLength? none text := by
  obtain ⟨e, s, hread, hregex, -, rfl⟩ := ofPattern?_eq_some_iff.1 h.valid
  obtain ⟨result, hmeaning, rfl⟩ := Option.map_eq_some_iff.1 hregex
  have hdepth := h.shallow e hread
  have hshort := h.short
  rw [size_ofRegex] at hshort
  have hread' := (read?_eq_some_iff.1 hread).1
  have hcloses := h.closes
  have hwithin : Expr.read? (['^', '(', '?', ':'] ++ pattern ++ [')']) =
      some (anchorGroup.enclose e) := by
    rw [read?_eq_some_iff, depth_enclose]
    refine ⟨?_, hdepth⟩
    have hencloses := encloses_read pattern (not_hasUnopened_of_read? hread)
    rw [hread'] at hencloses
    generalize readFrom _ {} (['^', '(', '?', ':'] ++ pattern ++ [')']) = within at hencloses ⊢
    generalize hbehind : readFrom _ {} (pattern ++ [')']) = behind at hencloses
    cases hencloses with
    | closed => rfl
    | lost =>
      -- then the pattern could be read with the parenthesis behind it
      have hlost := read?_eq_some_iff.2 ⟨hbehind, (read?_eq_some_iff.1 hread).2⟩
      rw [hcloses] at hlost
      cases hlost
  refine ⟨_, ofPattern?_eq_some_iff.2 ⟨_, _, hwithin, ?_, (size_anchored_le_iff result.1).2 hshort,
    rfl⟩, Program.findEnd?_anchored result.1⟩
  rw [regex?_enclose, hmeaning]
  rfl

/-- A pattern that has a program in the group fits, unless a parenthesis of the pattern closes the
group. -/
theorem exists_fitsGroup {anchored : Program} (hno : ¬ HasUnopened pattern)
    (h : Program.ofPattern? (['^', '(', '?', ':'] ++ pattern ++ [')']) ignoreCase =
      some anchored) : ∃ program, FitsGroup pattern ignoreCase program := by
  obtain ⟨e', s, hread, hregex, hsize, rfl⟩ := ofPattern?_eq_some_iff.1 h
  obtain ⟨hread, hdepth⟩ := read?_eq_some_iff.1 hread
  have hencloses := encloses_read pattern hno
  rw [hread] at hencloses
  generalize hown : readFrom _ {} pattern = own at hencloses
  generalize hbehind : readFrom _ {} (pattern ++ [')']) = behind at hencloses
  -- the enclosed pattern was read, so the pattern and its closed form are read too
  cases hencloses with
  | closed e =>
    rw [regex?_enclose] at hregex
    obtain ⟨result, hmeaning, rfl⟩ := Option.map_eq_some_iff.1 hregex
    rw [depth_enclose] at hdepth
    rw [size_anchored_le_iff] at hsize
    have hown' : Expr.read? pattern = some e := read?_eq_some_iff.2 ⟨hown, by omega⟩
    have hregex' : e.regex? { ignoreCase } = some result.1.simplify := by
      rw [Expr.regex?, hmeaning]
      rfl
    refine ⟨Program.ofRegex result.1.simplify, ?_, ?_, ?_, ?_⟩
    · exact ofPattern?_eq_some_iff.2 ⟨e, _, hown', hregex', by omega, rfl⟩
    · intro e' he'
      rw [hown'] at he'
      cases he'
      exact hdepth
    · rw [size_ofRegex]
      exact hsize
    · unfold Expr.read?
      rw [hbehind]
      rfl

/-! ## Matches and the text that is left -/

/-- A match is no longer than the text. -/
lemma Program.run_le {text : List Char} {places : List Nat} {taken : Nat} {best : Option Nat}
    {n : Nat} (hbest : ∀ m, best = some m → m ≤ taken)
    (h : program.run text places taken best = some n) : n ≤ taken + text.length := by
  induction text generalizing places taken best with
  | nil =>
    rw [Program.run] at h
    split at h
    · cases h
      exact Nat.le_refl _
    · exact hbest n h
  | cons c rest ih =>
    rw [Program.run] at h
    simp only at h
    -- the best match so far ends at or before what has been taken
    have hbest' : ∀ m, (if (program.untilAccept places).2 = true then some taken else best) =
        some m → m ≤ taken := by
      intro m hm
      split at hm
      · cases hm
        exact Nat.le_refl _
      · exact hbest m hm
    split at h
    · exact Nat.le_add_right_of_le (hbest' n h)
    · have hle := ih (fun m hm => Nat.le_succ_of_le (hbest' m hm)) h
      rw [List.length_cons]
      omega

/-- A match goes no further than the text. -/
theorem Program.matchLength?_le {before : Option Char} {text : List Char} {n : Nat}
    (h : program.matchLength? before text = some n) : n ≤ text.length := by
  have hle := Program.run_le (fun m hm => by cases hm) h
  omega

end Regex

/-! ## Rules -/

/-- The rule that is found is one of the rules and matches. -/
theorem PatternHighlighter.matchBytes?_of_matchRules? {rules : List CompiledRule}
    {text : List Char} {compiled : CompiledRule} {bytes : Nat}
    (h : matchRules? rules text = some (compiled, bytes)) :
    compiled ∈ rules ∧ compiled.matchBytes? text = some bytes := by
  obtain ⟨candidate, hmem, hmatch⟩ := List.exists_of_findSome?_eq_some h
  cases hbytes : candidate.matchBytes? text with
  | none =>
    rw [hbytes] at hmatch
    cases hmatch
  | some n =>
    rw [hbytes] at hmatch
    simp only at hmatch
    split at hmatch
    · cases hmatch
      exact ⟨hmem, hbytes⟩
    · cases hmatch

namespace Rule

/-- Whether a rule matches what its pattern matches at the beginning of a text, as far as the
pattern has no closing parenthesis without its opening one. -/
structure IsAnchored (rule : Rule) (language : String) (caseSensitive : Bool) : Prop where
  /-- A pattern with such a parenthesis is invalid by itself. -/
  invalid : HasUnopened rule.pattern.toList →
    Program.ofPattern? rule.pattern.toList (!caseSensitive) = none
  /-- A rule with any other pattern compiles exactly if the pattern is valid by itself and can stand
  in a group. -/
  compiles : ¬ HasUnopened rule.pattern.toList →
    ((∃ compiled, rule.compile language caseSensitive = .ok compiled) ↔
      ∃ program, FitsGroup rule.pattern.toList (!caseSensitive) program)
  /-- The rule matches as far as the preferred match of the pattern at the beginning of the text,
  and not at all where the pattern has no match there. -/
  finds : ∀ program, FitsGroup rule.pattern.toList (!caseSensitive) program →
    ∀ compiled, rule.compile language caseSensitive = .ok compiled →
      compiled.category = rule.category ∧
      ∀ text, compiled.matchBytes? text =
        (program.matchLength? none text).map fun n => utf8Length (text.take n)
  /-- Where the rule is the first of a table to match some text, it paints what the pattern matches
  there. -/
  paints : ∀ program, FitsGroup rule.pattern.toList (!caseSensitive) program →
    ∀ compiled, rule.compile language caseSensitive = .ok compiled →
      ∀ rules text bytes, PatternHighlighter.matchRules? rules text = some (compiled, bytes) →
        program.matchLength? none text = some (glyphsWithin bytes text)

variable {rule : Rule} {language : String} {caseSensitive : Bool} {compiled : CompiledRule}
  {program : Program}

/-- The rule of a pattern that fits matches what the pattern matches at the beginning of a text. -/
theorem matchBytes?_of_fitsGroup (hpattern : rule.pattern ≠ "")
    (hfits : FitsGroup rule.pattern.toList (!caseSensitive) program)
    (h : rule.compile language caseSensitive = .ok compiled) (text : List Char) :
    compiled.matchBytes? text =
      (program.matchLength? none text).map fun n => utf8Length (text.take n) := by
  obtain ⟨anchored, hanchored, rfl⟩ := (compile_eq_ok_iff hpattern).1 h
  obtain ⟨anchored', hanchored', hfind⟩ := hfits.exists_anchored
  obtain rfl : anchored = anchored' := Option.some.inj (hanchored.symm.trans hanchored')
  rw [CompiledRule.matchBytes?, hfind]

/-- Every rule with a pattern is anchored. -/
theorem isAnchored (rule : Rule) (language : String) (caseSensitive : Bool)
    (hpattern : rule.pattern ≠ "") : IsAnchored rule language caseSensitive where
  invalid hunopened := by
    rw [Option.eq_none_iff_forall_ne_some]
    intro program hprogram
    obtain ⟨e, r, hread, -⟩ := ofPattern?_eq_some_iff.1 hprogram
    exact not_hasUnopened_of_read? hread hunopened
  compiles hno := by
    constructor
    · intro h
      obtain ⟨compiled, h⟩ := h
      obtain ⟨anchored, hanchored, -⟩ := (compile_eq_ok_iff hpattern).1 h
      exact exists_fitsGroup hno hanchored
    · intro h
      obtain ⟨program, hfits⟩ := h
      obtain ⟨anchored, hanchored, -⟩ := hfits.exists_anchored
      exact ⟨_, (compile_eq_ok_iff hpattern).2 ⟨anchored, hanchored, rfl⟩⟩
  finds program hfits compiled h := by
    refine ⟨?_, matchBytes?_of_fitsGroup hpattern hfits h⟩
    obtain ⟨anchored, -, rfl⟩ := (compile_eq_ok_iff hpattern).1 h
    rfl
  paints program hfits compiled h rules text bytes hmatch := by
    have hbytes := (PatternHighlighter.matchBytes?_of_matchRules? hmatch).2
    rw [matchBytes?_of_fitsGroup hpattern hfits h] at hbytes
    obtain ⟨n, hn, rfl⟩ := Option.map_eq_some_iff.1 hbytes
    rw [hn, glyphsWithin_utf8Length text n (Program.matchLength?_le hn)]

/-- The rule of an alternation matches at the beginning of a text alone, with either branch. -/
theorem isAnchored_alternation : ("a|b+" : String) ≠ "" ∧
    ∃ compiled, compile { pattern := "a|b+", category := .number } "T" true = .ok compiled ∧
      compiled.matchBytes? ['b', 'b', 'c'] = some 2 ∧ compiled.matchBytes? ['c', 'b'] = none := by
  have hpattern : ("a|b+" : String) ≠ "" := by decide
  obtain ⟨program, hprogram⟩ : ∃ program, Program.ofPattern? ['a', '|', 'b', '+'] false =
      some program := Option.isSome_iff_exists.1 (by decide +kernel)
  have hfits : FitsGroup ['a', '|', 'b', '+'] false program := by
    refine ⟨hprogram, fun e he => ?_, ?_, by decide +kernel⟩
    · have hall : (Expr.read? ['a', '|', 'b', '+']).all (·.depth + 2 ≤ maxDepth) = true := by
        decide +kernel
      rw [he] at hall
      exact of_decide_eq_true hall
    · have hall : (Program.ofPattern? ['a', '|', 'b', '+'] false).all
          (·.code.size ≤ Program.maxSize) = true := by
        decide +kernel
      rw [hprogram] at hall
      exact of_decide_eq_true hall
  -- what the program finds is read off the pattern, for the program itself is too large a term
  have hfound : ∀ text n, (Program.ofPattern? ['a', '|', 'b', '+'] false).map
      (·.matchLength? none text) = some n → program.matchLength? none text = n := by
    intro text n h
    rw [hprogram] at h
    exact Option.some.inj h
  have h := isAnchored { pattern := "a|b+", category := .number } "T" true hpattern
  obtain ⟨e, -, hread, -⟩ := ofPattern?_eq_some_iff.1 hprogram
  obtain ⟨compiled, hcompiled⟩ :=
    (h.compiles (not_hasUnopened_of_read? hread)).2 ⟨program, hfits⟩
  refine ⟨hpattern, compiled, hcompiled, ?_, ?_⟩
  · rw [(h.finds program hfits compiled hcompiled).2, hfound _ (some 2) (by decide +kernel)]
    rfl
  · rw [(h.finds program hfits compiled hcompiled).2, hfound _ none (by decide +kernel)]
    rfl

/-- A parenthesis of the pattern closes the group: the rule compiles, though the pattern is invalid
by itself, and its second branch matches further on in the text. -/
theorem compile_unopened :
    (∃ compiled, compile { pattern := "a)|(?:b", category := .number } "T" true = .ok compiled ∧
      compiled.matchBytes? ['x', 'b'] = some 2) ∧
    Program.ofPattern? ['a', ')', '|', '(', '?', ':', 'b'] false = none := by
  refine ⟨?_, Option.isNone_iff_eq_none.1 (by decide +kernel)⟩
  have hpattern : ("a)|(?:b" : String) ≠ "" := by decide
  have hend : ((Program.ofPattern? (anchoredPattern { pattern := "a)|(?:b", category := .number })
      false).bind (·.findEnd? ['x', 'b'])) = some 2 := by
    decide +kernel
  obtain ⟨anchored, hanchored, hend⟩ := Option.bind_eq_some_iff.1 hend
  refine ⟨_, (compile_eq_ok_iff hpattern).2 ⟨anchored, hanchored, rfl⟩, ?_⟩
  rw [CompiledRule.matchBytes?, hend]
  rfl

end Rule

end Highlight
