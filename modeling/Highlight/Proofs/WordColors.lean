import Highlight.Proofs.CSharp.Identifier
import Highlight.Proofs.Pattern.Compile
import Highlight.Proofs.Places
import Highlight.Proofs.Words

/-!
# The colors of words

A word in a line is an identifier of C#, or what a rule for identifiers has matched. Both tokenizers
look it up as the table has it, so its color and its tooltip are those that the two lists of the
table ask for (`colorsWords`). Under C# it is always a whole identifier that is looked up.
-/

namespace Highlight

namespace CSharp

/-- Whether the words of C# have the colors and the tooltips of a table. -/
structure ColorsWords (language : Language) : Prop where
  /-- An identifier that the tokenizer comes to is painted as the table classifies it. -/
  colored : ∀ {state text rest n},
    Visits (wordsOf language) state text .normal rest → BeginsWithIdentifier rest n →
    ∃ category,
      (highlighter language).PaintsAt state text (text.length - rest.length) n category ∧
      language.Classifies (rest.take n) category
        ((highlighter language).tooltip? (String.ofList (rest.take n)))
  /-- A glyph in a category of words belongs to such an identifier, which no character behind it
  could continue. -/
  whole : ∀ {state text i glyph} {line : Line}, Line.text line = text →
    ((highlighter language).colorize line state).1[i]? = some glyph →
    isWordCategory glyph.category = true →
    ∃ place n, place ≤ i ∧ i < place + n ∧
      Visits (wordsOf language) state text .normal (text.drop place) ∧
      BeginsWithIdentifier (text.drop place) n

/-- An identifier that the tokenizer comes to is painted in the category of its word. -/
theorem paintsAt_of_beginsWithIdentifier (language : Language) {state : LineState}
    {text rest : List Char} {n : Nat} (hv : Visits (wordsOf language) state text .normal rest)
    (hword : BeginsWithIdentifier rest n) :
    (highlighter language).PaintsAt state text (text.length - rest.length) n
      ((wordsOf language).categoryOf (rest.take n)) := by
  have hne : rest ≠ [] := by
    obtain ⟨-, ⟨c, run, hform, -⟩, -⟩ := hword
    rintro rfl
    rcases hform with hform | hform <;> simp at hform
  have hscan := scan_of_identifier? (wordsOf language) ((identifier?_eq_some_iff rest n).2 hword)
  have hpaints := paintsAt_of_visits hv hne
  rwa [hscan] at hpaints

/-- What is painted in a category of words is part of an identifier that the tokenizer has come
to. -/
theorem exists_identifier_of_isWordCategory (language : Language) {state : LineState}
    {text : List Char} {i : Nat} {glyph : Glyph} {line : Line} (htext : Line.text line = text)
    (hglyph : ((highlighter language).colorize line state).1[i]? = some glyph)
    (hcategory : isWordCategory glyph.category = true) :
    ∃ place n, place ≤ i ∧ i < place + n ∧
      Visits (wordsOf language) state text .normal (text.drop place) ∧
      BeginsWithIdentifier (text.drop place) n := by
  have hi : i < text.length := by
    have hlt := (List.getElem?_eq_some_iff.1 hglyph).1
    have hkept := congrArg List.length ((highlighter language).text_colorize line state)
    rw [Line.text, List.length_map, htext] at hkept
    omega
  -- the step that takes the glyph has painted it
  have hstart : Visits (wordsOf language) state text state text := .start
  obtain ⟨now, rest, hv, hne, hle, hlt⟩ := exists_visits_of_le hstart (by omega) hi
  have hpainted := (paintsAt_of_visits hv hne).category_eq htext hle hlt hglyph
  rw [hpainted] at hcategory
  obtain ⟨rfl, hidentifier⟩ := identifier?_of_scan hcategory
  obtain ⟨-, hdrop⟩ := drop_of_visits hv
  refine ⟨text.length - rest.length, _, hle, hlt, ?_, ?_⟩
  · rw [hdrop]
    exact hv
  · rw [hdrop]
    exact (identifier?_eq_some_iff _ _).1 hidentifier

end CSharp

namespace CompiledRule

/-- Whether the match of a rule are the first `n` characters of a text. -/
def Takes (rule : CompiledRule) (text : List Char) (n : Nat) : Prop :=
  n ≤ text.length ∧ rule.matchBytes? text = some (utf8Length (text.take n))

/-- Whether a rule is the first of some rules whose match in a text is not empty, and its match are
the first `n` characters. -/
def Wins (rules : List CompiledRule) (text : List Char) (rule : CompiledRule) (n : Nat) : Prop :=
  0 < n ∧ rule.Takes text n ∧ ∃ earlier later, rules = earlier ++ rule :: later ∧
    ∀ other ∈ earlier, ∀ m, other.Takes text m → m = 0

lemma utf8Length_take_pos {text : List Char} {n : Nat} (hle : n ≤ text.length) :
    0 < utf8Length (text.take n) ↔ 0 < n := by
  have hglyphs := glyphsWithin_utf8Length text n hle
  constructor
  · intro hpos
    rcases Nat.eq_zero_or_pos n with rfl | hn
    · exact absurd hpos (Nat.lt_irrefl 0)
    · exact hn
  · intro hn
    rcases Nat.eq_zero_or_pos (utf8Length (text.take n)) with hzero | hpos
    · cases text with
      | nil => exact absurd hle (Nat.not_le_of_lt hn)
      | cons c rest =>
        have hsize := Char.utf8Size_pos c
        rw [hzero, glyphsWithin, if_neg (by omega)] at hglyphs
        omega
    · exact hpos

/-- The match of a rule are some characters at the beginning of a text. -/
theorem exists_takes {rule : CompiledRule} {text : List Char} {bytes : Nat}
    (h : rule.matchBytes? text = some bytes) :
    ∃ n, rule.Takes text n ∧ bytes = utf8Length (text.take n) := by
  obtain ⟨k, -, rfl⟩ := Option.map_eq_some_iff.1 h
  have htake : text.take (min k text.length) = text.take k := by
    rw [List.take_eq_take_iff]
    omega
  refine ⟨min k text.length, ⟨Nat.min_le_right _ _, ?_⟩, ?_⟩
  · rw [h, htake]
  · rw [htake]

end CompiledRule

namespace PatternHighlighter

/-- The rule that counts is the one that wins. -/
theorem matchRules?_of_wins {rules : List CompiledRule} {text : List Char} {rule : CompiledRule}
    {n : Nat} (h : CompiledRule.Wins rules text rule n) :
    matchRules? rules text = some (rule, utf8Length (text.take n)) := by
  obtain ⟨hpos, ⟨hle, hmatch⟩, earlier, later, hrules, hearlier⟩ := h
  refine List.findSome?_eq_some_iff.2 ⟨earlier, rule, later, hrules, ?_, ?_⟩
  · simp only [hmatch]
    rw [if_pos ((CompiledRule.utf8Length_take_pos hle).2 hpos)]
  · intro other hmem
    cases hother : other.matchBytes? text with
    | none => rfl
    | some bytes =>
      obtain ⟨m, htakes, rfl⟩ := CompiledRule.exists_takes hother
      rw [hearlier other hmem m htakes]
      rfl

/-- Whether the rules are asked for the token that `c :: rest` begins with. -/
structure AsksRules (h : PatternHighlighter) (seenCode : Bool) (c : Char) (rest : List Char) :
    Prop where
  notBlank : Unicode.isBlank c = false
  noComment : Marker.startsWith h.language.commentStart.toList (c :: rest) = false
  noLineComment : Marker.startsWith h.language.lineComment.toList (c :: rest) = false
  noDirective : ¬(seenCode = false ∧ h.language.preprocessor = some c)

/-- Whether the words that rules for identifiers match have the colors and the tooltips of the
table. -/
def ColorsWords (h : PatternHighlighter) : Prop :=
  ∀ {state text seenCode c rest rule n}, h.Visits state text seenCode (c :: rest) →
    h.AsksRules seenCode c rest → CompiledRule.Wins h.rules (c :: rest) rule n →
    rule.category = .identifier →
    ∃ category,
      h.highlighter.PaintsAt state text (text.length - (c :: rest).length) n category ∧
      h.language.Classifies ((c :: rest).take n) category
        (h.highlighter.tooltip? (String.ofList ((c :: rest).take n)))

/-- Where the rules are asked, the step is theirs. -/
theorem step_of_asksRules {h : PatternHighlighter} {seenCode : Bool} {c : Char} {rest : List Char}
    (hasks : h.AsksRules seenCode c rest) :
    h.step seenCode c rest = (h.ruleStep? (c :: rest)).getD (.token 1 .plain) := by
  have hdirective : (!seenCode && h.language.preprocessor == some c) = false := by
    rw [Bool.eq_false_iff]
    intro htrue
    obtain ⟨hseen, hmark⟩ := Bool.and_eq_true_iff.1 htrue
    exact hasks.noDirective ⟨by simpa using hseen, beq_iff_eq.1 hmark⟩
  unfold step
  simp only [hasks.notBlank, hasks.noComment, hasks.noLineComment, hdirective, Bool.false_eq_true,
    if_false]

/-- Where the rules are asked, the token is the match of the rule that wins. -/
theorem step_of_wins {h : PatternHighlighter} {seenCode : Bool} {c : Char} {rest : List Char}
    {rule : CompiledRule} {n : Nat} (hasks : h.AsksRules seenCode c rest)
    (hwins : CompiledRule.Wins h.rules (c :: rest) rule n) :
    h.step seenCode c rest = .token n
      (if rule.category = .identifier then h.words.categoryOf ((c :: rest).take n)
        else rule.category) := by
  have hglyphs := glyphsWithin_utf8Length (c :: rest) n hwins.2.1.1
  rw [step_of_asksRules hasks, ruleStep?, matchRules?_of_wins hwins, Option.map_some,
    Option.getD_some]
  simp only [hglyphs]

/-- A compiled table keeps its language and its words. -/
theorem ofLanguage_eq {language : Language} {h : PatternHighlighter}
    (hcompiled : ofLanguage language = .ok h) :
    h.language = language ∧ h.words = Words.ofLanguage language declaration := by
  obtain ⟨-, rules, -, rfl⟩ := (ofLanguage_eq_ok_iff language h).1 hcompiled
  exact ⟨rfl, rfl⟩

end PatternHighlighter

/-- Under both tokenizers words have the colors and the tooltips that a table asks for. -/
theorem colorsWords (language : Language) :
    CSharp.ColorsWords language ∧
      ∀ h, PatternHighlighter.ofLanguage language = .ok h → h.language = language ∧
        h.ColorsWords := by
  refine ⟨⟨?_, ?_⟩, ?_⟩
  · intro state text rest n hv hword
    exact ⟨_, CSharp.paintsAt_of_beginsWithIdentifier language hv hword,
      Words.classifies_ofLanguage language CSharp.declaration (rest.take n)⟩
  · intro state text i glyph line htext hglyph hcategory
    exact CSharp.exists_identifier_of_isWordCategory language htext hglyph hcategory
  · intro h hcompiled
    obtain ⟨hlanguage, hwords⟩ := PatternHighlighter.ofLanguage_eq hcompiled
    refine ⟨hlanguage, ?_⟩
    intro state text seenCode c rest rule n hv hasks hwins hidentifier
    have hstep := PatternHighlighter.step_of_wins hasks hwins
    rw [if_pos hidentifier] at hstep
    refine ⟨_, PatternHighlighter.paintsAt_of_visits hv hstep, ?_⟩
    show h.language.Classifies _ _ (h.words.tooltip? _)
    rw [hlanguage, hwords]
    exact Words.classifies_ofLanguage language PatternHighlighter.declaration ((c :: rest).take n)

/-- The built-in tables have such highlighters, and a word that begins like a keyword is none. -/
theorem colorsWords_builtin :
    (∃ h, PatternHighlighter.ofLanguage Builtin.lua = .ok h ∧ h.ColorsWords) ∧
      (CSharp.highlighter Builtin.csharp).PaintsAt .normal "int".toList 0 3 .keyword ∧
      (CSharp.highlighter Builtin.csharp).PaintsAt .normal "interval".toList 0 8 .identifier := by
  obtain ⟨hcsharp, -⟩ := colorsWords Builtin.csharp
  refine ⟨?_, ?_, ?_⟩
  · obtain ⟨h, hcompiled⟩ := PatternHighlighter.exists_ofLanguage
      (Builtin.isSound_of_mem_all Builtin.lua (by simp [Builtin.all]))
    exact ⟨h, hcompiled, ((colorsWords Builtin.lua).2 h hcompiled).2⟩
  · have hword : CSharp.BeginsWithIdentifier "int".toList 3 :=
      (CSharp.identifier?_eq_some_iff _ _).1 (by decide)
    obtain ⟨category, hpaints, hclass⟩ := hcsharp.colored .start hword
    rwa [hclass.keyword_iff.2 ⟨by decide +kernel, by decide +kernel⟩] at hpaints
  · have hword : CSharp.BeginsWithIdentifier "interval".toList 8 :=
      (CSharp.identifier?_eq_some_iff _ _).1 (by decide)
    obtain ⟨category, hpaints, hclass⟩ := hcsharp.colored .start hword
    rwa [hclass.identifier_iff.2 ⟨by decide +kernel, by decide +kernel⟩] at hpaints

end Highlight
