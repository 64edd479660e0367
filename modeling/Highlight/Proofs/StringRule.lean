import Highlight.Proofs.CSharp.Literals
import Highlight.Proofs.Pattern.RulePriority
import Highlight.Proofs.Regex.Matching
import Highlight.Proofs.RuleAnchor

/-!
# The string rule and the string scanners

The built-in table of C# has a rule for plain and interpolated strings, the tokenizer for C# has
scanners for them. What stands between the quotes is put together from turns (`CSharp.Turn`), and
the first character tells which turn it is, so that the expression of the rule matches in one way at
most, in whatever order the ways to go on are tried (`matches_iff_string?`). The search keeps to a
few places and finds that match (`findEnd?_stringRegex`). So strings end in the same column under
both highlighters (`readsStrings_csharp`).
-/

namespace Highlight

open Regex

/-! ## Searches that keep to a few places -/

namespace Regex.Program

variable {program : Program} {c : Char} {places next : List Nat}

/-- Whether a search that has not come to a match takes `c` from some places to others, whatever
stands behind `c`. -/
structure Leads (program : Program) (c : Char) (places next : List Nat) : Prop where
  waiting : program.untilAccept places = (places, false)
  alive_eq : ∀ after,
    program.alive (some c) after (places.filterMap (program.advance? c)) = next

/-- Where no place is left, nothing is found. -/
theorem run_nil (program : Program) (text : List Char) (taken : Nat) :
    program.run text [] taken none = none := by
  cases text <;> rfl

/-- A search goes on from the places that a character leads to. -/
lemma Leads.run_cons (h : program.Leads c places next) (rest : List Char) (taken : Nat) :
    program.run (c :: rest) places taken none = program.run rest next (taken + 1) none := by
  rw [run, h.waiting]
  cases places with
  | nil =>
    -- from nowhere the search comes nowhere
    have hnext : next = [] := (h.alive_eq rest.head?).symm
    rw [hnext, run_nil]
    rfl
  | cons place places =>
    simp only [List.isEmpty_cons, Bool.false_eq_true, if_false, h.alive_eq]

/-- A character of the class leads on. -/
lemma advance?_eq_some {s : CharClass} {place target : Nat}
    (hplace : program.code[place]? = some (.take s target)) (hc : s.contains c = true) :
    program.advance? c place = some target := by
  simp only [advance?, hplace, hc, if_true]

lemma advance?_eq_none {s : CharClass} {place target : Nat}
    (hplace : program.code[place]? = some (.take s target)) (hc : s.contains c = false) :
    program.advance? c place = none := by
  simp only [advance?, hplace, hc, Bool.false_eq_true, if_false]

end Regex.Program

/-! ## Turns -/

namespace CSharp

/-- What the body of a string is put together from: a character that is neither a quote nor a
backslash, or a backslash with a character of the same line behind it. -/
inductive Turn : List Char → Prop where
  | plain {c : Char} (hquote : c ≠ '"') (hbackslash : c ≠ '\\') : Turn [c]
  | escaped {c : Char} (hline : c ≠ '\n') : Turn ['\\', c]

variable {text : List Char} {n : Nat}

lemma quotedEnd?_cons {c : Char} (hquote : c ≠ '"') (hbackslash : c ≠ '\\')
    (rest : List Char) : quotedEnd? (c :: rest) = (quotedEnd? rest).map (· + 1) :=
  quotedEnd?.eq_4 c rest hquote fun _ _ hc => absurd hc hbackslash

/-- A scanner goes over turns to the quote behind them. -/
theorem quotedEnd?_turns_append {inside : List Char} (h : Turns Turn inside) (after : List Char) :
    quotedEnd? (inside ++ '"' :: after) = some (inside.length + 1) := by
  induction h with
  | none => rfl
  | @more first others hfirst hothers ih =>
    rw [List.append_assoc, List.length_append]
    cases hfirst with
    | plain hquote hbackslash =>
      rw [List.singleton_append, quotedEnd?_cons hquote hbackslash, ih, Option.map_some,
        List.length_singleton, Nat.add_comm 1]
    | @escaped c hline =>
      show (quotedEnd? (others ++ '"' :: after)).map (· + 2) = _
      rw [ih, Option.map_some, Nat.add_right_comm, Nat.add_comm _ 2]
      rfl

/-- What a scanner takes of a line is put together from turns, up to the quote. -/
theorem exists_turns_of_quotedEnd? (hline : '\n' ∉ text) (h : quotedEnd? text = some n) :
    ∃ inside after, text = inside ++ '"' :: after ∧ Turns Turn inside ∧
      n = inside.length + 1 := by
  fun_induction quotedEnd? text generalizing n with
  | case1 => cases h
  | case2 rest =>
    cases h
    exact ⟨[], rest, rfl, .none, rfl⟩
  | case3 c rest ih =>
    obtain ⟨m, hm, rfl⟩ := Option.map_eq_some_iff.1 h
    simp only [List.mem_cons, not_or] at hline
    obtain ⟨inside, after, rfl, hturns, rfl⟩ := ih hline.2.2 hm
    exact ⟨_, after, rfl, .more (.escaped (Ne.symm hline.2.1)) hturns, rfl⟩
  | case4 c rest hquote hpair ih =>
    obtain ⟨m, hm, rfl⟩ := Option.map_eq_some_iff.1 h
    obtain ⟨-, hline⟩ := not_or.1 (mt List.mem_cons.2 hline)
    obtain ⟨inside, after, rfl, hturns, rfl⟩ := ih hline hm
    have hbackslash : c ≠ '\\' := by
      -- the quote at least stands behind a backslash
      rintro rfl
      cases inside <;> exact hpair _ _ rfl rfl
    exact ⟨_, after, rfl, .more (.plain hquote hbackslash) hturns, rfl⟩

/-- The length of the plain or interpolated string that a text begins with. -/
def string? (text : List Char) : Option Nat :=
  (plainString? text).or (interpolatedString? text)

lemma string?_within (h : string? text = some n) : Within n text := by
  rcases Option.or_eq_some_iff.1 h with h | ⟨-, h⟩
  · exact plainString?_within h
  · exact interpolatedString?_within h

/-- Behind its opening a string is its body up to the closing quote. -/
lemma string?_append {opening : List Char} (hopening : opening ∈ quotedOpenings)
    (body : List Char) :
    string? (opening ++ body) = (quotedEnd? body).map (opening.length + ·) := by
  rw [mem_quotedOpenings_iff] at hopening
  rcases hopening with rfl | rfl
  · show ((quotedEnd? body).map (· + 1)).or none = _
    rw [Option.or_none]
    exact Option.map_congr fun n _ => Nat.add_comm n 1
  · exact Option.map_congr fun n _ => Nat.add_comm n 2

end CSharp

namespace Builtin

open CSharp (Turn quotedEnd? quotedOpenings mem_quotedOpenings_iff string?)

/-! ## The rule -/

/-- The rule of the C# table for verbatim strings, the first one. -/
def verbatimRule : Rule := { pattern := "@\"(?:[^\"]|\"\")*\"", category := .string }

/-- The rule of the C# table for all other strings, the second one. -/
def stringRule : Rule := { pattern := "\\$?\"(?:[^\"\\\\]|\\\\.)*\"", category := .string }

/-- The characters that are a turn by themselves. -/
def plainClass : CharClass := .compl (.union (.single '"') (.single '\\'))

/-- The characters that may stand behind a backslash. -/
def escapedClass : CharClass := .compl (.single '\n')

/-- The expression for one turn. -/
def turnRegex : Regex :=
  .alt (.set true plainClass) (.cat (.text '\\' []) (.set true escapedClass))

/-- The expression of the rule. -/
def stringRegex : Regex :=
  .cat (.look .textStart) (.cat (.rep (.text '$' []) 0 (some 1) true)
    (.cat (.text '"' []) (.cat (.rep turnRegex 0 none true) (.text '"' []))))

/-- More than one character is a turn by itself. -/
theorem ofClass_plainClass : ofClass true plainClass = .set true plainClass := by
  have hmerge : List.merge [(⟨34, 34⟩ : Unicode.CodeRange)] [⟨92, 92⟩]
      (fun r s => decide (r.first ≤ s.first)) = [⟨34, 34⟩, ⟨92, 92⟩] := by
    rw [List.cons_merge_cons, List.nil_merge]
    rfl
  have hranges : (CharClass.union (.single '"') (.single '\\')).ranges =
      [⟨34, 34⟩, ⟨92, 92⟩] :=
    congrArg Unicode.RangeTable.join hmerge
  rw [ofClass, CharClass.onlyMember?, plainClass, CharClass.ranges, hranges]
  rfl

/-- What the pattern of strings means. -/
lemma regex?_stringRule :
    (Expr.read? stringRule.anchoredPattern).bind (Expr.regex? { ignoreCase := false }) =
      some stringRegex := by
  -- the expression as it is read, with the classes still to be looked through
  have hread : (Expr.read? stringRule.anchoredPattern).bind
      (Expr.regex? { ignoreCase := false }) =
      some (simplify (.cat (.look .textStart) (simplify
        (.cat (repetition (.text '$' []) 0 (some 1) true) (.cat (.text '"' [])
          (.cat (repetition (simplify (.alt (ofClass true plainClass)
            (.cat (.text '\\' []) (ofClass true escapedClass)))) 0 none true)
            (.text '"' []))))))) := rfl
  rw [hread, ofClass_plainClass]
  rfl

lemma ofPattern?_stringRule :
    Program.ofPattern? stringRule.anchoredPattern false = some (.ofRegex stringRegex) := by
  obtain ⟨e, he, hregex⟩ := Option.bind_eq_some_iff.1 regex?_stringRule
  exact ofPattern?_eq_some_iff.2 ⟨e, stringRegex, he, hregex, by decide, rfl⟩

/-! ## One way to match -/

variable {before : Option Char} {body text taken after : List Char} {n : Nat}

/-- One turn of the body matches a plain character or an escaped one. -/
lemma matches_turnRegex_iff : Matches turnRegex before taken after ↔ Turn taken := by
  simp only [turnRegex, plainClass, escapedClass, matches_alt_iff, matches_cat_iff,
    matches_set_iff, matches_text_iff, CharClass.contains, CharClass.contains_single, Bool.not_or,
    Bool.and_eq_true, Bool.not_eq_true', decide_eq_false_iff_not]
  constructor
  · rintro (⟨c, ⟨hquote, hbackslash⟩, rfl⟩ | ⟨_, _, rfl, rfl, c, hline, rfl⟩)
    · exact .plain hquote hbackslash
    · exact .escaped hline
  · rintro (⟨hquote, hbackslash⟩ | hline)
    · exact .inl ⟨_, ⟨hquote, hbackslash⟩, rfl⟩
    · exact .inr ⟨_, _, rfl, rfl, _, hline, rfl⟩

/-- The expression matches an opening, turns and a quote. -/
theorem matches_stringRegex_iff : Matches stringRegex none taken after ↔
    ∃ opening ∈ quotedOpenings, ∃ inside, Turns Turn inside ∧
      taken = opening ++ inside ++ ['"'] := by
  -- the body is any number of turns
  have hstar : ∀ {before taken after},
      Matches (.rep turnRegex 0 none true) before taken after ↔ Turns Turn taken :=
    matches_star_iff fun _ _ _ => matches_turnRegex_iff
  simp only [stringRegex, matches_cat_iff, matches_look_iff, matches_optional_iff,
    matches_text_iff, hstar, mem_quotedOpenings_iff]
  constructor
  · rintro ⟨_, _, rfl, ⟨-, rfl⟩, dollar, _, rfl, hdollar, _, _, rfl, rfl, inside, _, rfl, hinside,
      rfl⟩
    rcases hdollar with rfl | rfl
    · exact ⟨['"'], .inl rfl, inside, hinside, rfl⟩
    · exact ⟨['$', '"'], .inr rfl, inside, hinside, rfl⟩
  · rintro ⟨opening, rfl | rfl, inside, hinside, rfl⟩
    · exact ⟨[], _, rfl, ⟨rfl, rfl⟩, [], _, rfl, .inl rfl, ['"'], _, rfl, rfl, inside, _, rfl,
        hinside, rfl⟩
    · exact ⟨[], _, rfl, ⟨rfl, rfl⟩, ['$'], _, rfl, .inr rfl, ['"'], _, rfl, rfl, inside, _, rfl,
        hinside, rfl⟩

/-- Whether a text of one line begins as plain and interpolated strings do. -/
def OpensString (text : List Char) : Prop :=
  '\n' ∉ text ∧ ∃ opening ∈ quotedOpenings, opening <+: text

/-- The expression matches what the scanners accept, and in one way only. -/
theorem matches_iff_string? (hopens : OpensString (taken ++ after)) :
    Matches stringRegex none taken after ↔ string? (taken ++ after) = some taken.length := by
  rw [matches_stringRegex_iff]
  constructor
  · rintro ⟨opening, hopening, inside, hinside, rfl⟩
    have htext : opening ++ inside ++ ['"'] ++ after = opening ++ (inside ++ '"' :: after) := by
      simp only [List.append_assoc, List.singleton_append]
    rw [htext, CSharp.string?_append hopening, CSharp.quotedEnd?_turns_append hinside,
      Option.map_some, List.length_append, List.length_append, List.length_singleton,
      Nat.add_assoc]
  · intro hstring
    obtain ⟨hline, opening, hopening, body, htext⟩ := hopens
    rw [← htext] at hstring hline
    rw [CSharp.string?_append hopening] at hstring
    obtain ⟨n, hn, hlength⟩ := Option.map_eq_some_iff.1 hstring
    obtain ⟨inside, behind, rfl, hinside, rfl⟩ :=
      CSharp.exists_turns_of_quotedEnd? (fun hmem => hline (List.mem_append_right _ hmem)) hn
    refine ⟨opening, hopening, inside, hinside, ?_⟩
    -- both are the text up to the quote
    have hsplit : taken ++ after = (opening ++ inside ++ ['"']) ++ behind := by
      rw [← htext]
      simp only [List.append_assoc, List.singleton_append]
    refine List.append_inj_left hsplit ?_
    rw [← hlength, List.length_append, List.length_append, List.length_singleton, Nat.add_assoc]

/-! ## The program finds it -/

/-- Where the program is between two turns: at a turn of either kind or at the closing quote. It
begins at 2 and 4, is at 4 behind a dollar sign, at 9 behind a backslash and at 11 behind the
closing quote. -/
def betweenTurns : List Nat := [7, 8, 10]

lemma leads_dollar : (Program.ofRegex stringRegex).Leads '$' [2, 4] [4] := ⟨rfl, fun _ => rfl⟩

lemma leads_quote : (Program.ofRegex stringRegex).Leads '"' [2, 4] betweenTurns :=
  ⟨rfl, fun _ => rfl⟩

lemma leads_quote_behind : (Program.ofRegex stringRegex).Leads '"' [4] betweenTurns :=
  ⟨rfl, fun _ => rfl⟩

/-- A backslash in the body leads to the escaped character. -/
lemma leads_backslash : (Program.ofRegex stringRegex).Leads '\\' betweenTurns [9] :=
  ⟨rfl, fun _ => rfl⟩

/-- A plain character in the body leads on in it. -/
lemma leads_plain {c : Char} (hquote : c ≠ '"') (hbackslash : c ≠ '\\') :
    (Program.ofRegex stringRegex).Leads c betweenTurns betweenTurns := by
  refine ⟨rfl, fun after => ?_⟩
  have hplain : (Program.ofRegex stringRegex).advance? c 7 = some 5 :=
    Program.advance?_eq_some rfl (by simp [plainClass, CharClass.contains, hquote, hbackslash])
  have hescape : (Program.ofRegex stringRegex).advance? c 8 = none :=
    Program.advance?_eq_none rfl (by simp [hbackslash])
  have hclosing : (Program.ofRegex stringRegex).advance? c 10 = none :=
    Program.advance?_eq_none rfl (by simp [hquote])
  rw [betweenTurns, List.filterMap_cons_some hplain, List.filterMap_cons_none hescape,
    List.filterMap_cons_none hclosing]
  rfl

/-- Any character behind a backslash leads back into the body, but for a line feed. -/
lemma leads_escaped {c : Char} (hline : c ≠ '\n') :
    (Program.ofRegex stringRegex).Leads c [9] betweenTurns := by
  refine ⟨rfl, fun after => ?_⟩
  have hescaped : (Program.ofRegex stringRegex).advance? c 9 = some 5 :=
    Program.advance?_eq_some rfl (by simp [escapedClass, CharClass.contains, hline])
  rw [List.filterMap_cons_some hescaped]
  rfl

lemma leads_closing : (Program.ofRegex stringRegex).Leads '"' betweenTurns [11] :=
  ⟨rfl, fun _ => rfl⟩

/-- Between two turns the program goes on to the quote that a scanner stops at. -/
theorem run_betweenTurns (hline : '\n' ∉ body) (taken : Nat) :
    (Program.ofRegex stringRegex).run body betweenTurns taken none =
      (quotedEnd? body).map (taken + ·) := by
  fun_induction quotedEnd? body generalizing taken with
  | case1 => rfl
  | case2 rest =>
    rw [leads_closing.run_cons]
    cases rest <;> rfl
  | case3 c rest ih =>
    simp only [List.mem_cons, not_or] at hline
    rw [leads_backslash.run_cons, (leads_escaped (Ne.symm hline.2.1)).run_cons, ih hline.2.2,
      Option.map_map]
    exact Option.map_congr fun n _ => by simp only [Function.comp]; omega
  | case4 c rest hquote hpair ih =>
    obtain ⟨-, hline⟩ := not_or.1 (mt List.mem_cons.2 hline)
    by_cases hbackslash : c = '\\'
    · -- a backslash that nothing follows
      obtain rfl : rest = [] := by
        cases rest with
        | nil => rfl
        | cons d rest => exact absurd rfl (hpair d rest hbackslash)
      subst hbackslash
      rfl
    · rw [(leads_plain hquote hbackslash).run_cons, ih hline, Option.map_map]
      exact Option.map_congr fun n _ => by simp only [Function.comp]; omega

/-- The program finds the end of the string that a scanner accepts, and no match where none does. -/
theorem findEnd?_stringRegex (hopens : OpensString text) :
    (Program.ofRegex stringRegex).findEnd? text = string? text := by
  obtain ⟨hline, opening, hopening, body, rfl⟩ := hopens
  have hbody : '\n' ∉ body := fun hmem => hline (List.mem_append_right _ hmem)
  have hstart : ∀ after, (Program.ofRegex stringRegex).alive none after [0] = [2, 4] := fun _ => rfl
  rw [CSharp.string?_append hopening, Program.findEnd?_of_anchored rfl, Program.matchLength?,
    hstart]
  rw [mem_quotedOpenings_iff] at hopening
  rcases hopening with rfl | rfl
  · rw [List.singleton_append, leads_quote.run_cons, run_betweenTurns hbody]
    rfl
  · show (Program.ofRegex stringRegex).run ('$' :: '"' :: body) [2, 4] 0 none = _
    rw [leads_dollar.run_cons, leads_quote_behind.run_cons, run_betweenTurns hbody]
    rfl

/-! ## Its place in the table -/

/-- The expression of the rule for verbatim strings. -/
def verbatimRegex : Regex :=
  .cat (.look .textStart) (.cat (.text '@' ['"'])
    (.cat (.rep (.alt (.set true (.compl (.single '"'))) (.text '"' ['"'])) 0 none true)
      (.text '"' [])))

lemma ofPattern?_verbatimRule :
    Program.ofPattern? verbatimRule.anchoredPattern false = some (.ofRegex verbatimRegex) := rfl

/-- Without an at sign in front there is no verbatim string. -/
theorem findEnd?_verbatimRegex {c : Char} (hc : c ≠ '@') (rest : List Char) :
    (Program.ofRegex verbatimRegex).findEnd? (c :: rest) = none := by
  have hstart : ∀ after, (Program.ofRegex verbatimRegex).alive none after [0] = [1] :=
    fun _ => rfl
  have hleads : (Program.ofRegex verbatimRegex).Leads c [1] [] := by
    refine ⟨rfl, fun after => ?_⟩
    rw [List.filterMap_cons_none (Program.advance?_eq_none rfl (by simp [hc]))]
    rfl
  rw [Program.findEnd?_of_anchored rfl, Program.matchLength?, hstart, hleads.run_cons,
    Program.run_nil]

/-- The rule for verbatim strings, compiled. -/
def compiledVerbatim : CompiledRule := { program := .ofRegex verbatimRegex, category := .string }

/-- The rule for all other strings, compiled. -/
def compiledString : CompiledRule := { program := .ofRegex stringRegex, category := .string }

lemma compile_verbatimRule :
    verbatimRule.compile csharp.name csharp.caseSensitive = .ok compiledVerbatim :=
  (Rule.compile_eq_ok_iff (by decide)).2 ⟨_, ofPattern?_verbatimRule, rfl⟩

lemma compile_stringRule :
    stringRule.compile csharp.name csharp.caseSensitive = .ok compiledString :=
  (Rule.compile_eq_ok_iff (by decide)).2 ⟨_, ofPattern?_stringRule, rfl⟩

/-- No rule but the first two of the table is for strings. -/
theorem exists_rules {patterns : PatternHighlighter}
    (h : PatternHighlighter.ofLanguage csharp = .ok patterns) :
    ∃ others, patterns.rules = compiledVerbatim :: compiledString :: others ∧
      ∀ rule ∈ others, rule.category ≠ .string := by
  have htable : csharp.rules = verbatimRule :: stringRule :: csharp.rules.drop 2 := rfl
  obtain ⟨-, rules, hrules, rfl⟩ := (PatternHighlighter.ofLanguage_eq_ok_iff csharp patterns).1 h
  rw [htable] at hrules
  obtain ⟨verbatim, rules', hverbatim, hrules', rfl⟩ := mapM_cons_eq_ok_iff.1 hrules
  obtain ⟨string, others, hstring, hothers, rfl⟩ := mapM_cons_eq_ok_iff.1 hrules'
  rw [compile_verbatimRule] at hverbatim
  rw [compile_stringRule] at hstring
  cases hverbatim
  cases hstring
  refine ⟨others, rfl, fun compiled hmem => ?_⟩
  obtain ⟨rule, hrule, hcompile⟩ := exists_of_mem_mapM hothers hmem
  -- the first two rules are those of strings, and no other rule has their color
  have hall : ∀ rule ∈ csharp.rules.drop 2, rule.pattern ≠ "" ∧ rule.category ≠ .string := by
    decide
  obtain ⟨program, -, rfl⟩ := (Rule.compile_eq_ok_iff (hall rule hrule).1).1 hcompile
  exact (hall rule hrule).2

/-! ## Tokens -/

variable {patterns : PatternHighlighter} {seenCode : Bool} {c : Char} {rest : List Char} {n : Nat}

/-- A string begins with a quote or with the mark of an interpolated one. -/
lemma OpensString.head_eq (hopens : OpensString (c :: rest)) : c = '"' ∨ c = '$' := by
  obtain ⟨-, opening, hopening, body, htext⟩ := hopens
  rw [mem_quotedOpenings_iff] at hopening
  rcases hopening with rfl | rfl <;> cases htext
  · exact .inl rfl
  · exact .inr rfl

/-- What opens a string is neither a blank nor a mark of the table. -/
theorem asksRules_of_opensString (h : PatternHighlighter.ofLanguage csharp = .ok patterns)
    (hopens : OpensString (c :: rest)) (seenCode : Bool) : patterns.AsksRules seenCode c rest := by
  obtain ⟨hlanguage, -⟩ := PatternHighlighter.ofLanguage_eq h
  have hfirst := hopens.head_eq
  constructor
  case notBlank => rcases hfirst with rfl | rfl <;> decide
  case noComment =>
    rw [hlanguage]
    rcases hfirst with rfl | rfl <;> rfl
  case noLineComment =>
    rw [hlanguage]
    rcases hfirst with rfl | rfl <;> rfl
  case noDirective =>
    rintro ⟨-, hmark⟩
    rw [hlanguage] at hmark
    rcases hfirst with rfl | rfl <;> cases hmark

/-- The compiled rule matches a string up to its end, measured in bytes. -/
lemma matchBytes?_compiledString (hopens : OpensString text) :
    compiledString.matchBytes? text =
      (string? text).map fun n => utf8Length (text.take n) := by
  rw [CompiledRule.matchBytes?, compiledString, findEnd?_stringRegex hopens]

/-- The match of the rule is what the scanners accept. -/
theorem takes_compiledString_iff (hopens : OpensString text) :
    compiledString.Takes text n ↔ string? text = some n := by
  have hbytes := matchBytes?_compiledString hopens
  have htakes : ∀ m, string? text = some m → compiledString.Takes text m := by
    intro m hm
    rw [hm, Option.map_some] at hbytes
    exact ⟨(CSharp.string?_within hm).2, hbytes⟩
  refine ⟨fun h => ?_, htakes n⟩
  obtain ⟨m, hm, -⟩ := Option.map_eq_some_iff.1 (hbytes.symm.trans h.2)
  rw [(htakes m hm).eq h] at hm
  exact hm

/-- The rule for verbatim strings has no match where another string opens. -/
theorem matchBytes?_compiledVerbatim (hopens : OpensString (c :: rest)) :
    compiledVerbatim.matchBytes? (c :: rest) = none := by
  have hat : c ≠ '@' := by
    rcases hopens.head_eq with rfl | rfl <;> decide
  rw [CompiledRule.matchBytes?, compiledVerbatim, findEnd?_verbatimRegex hat, Option.map_none]

/-- Where a string is accepted, it is the step of the table. -/
theorem step_of_string? (h : PatternHighlighter.ofLanguage csharp = .ok patterns)
    (hopens : OpensString (c :: rest)) (hstring : string? (c :: rest) = some n) :
    patterns.step seenCode c rest = .token n .string := by
  obtain ⟨others, hrules, -⟩ := exists_rules h
  have hearlier : ∀ other ∈ [compiledVerbatim], ∀ m, other.Takes (c :: rest) m → m = 0 := by
    intro other hmem m htakes
    rw [List.mem_singleton.1 hmem, CompiledRule.Takes, matchBytes?_compiledVerbatim hopens]
      at htakes
    cases htakes.2
  have hwins : CompiledRule.Wins patterns.rules (c :: rest) compiledString n :=
    ⟨(CSharp.string?_within hstring).1, (takes_compiledString_iff hopens).2 hstring,
      [compiledVerbatim], others, hrules, hearlier⟩
  exact PatternHighlighter.step_of_wins (asksRules_of_opensString h hopens seenCode) hwins

/-- Where none is accepted, the step of the table is no string. -/
theorem step_ne_string (h : PatternHighlighter.ofLanguage csharp = .ok patterns)
    (hopens : OpensString (c :: rest)) (hstring : string? (c :: rest) = none) :
    patterns.step seenCode c rest ≠ .token n .string := by
  obtain ⟨others, hrules, hothers⟩ := exists_rules h
  have hwords := (PatternHighlighter.ofLanguage_eq h).2
  have hnone := matchBytes?_compiledString hopens
  rw [hstring, Option.map_none] at hnone
  rw [PatternHighlighter.step_of_asksRules (asksRules_of_opensString h hopens seenCode),
    PatternHighlighter.ruleStep?]
  cases hmatch : PatternHighlighter.matchRules? patterns.rules (c :: rest) with
  | none => exact fun hstep => by cases hstep
  | some found =>
    obtain ⟨rule, bytes⟩ := found
    -- the rule that matches is neither of the two that paint strings
    obtain ⟨hmem, hbytes⟩ := PatternHighlighter.matchBytes?_of_matchRules? hmatch
    rw [hrules, List.mem_cons, List.mem_cons] at hmem
    rcases hmem with rfl | rfl | hmem
    · rw [matchBytes?_compiledVerbatim hopens] at hbytes
      cases hbytes
    · rw [hnone] at hbytes
      cases hbytes
    · intro hstep
      injection hstep with hlength hcategory
      split at hcategory
      · rw [hwords] at hcategory
        exact Words.categoryOf_ofLanguage_ne_string _ _ _ hcategory
      · exact hothers rule hmem hcategory

/-- The table paints a string where the scanners find one, and as much. -/
lemma step_eq_string_iff (h : PatternHighlighter.ofLanguage csharp = .ok patterns)
    (hopens : OpensString (c :: rest)) :
    patterns.step seenCode c rest = .token n .string ↔ string? (c :: rest) = some n := by
  refine ⟨fun hstep => ?_, step_of_string? h hopens⟩
  cases hstring : string? (c :: rest) with
  | none => exact absurd hstep (step_ne_string h hopens hstring)
  | some m =>
    rw [step_of_string? h hopens hstring] at hstep
    cases hstep
    rfl

/-- The recognizers paint a string where the scanners find one, and as much. -/
lemma scan_eq_string_iff (words : Words) (hopens : OpensString text) :
    CSharp.scan words .normal text = { length := n, category := .string } ↔
      string? text = some n := by
  obtain ⟨-, opening, hopening, body, rfl⟩ := hopens
  rw [CSharp.scan_quotedOpening words hopening, CSharp.string?_append hopening]
  cases quotedEnd? body with
  | none => exact iff_of_false (fun h => by cases h) (fun h => by cases h)
  | some m =>
    rw [Option.map_some, Option.getD_some, Option.map_some, Option.some_inj]
    exact ⟨fun h => congrArg CSharp.Scan.length h, fun h => by rw [h]⟩

/-! ## Both highlighters -/

/-- Whether the rule of a table for plain and interpolated strings reads them as the scanners of C#
do. -/
structure ReadsStrings (patterns : PatternHighlighter) (compiled : CompiledRule) (regex : Regex) :
    Prop where
  /-- A plain string has a match exactly if it is accepted, and it is as long. -/
  plain : ∀ body, '\n' ∉ body →
    compiled.program.findEnd? ('"' :: body) = CSharp.plainString? ('"' :: body)
  /-- Likewise an interpolated string. -/
  interpolated : ∀ body, '\n' ∉ body →
    compiled.program.findEnd? ('$' :: '"' :: body) =
      CSharp.interpolatedString? ('$' :: '"' :: body)
  /-- In whatever order the ways to go on are tried, there is no other match. -/
  oneWay : ∀ taken after, OpensString (taken ++ after) →
    (Matches regex none taken after ↔ string? (taken ++ after) = some taken.length)
  /-- The bytes of the match are those of as many glyphs. -/
  glyphs : ∀ text, OpensString text →
    (compiled.matchBytes? text).map (glyphsWithin · text) = string? text
  /-- The token of the table is a string exactly if that of the tokenizer for C# is, and it is as
  long. -/
  token_iff : ∀ words seenCode c rest n, OpensString (c :: rest) →
    (patterns.step seenCode c rest = .token n .string ↔
      CSharp.scan words .normal (c :: rest) = { length := n, category := .string })
  /-- At a place that both tokenizers come to, both paint the string and go on behind it. -/
  sameColumn : ∀ state now text seenCode c rest n, patterns.Visits state text seenCode (c :: rest) →
    CSharp.Visits (CSharp.wordsOf csharp) now text .normal (c :: rest) → OpensString (c :: rest) →
    string? (c :: rest) = some n →
    patterns.highlighter.PaintsAt state text (text.length - (c :: rest).length) n .string ∧
      (CSharp.highlighter csharp).PaintsAt now text (text.length - (c :: rest).length) n .string ∧
      patterns.Visits state text true ((c :: rest).drop n) ∧
      CSharp.Visits (CSharp.wordsOf csharp) now text .normal ((c :: rest).drop n)

/-- The built-in table of C# has a rule that reads plain and interpolated strings as the scanners
do. -/
theorem readsStrings_csharp : ∃ patterns compiled regex,
    PatternHighlighter.ofLanguage csharp = .ok patterns ∧ csharp.rules[1]? = some stringRule ∧
      stringRule.compile csharp.name csharp.caseSensitive = .ok compiled ∧
      (Expr.read? stringRule.anchoredPattern).bind
        (Expr.regex? { ignoreCase := !csharp.caseSensitive }) = some regex ∧
      ReadsStrings patterns compiled regex := by
  obtain ⟨patterns, h⟩ := PatternHighlighter.exists_ofLanguage
    (isSound_of_mem_all csharp (by simp [all]))
  refine ⟨patterns, compiledString, stringRegex, h, rfl, compile_stringRule, regex?_stringRule, ?_⟩
  constructor
  case plain =>
    intro body hline
    have hopens : OpensString ('"' :: body) :=
      ⟨by simpa using hline, ['"'], by decide, body, rfl⟩
    rw [compiledString, findEnd?_stringRegex hopens]
    exact Option.or_none
  case interpolated =>
    intro body hline
    have hopens : OpensString ('$' :: '"' :: body) :=
      ⟨by simpa using hline, ['$', '"'], by decide, body, rfl⟩
    rw [compiledString, findEnd?_stringRegex hopens]
    rfl
  case oneWay => exact fun taken after hopens => matches_iff_string? hopens
  case glyphs =>
    intro text hopens
    cases hstring : string? text with
    | none =>
      rw [matchBytes?_compiledString hopens, hstring]
      rfl
    | some n =>
      obtain ⟨hle, hbytes⟩ := (takes_compiledString_iff hopens).2 hstring
      rw [hbytes, Option.map_some, glyphsWithin_utf8Length text n hle]
  case token_iff =>
    intro words seenCode c rest n hopens
    rw [step_eq_string_iff h hopens, scan_eq_string_iff words hopens]
  case sameColumn =>
    intro state now text seenCode c rest n hv hv' hopens hstring
    have hstep : patterns.step seenCode c rest = .token n .string :=
      step_of_string? h hopens hstring
    have hscan := (scan_eq_string_iff (CSharp.wordsOf csharp) hopens).2 hstring
    have hpaints := CSharp.paintsAt_of_visits hv' (List.cons_ne_nil c rest)
    have hnext := hv'.step (List.cons_ne_nil c rest)
    have hbehind := hv.step hstep
    -- a string is no blank, so the table has seen code behind it
    have hcode : (seenCode || !Unicode.isBlank c) = true := by
      rw [(asksRules_of_opensString h hopens seenCode).notBlank, Bool.not_false, Bool.or_true]
    rw [hscan] at hpaints hnext
    rw [hcode] at hbehind
    exact ⟨PatternHighlighter.paintsAt_of_visits hv hstep, hpaints, hbehind, hnext⟩

/-- On one line, that is: a backslash takes a line feed along for the scanner, not for the rule. -/
example : (Program.ofRegex stringRegex).findEnd? ['"', '\\', '\n', '"'] = none ∧
    CSharp.plainString? ['"', '\\', '\n', '"'] = some 4 := by decide

end Builtin

end Highlight
