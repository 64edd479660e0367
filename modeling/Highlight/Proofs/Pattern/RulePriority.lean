import Highlight.Proofs.WordColors
import Mathlib.Data.Nat.Find

/-!
# One rule more

A table with one rule more colors a line as the table without it does, up to the first place at
which the new rule decides: the rules are asked there, none before it has a match that is not empty,
and it has one. `step_insertRule` says this of a step, `visits_insertRule` of the steps up to such a
place, and `isConservative_insertRule` of the colors. So a rule that is always shadowed, or whose
matches are all empty, may stand anywhere in a table.
-/

namespace Highlight

/-- The table with one rule more, behind the first `k` rules, or behind all if there are fewer. -/
def Language.insertRule (language : Language) (k : Nat) (rule : Rule) : Language :=
  { language with rules := language.rules.take k ++ rule :: language.rules.drop k }

/-- The bytes of a match tell how many characters it has. -/
theorem CompiledRule.Takes.eq {rule : CompiledRule} {text : List Char} {n m : Nat}
    (hn : rule.Takes text n) (hm : rule.Takes text m) : n = m := by
  have hbytes := hn.2
  rw [hm.2, Option.some.injEq] at hbytes
  rw [← glyphsWithin_utf8Length text n hn.1, ← hbytes, glyphsWithin_utf8Length text m hm.1]

namespace PatternHighlighter

variable {language : Language} {h : PatternHighlighter} {k : Nat} {rule : Rule}
  {compiled : CompiledRule} {state : LineState} {text : List Char} {seenCode : Bool}

/-- The highlighter of the table with one rule more. -/
def insertRule (h : PatternHighlighter) (k : Nat) (rule : Rule) (compiled : CompiledRule) :
    PatternHighlighter :=
  { h with
    language := h.language.insertRule k rule
    rules := h.rules.take k ++ compiled :: h.rules.drop k }

/-- A table stays accepted with one more rule that compiles. -/
theorem ofLanguage_insertRule (hcompiled : ofLanguage language = .ok h)
    (hrule : rule.compile language.name language.caseSensitive = .ok compiled) (k : Nat) :
    ofLanguage (language.insertRule k rule) = .ok (h.insertRule k rule compiled) := by
  obtain ⟨hvalid, rules, hrules, rfl⟩ := (ofLanguage_eq_ok_iff language h).1 hcompiled
  exact (ofLanguage_eq_ok_iff _ _).2 ⟨hvalid, _, mapM_insert hrules hrule k, rfl⟩

/-! ## Which rule counts -/

/-- Later rules are tried where no earlier one matches. -/
lemma matchRules?_append (earlier later : List CompiledRule) (text : List Char) :
    matchRules? (earlier ++ later) text =
      (matchRules? earlier text).or (matchRules? later text) :=
  List.findSome?_append

/-- No rule counts if all matches are empty. -/
theorem matchRules?_eq_none_iff {rules : List CompiledRule} :
    matchRules? rules text = none ↔ ∀ rule ∈ rules, ∀ n, rule.Takes text n → n = 0 := by
  rw [matchRules?, List.findSome?_eq_none_iff]
  refine forall₂_congr fun rule _ => ?_
  cases hbytes : rule.matchBytes? text with
  | none =>
    refine ⟨fun _ n htakes => ?_, fun _ => rfl⟩
    rw [htakes.2] at hbytes
    cases hbytes
  | some bytes =>
    obtain ⟨m, htakes, rfl⟩ := CompiledRule.exists_takes hbytes
    have hpos := CompiledRule.utf8Length_take_pos htakes.1
    constructor
    · intro hnone n hn
      rw [hn.eq htakes]
      by_contra hm
      simp only [hpos.2 (Nat.pos_of_ne_zero hm), if_true] at hnone
      cases hnone
    · intro hzero
      exact if_neg fun hbytes => Nat.ne_of_gt (hpos.1 hbytes) (hzero m htakes)

/-- One rule more makes no difference where an earlier one has a match that is not empty, or where
it has none itself. -/
theorem matchRules?_insert {earlier : List CompiledRule} (later : List CompiledRule)
    (hno : (∀ other ∈ earlier, ∀ n, other.Takes text n → n = 0) →
      ∀ n, compiled.Takes text n → n = 0) :
    matchRules? (earlier ++ compiled :: later) text = matchRules? (earlier ++ later) text := by
  rw [matchRules?_append, matchRules?_append]
  cases hfirst : matchRules? earlier text with
  | some found => rfl
  | none =>
    have hnone : matchRules? [compiled] text = none := by
      rw [matchRules?_eq_none_iff]
      intro other hmem
      rw [List.mem_singleton.1 hmem]
      exact hno (matchRules?_eq_none_iff.1 hfirst)
    rw [Option.none_or, Option.none_or, ← List.singleton_append, matchRules?_append, hnone,
      Option.none_or]

/-! ## Where the rule takes over -/

/-- Whether a rule behind the first `k` decides the token that `c :: rest` begins with: the rules
are asked for it, none of those before has a match that is not empty, and it has one. -/
structure TakesOver (h : PatternHighlighter) (k : Nat) (compiled : CompiledRule) (seenCode : Bool)
    (c : Char) (rest : List Char) : Prop where
  asks : h.AsksRules seenCode c rest
  declined : ∀ other ∈ h.rules.take k, ∀ n, other.Takes (c :: rest) n → n = 0
  takes : ∃ n, 0 < n ∧ compiled.Takes (c :: rest) n

/-- Whether the tokenizer comes to a place of a text at which the rule takes over. -/
def TakesOverAt (h : PatternHighlighter) (k : Nat) (compiled : CompiledRule) (state : LineState)
    (text : List Char) (place : Nat) : Prop :=
  ∃ seenCode c rest, h.Visits state text seenCode (c :: rest) ∧ text.drop place = c :: rest ∧
    h.TakesOver k compiled seenCode c rest

/-- A step is the same with one rule more unless the rule takes over. -/
theorem step_insertRule (rule : Rule) {c : Char} {rest : List Char}
    (hno : ¬h.TakesOver k compiled seenCode c rest) :
    (h.insertRule k rule compiled).step seenCode c rest = h.step seenCode c rest := by
  have hrules : h.AsksRules seenCode c rest →
      (h.insertRule k rule compiled).ruleStep? (c :: rest) = h.ruleStep? (c :: rest) := by
    intro hasks
    have hempty : (∀ other ∈ h.rules.take k, ∀ n, other.Takes (c :: rest) n → n = 0) →
        ∀ n, compiled.Takes (c :: rest) n → n = 0 := by
      intro hdeclined n htakes
      by_contra hn
      exact hno ⟨hasks, hdeclined, n, Nat.pos_of_ne_zero hn, htakes⟩
    have hmatch := matchRules?_insert (h.rules.drop k) hempty
    rw [List.take_append_drop] at hmatch
    exact congrArg (Option.map _) hmatch
  -- the marks of the table are the same, so only the rules can tell the steps apart
  unfold step
  refine ite_congr rfl (fun _ => rfl) fun hblank => ?_
  refine ite_congr rfl (fun _ => rfl) fun hcomment => ?_
  refine ite_congr rfl (fun _ => rfl) fun hline => ?_
  refine ite_congr rfl (fun _ => rfl) fun hdirective => ?_
  rw [hrules ⟨Bool.eq_false_iff.2 hblank, Bool.eq_false_iff.2 hcomment, Bool.eq_false_iff.2 hline,
    fun hcode => hdirective ?_⟩]
  rw [hcode.1, hcode.2, Bool.not_false, Bool.true_and, beq_self_eq_true]

/-! ## The steps up to there -/

/-- Where the rule has not taken over, the tokenizer comes to the same places with one rule more,
and by the same tokens. -/
theorem visits_insertRule (rule : Rule) {rest : List Char}
    (hv : h.Visits state text seenCode rest)
    (hno : ∀ place, place + rest.length < text.length →
      ¬h.TakesOverAt k compiled state text place) :
    (h.insertRule k rule compiled).Visits state text seenCode rest ∧
      ∃ before, (h.tokens state text).1 = before ++ (h.tokensFrom seenCode rest).1 ∧
        ((h.insertRule k rule compiled).tokens state text).1 =
          before ++ ((h.insertRule k rule compiled).tokensFrom seenCode rest).1 ∧
        Token.LeadTo before text rest := by
  induction hv with
  | start hfresh =>
    refine ⟨.start hfresh, [], ?_, ?_, .nil text⟩
    · rw [tokens_of_fresh hfresh, List.nil_append]
    · rw [tokens_of_fresh (h := h.insertRule k rule compiled) hfresh, List.nil_append]
  | @behindComment n hcarried hend =>
    refine ⟨.behindComment hcarried hend, _, ?_, ?_,
      (Token.LeadTo.nil text).concat (Marker.endOf?_le hend) .blockComment⟩
    · rw [tokens_of_closed hcarried hend]
      rfl
    · rw [tokens_of_closed (h := h.insertRule k rule compiled) hcarried hend]
      rfl
  | @step seenCode c rest n category visits hstep ih =>
    have hpos := (step_within h hstep).1
    have hshorter : ((c :: rest).drop n).length < (c :: rest).length := by
      rw [List.length_drop, List.length_cons]
      omega
    obtain ⟨hvisits, before, htokens, htokens', hlead⟩ := ih fun place hplace =>
      hno place (by omega)
    -- the rule does not take over at the place that the step begins at
    have hhere : ¬h.TakesOver k compiled seenCode c rest := by
      intro htakes
      have hlength := hlead.total_add_length
      exact hno (Token.total before) (by omega) ⟨_, c, rest, visits, hlead.drop_total, htakes⟩
    have hstep' := (step_insertRule rule hhere).trans hstep
    refine ⟨hvisits.step hstep', _, ?_, ?_, hlead.concat (step_within h hstep).2 category⟩
    · rw [htokens, tokensFrom_of_token hstep, List.append_assoc]
      rfl
    · rw [htokens', tokensFrom_of_token hstep', List.append_assoc]
      rfl

/-- Where the rule takes over nowhere, the tokens are the same. -/
theorem tokensFrom_insertRule (hno : ∀ place, ¬h.TakesOverAt k compiled state text place)
    {rest : List Char} (hv : h.Visits state text seenCode rest) :
    (h.insertRule k rule compiled).tokensFrom seenCode rest = h.tokensFrom seenCode rest := by
  -- on what is left of the text, for the tokenizer without the rule comes to every rest
  induction hlength : rest.length using Nat.strongRecOn generalizing seenCode rest with
  | ind length ih =>
    cases rest with
    | nil => rw [tokensFrom, tokensFrom]
    | cons c rest =>
      have hhere : ¬h.TakesOver k compiled seenCode c rest := by
        intro htakes
        obtain ⟨before, -, hlead⟩ := tokens_of_visits hv
        exact hno (Token.total before) ⟨_, c, rest, hv, hlead.drop_total, htakes⟩
      have hsame := step_insertRule rule hhere
      cases hstep : h.step seenCode c rest with
      | last category next =>
        have hstep' := hsame.trans hstep
        rw [tokensFrom_of_last hstep, tokensFrom_of_last hstep']
      | token n category =>
        have hpos := (step_within h hstep).1
        have hshorter : ((c :: rest).drop n).length < length := by
          rw [← hlength, List.length_drop, List.length_cons]
          omega
        rw [tokensFrom_of_token hstep, tokensFrom_of_token (hsame.trans hstep),
          ih _ hshorter (hv.step hstep) rfl]

/-- Where the rule takes over nowhere, a line has the same tokens and hands on the same. -/
theorem tokens_insertRule (hno : ∀ place, ¬h.TakesOverAt k compiled state text place) :
    (h.insertRule k rule compiled).tokens state text = h.tokens state text := by
  by_cases hcarried : state = .blockComment ∧ h.language.commentEnd ≠ ""
  · cases hend : Marker.endOf? h.language.commentEnd.toList text with
    | none =>
      rw [tokens_of_open hcarried hend,
        tokens_of_open (h := h.insertRule k rule compiled) hcarried hend]
    | some n =>
      rw [tokens_of_closed hcarried hend,
        tokens_of_closed (h := h.insertRule k rule compiled) hcarried hend,
        tokensFrom_insertRule hno (.behindComment hcarried hend)]
  · rw [tokens_of_fresh hcarried, tokens_of_fresh (h := h.insertRule k rule compiled) hcarried,
      tokensFrom_insertRule hno (.start hcarried)]

/-! ## Colors -/

/-- Whether a table with a rule behind the first `k` ones, with the highlighter `h'`, differs from
the table without it only from the places on at which the rule takes over. -/
structure IsConservative (h : PatternHighlighter) (k : Nat) (compiled : CompiledRule)
    (h' : PatternHighlighter) : Prop where
  /-- The colors are the same before each place of a line in front of which there is no such place,
  so before the first such place. -/
  before_place : ∀ line state place,
    (∀ earlier, earlier < place → ¬h.TakesOverAt k compiled state (Line.text line) earlier) →
    (h'.highlighter.colorize line state).1.take place =
      (h.highlighter.colorize line state).1.take place
  /-- At the first such place the match of the rule is painted. -/
  at_place : ∀ state text place, h.TakesOverAt k compiled state text place →
    (∀ earlier, earlier < place → ¬h.TakesOverAt k compiled state text earlier) →
    ∃ n, 0 < n ∧ compiled.Takes (text.drop place) n ∧
      h'.highlighter.PaintsAt state text place n
        (if compiled.category = .identifier then h.words.categoryOf ((text.drop place).take n)
          else compiled.category)
  /-- A line without such a place has the same colors and hands on the same. -/
  of_nowhere : ∀ line state,
    (∀ place, ¬h.TakesOverAt k compiled state (Line.text line) place) →
    h'.highlighter.colorize line state = h.highlighter.colorize line state
  /-- A rule changes nothing if an earlier one has a match wherever it has one. -/
  of_shadowed : (∀ text n, 0 < n → compiled.Takes text n →
      ∃ other ∈ h.rules.take k, ∃ m, 0 < m ∧ other.Takes text m) →
    ∀ line state, h'.highlighter.colorize line state = h.highlighter.colorize line state
  /-- A rule whose matches are all empty changes nothing. -/
  of_empty : (∀ text n, compiled.Takes text n → n = 0) →
    ∀ line state, h'.highlighter.colorize line state = h.highlighter.colorize line state

/-- A rule that takes over nowhere in a line changes nothing of its colors. -/
lemma colorize_insertRule {line : Line}
    (hno : ∀ place, ¬h.TakesOverAt k compiled state (Line.text line) place) :
    (h.insertRule k rule compiled).highlighter.colorize line state =
      h.highlighter.colorize line state := by
  show (Line.paint ((h.insertRule k rule compiled).tokens state (Line.text line)).1 line,
    ((h.insertRule k rule compiled).tokens state (Line.text line)).2) = _
  rw [tokens_insertRule hno]
  rfl

/-- A place behind which more is left comes first. -/
theorem lt_of_add_length_lt {c : Char} {rest : List Char} {first place : Nat}
    (hdrop : text.drop first = c :: rest) (hplace : place + (c :: rest).length < text.length) :
    place < first := by
  have hlength := congrArg List.length hdrop
  rw [List.length_drop] at hlength
  omega

/-- A rule changes no color before the first place at which it takes over. -/
lemma take_colorize_insertRule {line : Line} {place : Nat}
    (hno : ∀ earlier, earlier < place →
      ¬h.TakesOverAt k compiled state (Line.text line) earlier) :
    ((h.insertRule k rule compiled).highlighter.colorize line state).1.take place =
      (h.highlighter.colorize line state).1.take place := by
  classical
  by_cases hsome : ∃ first, h.TakesOverAt k compiled state (Line.text line) first
  · -- up to the first place where the rule takes over the tokens are the same
    have hle : place ≤ Nat.find hsome :=
      Nat.le_of_not_lt fun hlt => hno _ hlt (Nat.find_spec hsome)
    obtain ⟨seenCode, c, rest, hv, hdrop, -⟩ := Nat.find_spec hsome
    obtain ⟨-, before, htokens, htokens', hlead⟩ := visits_insertRule rule hv
      fun earlier hearlier => Nat.find_min hsome (lt_of_add_length_lt hdrop hearlier)
    have hlength := hlead.total_add_length
    have htotal : Token.total before = Nat.find hsome := by
      have hrest := congrArg List.length hdrop
      rw [List.length_drop, List.length_cons] at hrest
      rw [List.length_cons] at hlength
      omega
    -- the common tokens cover the line up to that place
    have htext : Token.total before ≤ line.length := by
      rw [Line.length_text] at hlength
      omega
    have hsame : (Line.paint (h.tokens state (Line.text line)).1 line).take (Token.total before) =
        (Line.paint ((h.insertRule k rule compiled).tokens state (Line.text line)).1 line).take
          (Token.total before) := by
      rw [htokens, htokens', Line.take_paint_append _ _ _ htext,
        Line.take_paint_append _ _ _ htext]
    have htake := congrArg (List.take place) hsame
    rw [List.take_take, List.take_take, htotal, Nat.min_eq_left hle] at htake
    exact htake.symm
  · rw [colorize_insertRule fun first hfirst => hsome ⟨first, hfirst⟩]

/-- At the first place where the rule takes over, the tokenizer comes there with it too, and its
match is the token. -/
theorem paintsAt_insertRule {place : Nat} (htakes : h.TakesOverAt k compiled state text place)
    (hno : ∀ earlier, earlier < place → ¬h.TakesOverAt k compiled state text earlier) :
    ∃ n, 0 < n ∧ compiled.Takes (text.drop place) n ∧
      (h.insertRule k rule compiled).highlighter.PaintsAt state text place n
        (if compiled.category = .identifier then h.words.categoryOf ((text.drop place).take n)
          else compiled.category) := by
  obtain ⟨seenCode, c, rest, hv, hdrop, ⟨hasks, hdeclined, n, hpos, hmatch⟩⟩ := htakes
  obtain ⟨hv', -⟩ := visits_insertRule rule hv fun earlier hearlier =>
    hno earlier (lt_of_add_length_lt hdrop hearlier)
  have hasks' : (h.insertRule k rule compiled).AsksRules seenCode c rest :=
    ⟨hasks.notBlank, hasks.noComment, hasks.noLineComment, hasks.noDirective⟩
  have hwins : CompiledRule.Wins (h.insertRule k rule compiled).rules (c :: rest) compiled n :=
    ⟨hpos, hmatch, h.rules.take k, h.rules.drop k, rfl, hdeclined⟩
  have hplace : place = text.length - (c :: rest).length := by
    have hlength := congrArg List.length hdrop
    rw [List.length_drop, List.length_cons] at hlength
    rw [List.length_cons]
    omega
  -- the rules before it are declined, so the new rule wins in the longer table
  rw [hdrop]
  refine ⟨n, hpos, hmatch, ?_⟩
  rw [hplace]
  exact paintsAt_of_visits hv' (step_of_wins hasks' hwins)

/-- One rule more, wherever it stands in an accepted table, leaves the table accepted and changes
nothing but from the first place on at which the rules are asked, no rule before it has a match that
is not empty, and it has one. -/
theorem isConservative_insertRule (hcompiled : ofLanguage language = .ok h)
    (hrule : rule.compile language.name language.caseSensitive = .ok compiled) (k : Nat) :
    ∃ h', ofLanguage (language.insertRule k rule) = .ok h' ∧ IsConservative h k compiled h' := by
  refine ⟨_, ofLanguage_insertRule hcompiled hrule k, ?_⟩
  constructor
  case before_place => exact fun line state place hno => take_colorize_insertRule hno
  case at_place => exact fun state text place htakes hno => paintsAt_insertRule htakes hno
  case of_nowhere => exact fun line state hno => colorize_insertRule hno
  case of_shadowed =>
    intro hshadowed line state
    refine colorize_insertRule ?_
    rintro place ⟨seenCode, c, rest, -, -, -, hdeclined, n, hpos, htakes⟩
    -- where the rule would take over an earlier rule has taken something
    obtain ⟨other, hmem, m, hm, hother⟩ := hshadowed _ n hpos htakes
    exact Nat.ne_of_gt hm (hdeclined other hmem m hother)
  case of_empty =>
    intro hempty line state
    refine colorize_insertRule ?_
    rintro place ⟨seenCode, c, rest, -, -, -, -, n, hpos, htakes⟩
    exact Nat.ne_of_gt hpos (hempty _ n htakes)

/-- A table whose words are runs of letters. -/
def lettersTable : Language :=
  { name := "T", rules := [{ pattern := "[a-z]+", category := .identifier }] }

/-- A rule in front that may match nothing has no part in what begins with another letter. -/
theorem isConservative_emptyMatch : ∃ h h' compiled, ofLanguage lettersTable = .ok h ∧
    Rule.compile { pattern := "x*", category := .keyword } "T" true = .ok compiled ∧
    ofLanguage (lettersTable.insertRule 0 { pattern := "x*", category := .keyword }) = .ok h' ∧
    IsConservative h 0 compiled h' ∧
    h.highlighter.colorize (Line.ofText "y xx") .normal =
      (Line.ofChars ['y'] .identifier ++ Line.ofChars [' '] .plain ++
        Line.ofChars ['x', 'x'] .identifier, .normal) ∧
    h'.highlighter.colorize (Line.ofText "y xx") .normal =
      (Line.ofChars ['y'] .identifier ++ Line.ofChars [' '] .plain ++
        Line.ofChars ['x', 'x'] .keyword, .normal) := by
  obtain ⟨h, hcompiled⟩ := @exists_ofLanguage lettersTable (by decide +kernel)
  obtain ⟨compiled, hrule⟩ :=
    @Rule.exists_compile { pattern := "x*", category := .keyword } true (by decide +kernel) "T"
  -- the rule comes first, but where it matches nothing the others are asked
  obtain ⟨h', hcompiled', hconservative⟩ := isConservative_insertRule hcompiled hrule 0
  refine ⟨h, h', compiled, hcompiled, hrule, hcompiled', hconservative, ?_, ?_⟩
  · have hcolored : (ofLanguage lettersTable).toOption.map
        (fun own => own.highlighter.colorize (Line.ofText "y xx") .normal) =
        some (Line.ofChars ['y'] .identifier ++ Line.ofChars [' '] .plain ++
          Line.ofChars ['x', 'x'] .identifier, .normal) := by decide +kernel
    rw [hcompiled] at hcolored
    exact Option.some.inj hcolored
  · have hcolored : (ofLanguage (lettersTable.insertRule 0 ⟨"x*", .keyword⟩)).toOption.map
        (fun own => own.highlighter.colorize (Line.ofText "y xx") .normal) =
        some (Line.ofChars ['y'] .identifier ++ Line.ofChars [' '] .plain ++
          Line.ofChars ['x', 'x'] .keyword, .normal) := by decide +kernel
    rw [hcompiled'] at hcolored
    exact Option.some.inj hcolored

end PatternHighlighter

end Highlight
