import Highlight.Proofs.Marker
import Highlight.Proofs.Painting
import Highlight.Proofs.Text.Slices

/-!
# Two cursors on one line

A line is colored in place, with a cursor that counts glyphs and one that counts bytes. Comments,
blanks and directives are looked for among the glyphs, and rules in the text of the line from the
cursor in bytes on. Here this loop is written out with both cursors, and with no value where a slice
of the line or of its text is out of bounds or inside a character. The cursors stay in step whatever
way the matches of the rules are measured (`keepsStep`), and with the measure of the rules
themselves the loop colors the line as `PatternHighlighter.highlighter` does.
-/

namespace Highlight

namespace PatternHighlighter

/-- A way to measure the match of a rule in the bytes of a text; a match never ends inside a
character or behind the text. -/
structure Measure where
  bytes? : CompiledRule → String → Option Nat
  isValid {rule : CompiledRule} {text : String} {n : Nat} :
    bytes? rule text = some n → String.Pos.Raw.IsValid text ⟨n⟩

/-- The measure that the rules have of themselves. -/
def Measure.ofRules : Measure where
  bytes? rule text := rule.matchBytes? text.toList
  isValid {rule text n} h := by
    obtain ⟨k, -, rfl⟩ := Option.map_eq_some_iff.1 h
    rw [← utf8ByteSize_ofList]
    exact String.Pos.Raw.isValid_iff_exists_take_toList.2 ⟨k, rfl⟩

/-- The first rule with a match that is not empty, and the number of bytes of the match. -/
def Measure.first? (measure : Measure) (rules : List CompiledRule) (text : String) :
    Option (CompiledRule × Nat) :=
  rules.findSome? fun rule => ((measure.bytes? rule text).filter (0 < ·)).map (rule, ·)

/-- Where the loop is in a line that is colored up to there. -/
structure Cursors where
  line : Line
  /-- The number of glyphs that have been read. -/
  glyph : Nat
  /-- The number of bytes that have been read of the text. -/
  byte : Nat
  /-- Whether something that is not blank has been read. -/
  seenCode : Bool

/-- What one branch of the loop does: it paints some glyphs and goes on behind them, or it paints
all that is left. -/
inductive Round where
  | consumed (line : Line) (count : Nat)
  | last (line : Line) (next : LineState)

/-- Where one turn of the loop leads to: to other cursors, or out of it. -/
inductive Turn where
  | next (cursors : Cursors)
  | done (line : Line) (next : LineState)

/-- Paints a comment that stands at `start` and whose body begins at `body`. -/
def commentRound? (language : Language) (line : Line) (start body : Nat) : Option Round :=
  match Marker.findFrom? language.commentEnd.toList (Line.text line) body with
  | some place =>
    let stop := place + language.commentEnd.toList.length
    (Line.paintSlice? .blockComment line start stop).map (.consumed · (stop - start))
  | none => (Line.paintSlice? .blockComment line start line.length).map (.last · .blockComment)

variable (h : PatternHighlighter) (measure : Measure)

/-- The category of a word that a rule matches; an identifier has that of its word. -/
def matchCategory (rule : CompiledRule) (word : List Char) : Category :=
  if rule.category = .identifier then h.words.categoryOf word else rule.category

/-- Paints the match of a rule, of so many bytes of the rest of the text. -/
def matchRound? (line : Line) (start : Nat) (rest : String) (rule : CompiledRule) (bytes : Nat) :
    Option Round := do
  let count := (← Text.upTo? rest bytes).toList.length
  let token ← Line.slice? line start (start + count)
  let category := h.matchCategory rule (Line.text token)
  return .consumed (← Line.paintSlice? category line start (start + count)) count

/-- Paints the match of the first rule that matches the text from the cursor in bytes on, and else a
lone glyph. -/
def ruleRound? (text : String) (cursors : Cursors) : Option Round := do
  let rest ← Text.from? text cursors.byte
  match measure.first? h.rules rest with
  | some (rule, bytes) => h.matchRound? cursors.line cursors.glyph rest rule bytes
  | none =>
    (Line.paintSlice? .plain cursors.line cursors.glyph (cursors.glyph + 1)).map (.consumed · 1)

/-- The branch of the loop that is taken at the character `c` of the text. -/
def round? (text : String) (cursors : Cursors) (c : Char) : Option Round :=
  let ⟨line, start, _, seenCode⟩ := cursors
  let chars := (Line.text line).drop start
  if Unicode.isBlank c then (Line.paintSlice? .plain line start (start + 1)).map (.consumed · 1)
  else if Marker.startsWith h.language.commentStart.toList chars then
    commentRound? h.language line start (start + h.language.commentStart.toList.length)
  else if Marker.startsWith h.language.lineComment.toList chars then
    (Line.paintSlice? .comment line start line.length).map (.last · .normal)
  else if !seenCode && h.language.preprocessor == some c then
    (Line.paintSlice? .preprocessor line start line.length).map (.last · .normal)
  else h.ruleRound? measure text cursors

/-- The cursors behind `count` glyphs at the beginning of a line. -/
def Cursors.behind? (line : Line) (count : Nat) : Option Cursors :=
  (Line.slice? line 0 count).map fun glyphs =>
    { line, glyph := count, byte := utf8Length (Line.text glyphs), seenCode := decide (0 < count) }

/-- The cursors behind `count` more glyphs, the first of them with the character `c`. -/
def Cursors.advance? (cursors : Cursors) (c : Char) (line : Line) (count : Nat) : Option Cursors :=
  (Line.slice? line cursors.glyph (cursors.glyph + count)).map fun glyphs =>
    { line
      glyph := cursors.glyph + count
      byte := cursors.byte + utf8Length (Line.text glyphs)
      seenCode := cursors.seenCode || !Unicode.isBlank c }

/-- One turn of the loop. -/
def turn? (text : String) (cursors : Cursors) : Option Turn :=
  match cursors.line[cursors.glyph]? with
  | none => some (.done cursors.line .normal)
  | some glyph => do
    match ← h.round? measure text cursors glyph.char with
    | .consumed line count => (cursors.advance? glyph.char line count).map .next
    | .last line next => return .done line next

/-- What comes before the loop: a comment that is carried into the line. -/
def enter? (line : Line) (state : LineState) : Option Turn :=
  if state = .blockComment ∧ h.language.commentEnd ≠ "" then do
    match ← commentRound? h.language line 0 0 with
    | .consumed line count => (Cursors.behind? line count).map .next
    | .last line next => return .done line next
  else (Cursors.behind? line 0).map .next

/-- The loop, for so many turns at most. -/
def loop? (text : String) : Nat → Cursors → Option (Line × LineState)
  | 0, _ => none
  | turns + 1, cursors => do
    match ← h.turn? measure text cursors with
    | .next cursors => loop? text turns cursors
    | .done line next => return (line, next)

/-- Colors a line with so many turns of the loop at most. -/
def colorizeWithin? (turns : Nat) (line : Line) (state : LineState) :
    Option (Line × LineState) := do
  match ← h.enter? line state with
  | .next cursors => h.loop? measure (String.ofList (Line.text cursors.line)) turns cursors
  | .done line next => return (line, next)

/-- Whether the loop comes by these cursors when it colors a line. -/
inductive Reaches (line : Line) (state : LineState) : Cursors → Prop
  | enter {cursors : Cursors} :
    h.enter? line state = some (.next cursors) → Reaches line state cursors
  | turn {cursors next : Cursors} : Reaches line state cursors →
    h.turn? measure (String.ofList (Line.text line)) cursors = some (.next next) →
    Reaches line state next

/-! ## The cursors in step -/

/-- The cursors in front of a glyph of a line. -/
def Cursors.inFront (line : Line) (glyph : Nat) (seenCode : Bool) : Cursors :=
  { line, glyph, byte := utf8Length ((Line.text line).take glyph), seenCode }

/-- Whether the cursors stand in front of the same character of a text. -/
structure Cursors.InStep (text : List Char) (cursors : Cursors) : Prop where
  text_eq : Line.text cursors.line = text
  glyph_le : cursors.glyph ≤ text.length
  byte_eq : cursors.byte = utf8Length (text.take cursors.glyph)

/-- The round that paints the token of a step. -/
def Step.round (line : Line) (start : Nat) : Step → Round
  | .token length category => .consumed (Line.repaint category line start length) length
  | .last category next => .last (line.take start ++ Line.fill category (line.drop start)) next

variable {h measure} {text : List Char} {cursors : Cursors} {line : Line} {state : LineState}

namespace Cursors.InStep

/-- Cursors behind the first glyphs of a line are in step. -/
theorem inFront {glyph : Nat} (htext : Line.text line = text) (hle : glyph ≤ text.length)
    (seenCode : Bool) : InStep text (.inFront line glyph seenCode) :=
  ⟨htext, hle, by rw [Cursors.inFront, htext]⟩

lemma length_eq (hin : InStep text cursors) : cursors.line.length = text.length := by
  rw [← hin.text_eq, Line.length_text]

/-- The slice of the text from the cursor in bytes on holds the characters from the other on. -/
theorem from?_byte (hin : InStep text cursors) :
    Text.from? (String.ofList text) cursors.byte =
      some (String.ofList (text.drop cursors.glyph)) := by
  rw [hin.byte_eq, Text.from?_utf8Length]

/-- The glyph at the cursors is that of the next character. -/
theorem exists_drop_eq (hin : InStep text cursors) {c : Char} {rest : List Char}
    (hrest : text.drop cursors.glyph = c :: rest) :
    ∃ glyph others, cursors.line.drop cursors.glyph = glyph :: others ∧ glyph.char = c ∧
      Line.text others = rest := by
  rw [← hin.text_eq, ← Line.text_drop] at hrest
  exact List.map_eq_cons_iff.1 hrest

end Cursors.InStep

/-- A comment is painted within the line. -/
theorem commentRound?_eq (language : Language) (opening : Nat) {start : Nat}
    (htext : Line.text line = text) (hle : start ≤ text.length) :
    commentRound? language line start (start + opening) =
      some ((commentStep language opening (text.drop start)).round line start) := by
  have hlength : line.length = text.length := by
    rw [← htext, Line.length_text]
  rw [commentRound?, commentStep, Marker.findFrom?_eq, htext, List.drop_drop]
  cases hend : Marker.endOf? language.commentEnd.toList (text.drop (start + opening)) with
  | none =>
    rw [Option.map_eq_none_iff.1 hend, Option.map_none]
    simp only
    rw [Line.paintSlice?_length (hlength ▸ hle)]
    rfl
  | some n =>
    have hpos := Marker.endOf?_pos hend
    have hwithin := Marker.endOf?_le hend
    rw [List.length_drop] at hwithin
    obtain ⟨place, hfind, rfl⟩ := Option.map_eq_some_iff.1 hend
    rw [hfind, Option.map_some]
    simp only
    rw [show start + opening + place + language.commentEnd.toList.length =
        start + (opening + (place + language.commentEnd.toList.length)) by omega,
      Line.paintSlice?_add (by omega), Nat.add_sub_cancel_left]
    rfl

/-- What is measured is not empty and ends between two characters. -/
theorem Measure.valid_of_first? {rules : List CompiledRule} {rest : String} {rule : CompiledRule}
    {bytes : Nat} (hfirst : measure.first? rules rest = some (rule, bytes)) :
    0 < bytes ∧ String.Pos.Raw.IsValid rest ⟨bytes⟩ := by
  obtain ⟨candidate, -, hmatch⟩ := List.exists_of_findSome?_eq_some hfirst
  obtain ⟨n, hn, hpair⟩ := Option.map_eq_some_iff.1 hmatch
  obtain ⟨hbytes, hpos⟩ := Option.filter_eq_some_iff.1 hn
  cases hpair
  exact ⟨of_decide_eq_true hpos, measure.isValid hbytes⟩

/-- By the measure of the rules themselves, the first match is that of the table. -/
theorem Measure.first?_ofRules (rules : List CompiledRule) (text : List Char) :
    Measure.ofRules.first? rules (String.ofList text) = matchRules? rules text := by
  unfold Measure.first? matchRules?
  refine congrArg (List.findSome? · rules) (funext fun rule => ?_)
  show ((rule.matchBytes? (String.ofList text).toList).filter (0 < ·)).map _ = _
  rw [String.toList_ofList]
  cases rule.matchBytes? text with
  | none => rfl
  | some n =>
    simp only [Option.filter_some, decide_eq_true_eq]
    split <;> rfl

/-- The match of a rule is painted within the line: so many glyphs as hold its bytes. -/
theorem exists_matchRound? (hin : cursors.InStep text) {rule : CompiledRule} {bytes : Nat}
    (hfirst : measure.first? h.rules (String.ofList (text.drop cursors.glyph)) =
      some (rule, bytes)) :
    ∃ count, Within count (text.drop cursors.glyph) ∧
      bytes = utf8Length ((text.drop cursors.glyph).take count) ∧
      h.matchRound? cursors.line cursors.glyph (String.ofList (text.drop cursors.glyph)) rule
          bytes =
        some (Step.round cursors.line cursors.glyph
          (.token count (h.matchCategory rule ((text.drop cursors.glyph).take count)))) := by
  -- the bytes are those of `count` whole characters
  obtain ⟨hpos, hvalid⟩ := Measure.valid_of_first? hfirst
  obtain ⟨count, hcount, hle, rfl⟩ := Text.exists_take_of_isValid hpos hvalid
  refine ⟨count, ⟨hcount, hle⟩, rfl, ?_⟩
  have hlength : ((text.drop cursors.glyph).take count).length = count :=
    List.length_take_of_le hle
  rw [List.length_drop] at hle
  have hbound : cursors.glyph + count ≤ cursors.line.length := by
    rw [hin.length_eq]
    have := hin.glyph_le
    omega
  rw [matchRound?, Text.upTo?_utf8Length]
  simp only [Option.bind_eq_bind, Option.bind_some, String.toList_ofList, hlength,
    Line.slice?_add hbound, Line.paintSlice?_add hbound, Line.text_slice, hin.text_eq]
  rfl

/-- Whether the token of a step is within a text. -/
def Step.Fits (text : List Char) : Step → Prop
  | .token length _ => Within length text
  | .last _ _ => True

/-- What a rule or a lone glyph is painted for fits in the line, and by the measure of the rules
themselves it is the step of the table. -/
theorem exists_ruleRound? (h : PatternHighlighter) (measure : Measure) (hin : cursors.InStep text)
    {c : Char} {rest : List Char} (hrest : text.drop cursors.glyph = c :: rest) :
    ∃ step : Step, h.ruleRound? measure (String.ofList text) cursors =
        some (step.round cursors.line cursors.glyph) ∧
      step.Fits (c :: rest) ∧
      (measure = Measure.ofRules → step = (h.ruleStep? (c :: rest)).getD (.token 1 .plain)) := by
  simp only [ruleRound?, hin.from?_byte, hrest, Option.bind_eq_bind, Option.bind_some]
  cases hfirst : measure.first? h.rules (String.ofList (c :: rest)) with
  | none =>
    refine ⟨.token 1 .plain, ?_, Within.one (List.cons_ne_nil c rest), ?_⟩
    · -- no rule takes anything, and the glyph alone is within the line
      have hnext := congrArg List.length hrest
      rw [List.length_drop, ← hin.length_eq, List.length_cons] at hnext
      rw [Line.paintSlice?_add (by omega)]
      rfl
    · rintro rfl
      rw [Measure.first?_ofRules] at hfirst
      rw [ruleStep?, hfirst]
      rfl
  | some found =>
    obtain ⟨rule, bytes⟩ := found
    obtain ⟨count, hwithin, hbytes, hround⟩ := exists_matchRound? hin (by rw [hrest, hfirst])
    rw [hrest] at hwithin hbytes hround
    refine ⟨_, hround, hwithin, ?_⟩
    rintro rfl
    rw [Measure.first?_ofRules] at hfirst
    rw [ruleStep?, hfirst, Option.map_some, Option.getD_some]
    simp only [hbytes, glyphsWithin_utf8Length _ _ hwithin.2]
    rfl

/-- Every branch of the loop paints the token of a step, without a slice that is out of bounds, and
by the measure of the rules themselves that is the step of the table. -/
theorem exists_round? (h : PatternHighlighter) (measure : Measure) (hin : cursors.InStep text)
    {c : Char} {rest : List Char} (hrest : text.drop cursors.glyph = c :: rest) :
    ∃ step : Step, h.round? measure (String.ofList text) cursors c =
        some (step.round cursors.line cursors.glyph) ∧
      step.Fits (c :: rest) ∧
      (measure = Measure.ofRules → step = h.step cursors.seenCode c rest) := by
  have hchars : (Line.text cursors.line).drop cursors.glyph = c :: rest := by
    rw [hin.text_eq, hrest]
  have hlength : (c :: rest).length = cursors.line.length - cursors.glyph := by
    rw [← hrest, List.length_drop, hin.length_eq]
  have hone : Within 1 (c :: rest) := Within.one (List.cons_ne_nil c rest)
  have hnext : cursors.glyph + 1 ≤ cursors.line.length := by
    rw [List.length_cons] at hlength
    omega
  unfold round? step
  simp only [hchars]
  -- the branches of the loop ask what a step of the table asks, in the same order
  by_cases hblank : Unicode.isBlank c = true
  · refine ⟨.token 1 .plain, ?_, hone, fun _ => ?_⟩
    · rw [if_pos hblank, Line.paintSlice?_add hnext]
      rfl
    · rw [if_pos hblank]
  simp only [if_neg hblank]
  by_cases hcomment : Marker.startsWith h.language.commentStart.toList (c :: rest) = true
  · refine ⟨commentStep h.language h.language.commentStart.toList.length (c :: rest), ?_, ?_,
      fun _ => ?_⟩
    · rw [if_pos hcomment, commentRound?_eq h.language _ hin.text_eq hin.glyph_le, hrest]
    · cases hstep : commentStep h.language h.language.commentStart.toList.length (c :: rest) with
      | token length category => exact commentStep_within hstep
      | last category next => trivial
    · rw [if_pos hcomment]
  simp only [if_neg hcomment]
  by_cases hline : Marker.startsWith h.language.lineComment.toList (c :: rest) = true
  · refine ⟨.last .comment .normal, ?_, trivial, fun _ => ?_⟩
    · rw [if_pos hline, Line.paintSlice?_length (by omega)]
      rfl
    · rw [if_pos hline]
  simp only [if_neg hline]
  by_cases hdirective : (!cursors.seenCode && h.language.preprocessor == some c) = true
  · refine ⟨.last .preprocessor .normal, ?_, trivial, fun _ => ?_⟩
    · rw [if_pos hdirective, Line.paintSlice?_length (by omega)]
      rfl
    · rw [if_pos hdirective]
  simp only [if_neg hdirective]
  exact exists_ruleRound? h measure hin hrest

/-- The line that the table makes of a line that is colored up to the cursors, and its state. -/
def colored (h : PatternHighlighter) (cursors : Cursors) : Line × LineState :=
  let rest := h.colorizeFrom cursors.seenCode (cursors.line.drop cursors.glyph)
  (cursors.line.take cursors.glyph ++ rest.1, rest.2)

/-- The line that the table makes of what a turn leads to, and its state. -/
def Turn.colored (h : PatternHighlighter) : Turn → Line × LineState
  | next cursors => h.colored cursors
  | done line last => (line, last)

/-- Whether the cursors that a turn leads to are in step. -/
def Turn.InStep (text : List Char) : Turn → Prop
  | next cursors => cursors.InStep text
  | done _ _ => True

/-- Whether a turn paints exactly the glyphs that it takes: it leads behind glyphs that are put into
one category, at least one and no more than are left, or out of the loop with all that is left in
one category. -/
inductive Turn.Exact (cursors : Cursors) : Turn → Prop
  | next {after : Cursors} {count : Nat} (category : Category) (hpos : 0 < count)
    (hle : cursors.glyph + count ≤ cursors.line.length)
    (hline : after.line = Line.repaint category cursors.line cursors.glyph count)
    (hglyph : after.glyph = cursors.glyph + count) : Exact cursors (.next after)
  | done (category : Category) (last : LineState) :
    Exact cursors (.done (cursors.line.take cursors.glyph ++
      Line.fill category (cursors.line.drop cursors.glyph)) last)

/-- A turn that takes glyphs leads further on in the line. -/
theorem Turn.Exact.lt {next : Cursors} (h : Turn.Exact cursors (.next next)) :
    cursors.glyph < next.glyph := by
  cases h with
  | next category hpos hle hline hglyph => omega

/-- The table goes on behind the token of a step as it does behind the glyphs painted for it. -/
theorem colored_of_token (hin : cursors.InStep text) {c : Char} {rest : List Char}
    (hrest : text.drop cursors.glyph = c :: rest) {count : Nat} {category : Category}
    (hstep : h.step cursors.seenCode c rest = .token count category)
    (hbound : cursors.glyph + count ≤ cursors.line.length) :
    h.colored (.inFront (Line.repaint category cursors.line cursors.glyph count)
        (cursors.glyph + count) (cursors.seenCode || !Unicode.isBlank c)) =
      h.colored cursors := by
  obtain ⟨glyph, others, hline, rfl, rfl⟩ := hin.exists_drop_eq hrest
  rw [colored, Cursors.inFront, Line.take_repaint _ hbound, Line.drop_repaint _ hbound, colored,
    hline, colorizeFrom_cons]
  simp only [hstep]
  rw [← List.drop_drop, hline, List.append_assoc]

/-- A step that ends the line paints all that is left. -/
theorem colored_of_last (hin : cursors.InStep text) {c : Char} {rest : List Char}
    (hrest : text.drop cursors.glyph = c :: rest) {category : Category} {next : LineState}
    (hstep : h.step cursors.seenCode c rest = .last category next) :
    h.colored cursors =
      (cursors.line.take cursors.glyph ++ Line.fill category (cursors.line.drop cursors.glyph),
        next) := by
  obtain ⟨glyph, others, hline, rfl, rfl⟩ := hin.exists_drop_eq hrest
  rw [colored, hline, colorizeFrom_cons]
  simp only [hstep]

/-- Behind glyphs that have been painted the cursors are in step again. -/
theorem advance?_repaint (hin : cursors.InStep text) (c : Char) {count : Nat}
    (hbound : cursors.glyph + count ≤ cursors.line.length) (category : Category) :
    cursors.advance? c (Line.repaint category cursors.line cursors.glyph count) count =
      some (.inFront (Line.repaint category cursors.line cursors.glyph count)
        (cursors.glyph + count) (cursors.seenCode || !Unicode.isBlank c)) := by
  have hkept : Line.text (Line.repaint category cursors.line cursors.glyph count) = text := by
    rw [Line.text_repaint, hin.text_eq]
  have hlength := Line.length_repaint category cursors.line cursors.glyph count
  have hbyte : cursors.byte + utf8Length ((text.drop cursors.glyph).take count) =
      utf8Length (text.take (cursors.glyph + count)) := by
    rw [hin.byte_eq, List.take_add, utf8Length_append]
  rw [Cursors.advance?, Line.slice?_add (hlength ▸ hbound), Option.map_some, Line.text_slice,
    hkept, hbyte, Cursors.inFront, hkept]

/-- A turn of the loop takes no slice out of bounds, paints what it takes and leaves the cursors in
step. -/
theorem exists_turn? (h : PatternHighlighter) (measure : Measure) (hin : cursors.InStep text) :
    ∃ turn, h.turn? measure (String.ofList text) cursors = some turn ∧ turn.InStep text ∧
      turn.Exact cursors ∧
      (measure = Measure.ofRules → turn.colored h = h.colored cursors) := by
  unfold turn?
  cases hglyph : cursors.line[cursors.glyph]? with
  | none =>
    -- no glyph is left, and none is colored any more
    have hend := List.getElem?_eq_none_iff.1 hglyph
    have hexact : Turn.Exact cursors (.done (cursors.line.take cursors.glyph ++
        Line.fill .plain (cursors.line.drop cursors.glyph)) .normal) := .done .plain .normal
    rw [List.drop_eq_nil_of_le hend, List.take_of_length_le hend, Line.fill, List.map_nil,
      List.append_nil] at hexact
    refine ⟨_, rfl, trivial, hexact, fun _ => ?_⟩
    rw [colored, List.drop_eq_nil_of_le hend, List.take_of_length_le hend]
    simp [Turn.colored, colorizeFrom, tokensFrom, Line.text, Line.paint]
  | some glyph =>
    obtain ⟨hlt, hat⟩ := List.getElem?_eq_some_iff.1 hglyph
    have hrest : text.drop cursors.glyph =
        glyph.char :: Line.text (cursors.line.drop (cursors.glyph + 1)) := by
      rw [← hin.text_eq, ← Line.text_drop, List.drop_eq_getElem_cons hlt, hat]
      rfl
    obtain ⟨step, hround, hfits, hstep⟩ := exists_round? h measure hin hrest
    simp only [hround, Option.bind_eq_bind, Option.bind_some]
    cases step with
    | token count category =>
      obtain ⟨hpos, hle⟩ := hfits
      have hbound : cursors.glyph + count ≤ cursors.line.length := by
        rw [← hrest, List.length_drop, ← hin.length_eq] at hle
        omega
      have hkept : Line.text (Line.repaint category cursors.line cursors.glyph count) = text := by
        rw [Line.text_repaint, hin.text_eq]
      simp only [Step.round, advance?_repaint hin glyph.char hbound]
      refine ⟨_, rfl, Cursors.InStep.inFront hkept (hin.length_eq ▸ hbound) _,
        .next category hpos hbound rfl rfl, fun hown => ?_⟩
      exact colored_of_token hin hrest (hstep hown).symm hbound
    | last category next =>
      refine ⟨_, rfl, trivial, .done category next, fun hown => ?_⟩
      exact (colored_of_last hin hrest (hstep hown).symm).symm

/-- The slice in front is there to be measured, and the cursors behind it are in step. -/
lemma behind?_eq {count : Nat} (hle : count ≤ (Line.text line).length) :
    Cursors.behind? line count = some (.inFront line count (decide (0 < count))) := by
  rw [Line.length_text] at hle
  rw [Cursors.behind?, Line.slice?_zero hle, Option.map_some]
  simp only [Line.text, List.map_take]
  rfl

/-- A comment that is carried in is painted and leaves the cursors in step, and the table goes on
behind it. -/
theorem exists_enter? (h : PatternHighlighter) (line : Line) (state : LineState) :
    ∃ turn, h.enter? line state = some turn ∧ turn.InStep (Line.text line) ∧
      (turn = .next (.inFront line 0 false) ∨ turn.Exact (.inFront line 0 false)) ∧
      turn.colored h = h.highlighter.colorize line state := by
  unfold enter?
  rw [colorize_eq]
  by_cases hcomment : state = .blockComment ∧ h.language.commentEnd ≠ ""
  · have hround : commentRound? h.language line 0 0 =
        some ((commentStep h.language 0 (Line.text line)).round line 0) :=
      commentRound?_eq h.language 0 rfl (Nat.zero_le _)
    rw [if_pos hcomment, if_pos hcomment, hround, commentStep, List.drop_zero]
    cases hend : Marker.endOf? h.language.commentEnd.toList (Line.text line) with
    | none => exact ⟨_, rfl, trivial, .inr (.done .blockComment .blockComment), rfl⟩
    | some n =>
      have hpos := Marker.endOf?_pos hend
      have hle := Marker.endOf?_le hend
      have hkept := Line.text_repaint .blockComment line 0 n
      have hbound : 0 + n ≤ line.length := by
        rwa [Nat.zero_add, ← Line.length_text]
      have hbehind : Cursors.behind? (Line.repaint .blockComment line 0 n) n =
          some (.inFront (Line.repaint .blockComment line 0 n) n true) := by
        rw [behind?_eq (by rw [hkept]; exact hle), decide_eq_true hpos]
      simp only [Nat.zero_add, Step.round, Option.bind_eq_bind, Option.bind_some, hbehind]
      refine ⟨_, rfl, Cursors.InStep.inFront hkept hle true,
        .inr (.next .blockComment hpos hbound rfl (Nat.zero_add n).symm), ?_⟩
      have htake := Line.take_repaint .blockComment hbound
      have hdrop := Line.drop_repaint .blockComment hbound
      rw [Nat.zero_add] at htake hdrop
      rw [Turn.colored, colored, Cursors.inFront, htake, hdrop]
      rfl
  · rw [if_neg hcomment, if_neg hcomment]
    exact ⟨.next (.inFront line 0 false), rfl,
      Cursors.InStep.inFront rfl (Nat.zero_le _) _, .inl rfl, rfl⟩

/-- From cursors in step the loop ends, and it does so before more turns than there are glyphs left.
-/
theorem exists_loop? (h : PatternHighlighter) (measure : Measure) (hin : cursors.InStep text) :
    ∃ result, (∀ turns, text.length - cursors.glyph < turns →
        h.loop? measure (String.ofList text) turns cursors = some result) ∧
      (measure = Measure.ofRules → result = h.colored cursors) := by
  -- the induction is on the number of glyphs left, of which a turn takes at least one
  generalize hleft : text.length - cursors.glyph = left
  induction left using Nat.strongRecOn generalizing cursors with
  | ind left ih =>
    obtain ⟨turn, hturn, hturnIn, hexact, hcolored⟩ := exists_turn? h measure hin
    cases turn with
    | done line next =>
      refine ⟨(line, next), fun turns hturns => ?_, hcolored⟩
      obtain ⟨k, rfl⟩ : ∃ k, turns = k + 1 := ⟨turns - 1, by omega⟩
      rw [loop?, hturn]
      rfl
    | next next =>
      have hlt := hexact.lt
      have hle := hturnIn.glyph_le
      obtain ⟨result, hresult, hequal⟩ := ih (text.length - next.glyph) (by omega) hturnIn rfl
      refine ⟨result, fun turns hturns => ?_, fun hown => ?_⟩
      · obtain ⟨k, rfl⟩ : ∃ k, turns = k + 1 := ⟨turns - 1, by omega⟩
        rw [loop?, hturn]
        exact hresult k (by omega)
      · rw [hequal hown]
        exact hcolored hown

/-- All cursors that the loop comes by are in step. -/
theorem inStep_of_reaches (hreaches : h.Reaches measure line state cursors) :
    cursors.InStep (Line.text line) := by
  induction hreaches with
  | enter henter =>
    obtain ⟨turn, hturn, hin, -, -⟩ := exists_enter? h line state
    cases hturn.symm.trans henter
    exact hin
  | turn _ hnext ih =>
    obtain ⟨turn, hturn, hin, -, -⟩ := exists_turn? h measure ih
    cases hturn.symm.trans hnext
    exact hin

/-- The line is colored in no more turns than it has glyphs, and one to see that none is left. -/
theorem exists_colorizeWithin? (h : PatternHighlighter) (measure : Measure) (line : Line)
    (state : LineState) :
    ∃ result, (∀ turns, line.length < turns →
        h.colorizeWithin? measure turns line state = some result) ∧
      (measure = Measure.ofRules → result = h.highlighter.colorize line state) := by
  obtain ⟨turn, hturn, hin, -, hcolored⟩ := exists_enter? h line state
  simp only [colorizeWithin?, hturn, Option.bind_eq_bind, Option.bind_some]
  cases turn with
  | done line next => exact ⟨_, fun _ _ => rfl, fun _ => hcolored⟩
  | next cursors =>
    obtain ⟨result, hresult, hown⟩ := exists_loop? h measure hin
    have hlength := Line.length_text line
    refine ⟨result, fun turns hturns => ?_, fun hmeasure => (hown hmeasure).trans hcolored⟩
    rw [← hresult turns (by omega)]
    exact congrArg (fun text => h.loop? measure (String.ofList text) turns cursors) hin.text_eq

/-- Whether the two cursors stay in step while a line is colored, whatever way the matches of the
rules are measured. -/
structure KeepsStep (h : PatternHighlighter) (measure : Measure) (line : Line)
    (state : LineState) : Prop where
  /-- The cursor in bytes counts those of the glyphs read, within a line of the same characters. -/
  inStep : ∀ cursors, h.Reaches measure line state cursors → cursors.InStep (Line.text line)
  /-- The text from that byte on can be sliced and holds the glyphs that are left. -/
  from_byte : ∀ cursors, h.Reaches measure line state cursors →
    Text.from? (String.ofList (Line.text line)) cursors.byte =
      some (String.ofList (Line.text (cursors.line.drop cursors.glyph)))
  /-- The match of a rule is painted on exactly the glyphs that its bytes encode, at least one. -/
  paints : ∀ cursors, h.Reaches measure line state cursors → ∀ rest rule bytes,
    Text.from? (String.ofList (Line.text line)) cursors.byte = some rest →
    measure.first? h.rules rest = some (rule, bytes) →
    ∃ count word, 0 < count ∧ cursors.glyph + count ≤ cursors.line.length ∧
      word = Line.text ((cursors.line.drop cursors.glyph).take count) ∧
      bytes = utf8Length word ∧ Text.upTo? rest bytes = some (String.ofList word) ∧
      h.matchRound? cursors.line cursors.glyph rest rule bytes =
        some (.consumed
          (Line.repaint (h.matchCategory rule word) cursors.line cursors.glyph count) count)
  /-- Before the loop no slice is out of bounds. -/
  enters : ∃ turn, h.enter? line state = some turn
  /-- In no turn is a slice out of bounds, and each turn leads further on in the line. -/
  turns : ∀ cursors, h.Reaches measure line state cursors →
    ∃ turn, h.turn? measure (String.ofList (Line.text line)) cursors = some turn ∧
      ∀ next, turn = .next next → cursors.glyph < next.glyph
  /-- The loop ends, before it has made more turns than there are glyphs and one. -/
  ends : ∃ result, ∀ turns, line.length < turns →
    h.colorizeWithin? measure turns line state = some result

/-- The cursors never drift apart, and by the measure of the rules themselves the loop colors the
line as the tokens of the table do. -/
theorem keepsStep (h : PatternHighlighter) (line : Line) (state : LineState) :
    (∀ measure, h.KeepsStep measure line state) ∧
      ∀ turns, line.length < turns →
        h.colorizeWithin? Measure.ofRules turns line state =
          some (h.highlighter.colorize line state) := by
  refine ⟨fun measure => ?_, fun turns hturns => ?_⟩
  · -- at the byte that the loop has come to the text goes on as at the glyph
    have hrest : ∀ cursors, h.Reaches measure line state cursors →
        Text.from? (String.ofList (Line.text line)) cursors.byte =
          some (String.ofList ((Line.text line).drop cursors.glyph)) :=
      fun cursors hreaches => (inStep_of_reaches hreaches).from?_byte
    constructor
    case inStep => exact fun cursors hreaches => inStep_of_reaches hreaches
    case from_byte =>
      intro cursors hreaches
      rw [Line.text_drop, (inStep_of_reaches hreaches).text_eq]
      exact hrest cursors hreaches
    case paints =>
      intro cursors hreaches rest rule bytes hfrom hfirst
      have hin := inStep_of_reaches hreaches
      obtain rfl := Option.some.inj ((hrest cursors hreaches).symm.trans hfrom)
      obtain ⟨count, ⟨hpos, hle⟩, hbytes, hround⟩ := exists_matchRound? hin hfirst
      rw [List.length_drop, ← hin.length_eq] at hle
      have hglyph := hin.length_eq ▸ hin.glyph_le
      refine ⟨count, _, hpos, by omega, ?_, hbytes, ?_, hround⟩
      · rw [Line.text_slice, hin.text_eq]
      · rw [hbytes, Text.upTo?_utf8Length]
    case enters =>
      obtain ⟨turn, hturn, -, -, -⟩ := exists_enter? h line state
      exact ⟨turn, hturn⟩
    case turns =>
      intro cursors hreaches
      obtain ⟨turn, hturn, -, hexact, -⟩ :=
        exists_turn? h measure (inStep_of_reaches hreaches)
      refine ⟨turn, hturn, fun next hnext => ?_⟩
      subst hnext
      exact hexact.lt
    case ends =>
      obtain ⟨result, hresult, -⟩ := exists_colorizeWithin? h measure line state
      exact ⟨result, hresult⟩
  · obtain ⟨result, hresult, hown⟩ := exists_colorizeWithin? h Measure.ofRules line state
    rw [hresult turns hturns, hown rfl]

end PatternHighlighter

end Highlight
