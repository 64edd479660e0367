import Highlight.Proofs.CSharp.Places
import Highlight.Proofs.Marker
import Highlight.Proofs.Painting
import Highlight.Proofs.Text.Slices
import Mathlib.Data.List.Forall2

/-!
# Recognizers in place

A line of C# is colored in place: a recognizer is given the glyphs that are left and the state of
the line, paints some of the glyphs, may write the state, and answers how many glyphs it has taken.
The three are independent of each other, and nothing keeps a recognizer that declines from having
painted before. Here the recognizers and the loop over the line are written out like that, with no
result where an index or a slice is out of bounds or the assertion of the loop fails.

Each recognizer does to its span what its scan says (`outcome`). So what it takes it paints exactly
(`exact_of_mem_attempts`), and the loop colors a line as `CSharp.highlighter` does (`run_loop`).
-/

namespace Highlight.CSharp

/-- What is left of a line that is being colored, and its state. -/
structure Span where
  line : Line
  state : LineState

/-- Work on a span in place, which may fail. -/
abbrev InPlace := StateT Span Option

namespace InPlace

/-- An attempt to take glyphs at the beginning of a span: how many are taken, unless it declines. -/
abbrev Attempt := InPlace (Option Nat)

/-! ## Reading and writing -/

/-- The characters of the span. -/
def text : InPlace (List Char) := fun span => some (Line.text span.line, span)

/-- The character of one glyph, which must be there. -/
def charAt (place : Nat) : InPlace Char := fun span =>
  ((Line.text span.line)[place]?).map (·, span)

/-- The glyphs before `stop`. -/
def slice (stop : Nat) : InPlace Line := fun span =>
  (Line.slice? span.line 0 stop).map (·, span)

/-- Puts the glyphs before `stop` into a category. -/
def paint (category : Category) (stop : Nat) : InPlace Unit := fun span =>
  (Line.paintSlice? category span.line 0 stop).map fun line => ((), { span with line })

/-- Puts all glyphs into a category. -/
def paintAll (category : Category) : InPlace Unit := fun span =>
  some ((), { span with line := Line.fill category span.line })

/-- Puts one glyph into a category. -/
def paintAt (category : Category) (place : Nat) : InPlace Unit := fun span =>
  (Line.paintSlice? category span.line place (place + 1)).map fun line => ((), { span with line })

/-- Writes the state. -/
def setState (state : LineState) : InPlace Unit := fun span => some ((), { span with state })

/-! ## The recognizers -/

/-- Blanks between tokens. -/
def blanks : Attempt := do
  let blank := runLength isBlank (← text)
  if 0 < blank then
    paint .plain blank
    return some blank
  else return none

/-- The rest of a verbatim string that was carried into the line. -/
def verbatimContinuation : Attempt := do
  if (← get).state = .verbatimString then
    let (stop, closed) := verbatimBody (← text) 0
    paint .string stop
    if closed then setState .normal
    return some stop
  else return none

/-- A comment whose body begins at a place. -/
def commentFrom (body : Nat) : Attempt := do
  let text ← text
  let stop ← match Marker.findFrom? ['*', '/'] text body with
    | some close => do
      setState .normal
      pure (close + 2)
    | none => do
      setState .blockComment
      pure text.length
  paint .blockComment stop
  return some stop

/-- A comment between marks, or the rest of one that was carried into the line. -/
def multiLineComment : Attempt := do
  if (← get).state = .blockComment then commentFrom 0
  else if Marker.startsWith ['/', '*'] (← text) then commentFrom 2
  else return none

/-- A comment to the end of the line. -/
def singleLineComment : Attempt := do
  if Marker.startsWith ['/', '/'] (← text) then
    paintAll .comment
    setState .normal
    return some (← get).line.length
  else return none

/-- A directive to the preprocessor, to the end of the line. -/
def preprocessorDirective : Attempt := do
  if (← charAt 0) = '#' then
    paintAll .preprocessor
    return some (← get).line.length
  else return none

/-- A verbatim string, which may go on on the next line. -/
def verbatimString : Attempt := do
  match verbatimPrefix? (← text) with
  | some opening =>
    let (stop, closed) := verbatimBody (← text) opening
    paint .string stop
    setState (if closed then .normal else .verbatimString)
    return some stop
  | none => return none

/-- An interpolated string. -/
def interpolatedString : Attempt := do
  if Marker.startsWith ['$', '"'] (← text) then
    match quotedBody? (← text) 2 with
    | some stop =>
      paint .string stop
      return some stop
    | none => return none
  else return none

/-- A plain string. -/
def plainString : Attempt := do
  if (← charAt 0) = '"' then
    match quotedBody? (← text) 1 with
    | some stop =>
      paint .string stop
      return some stop
    | none => return none
  else return none

/-- A character literal. -/
def charLiteral : Attempt := do
  if (← charAt 0) = '\'' then
    let text ← text
    let close := charClose text
    if text[close]? = some '\'' then
      paint .charLiteral (close + 1)
      return some (close + 1)
    else return none
  else return none

/-- An identifier, in the category that its word has. -/
def identifier (words : Words) : Attempt := do
  let start := identifierStart (← charAt 0)
  if (← text)[start]?.any isIdentifierStart then
    let stop := skipWhile isIdentifierPart (← text) (start + 1)
    let word ← slice stop
    paint ((words.getWith? word Glyph.char).elim .identifier WordInfo.category) stop
    return some stop
  else return none

/-- A literal in another base, behind the zero. -/
def radixNumber : Attempt := do
  match radixStop? (← text) with
  | some stop =>
    paint .number stop
    return some stop
  | none => return none

/-- A decimal number whose first character has been read. -/
def decimalNumber (first : Char) : Attempt := do
  match decimalStop? (← text) first with
  | some stop =>
    paint .number stop
    return some stop
  | none => return none

/-- The first of two attempts, and where it declines the second. -/
def orElse (first second : Attempt) : Attempt := do
  match ← first with
  | some count => return some count
  | none => second

/-- A number. -/
def number : Attempt := do
  let first ← charAt 0
  if isSign first || first.isDigit then
    if first = '0' then orElse radixNumber (decimalNumber first) else decimalNumber first
  else return none

/-- A single character of punctuation. -/
def punctuation : Attempt := do
  if isPunctuation (← charAt 0) then
    paintAt .punctuation 0
    return some 1
  else return none

/-- The recognizers in the order in which they are asked. -/
def attempts (words : Words) : List Attempt :=
  [blanks, verbatimContinuation, multiLineComment, singleLineComment, preprocessorDirective,
    verbatimString, interpolatedString, plainString, charLiteral, identifier words, number,
    punctuation]

/-- The first of the recognizers that accepts. -/
def tokenize (words : Words) : Attempt := (attempts words).foldr orElse (return none)

/-! ## The loop -/

/-- Work on the glyphs from a place on, which must not lie behind the end. -/
def onRest {α : Type} (place : Nat) (work : InPlace α) : InPlace α := fun span =>
  if place ≤ span.line.length then
    (work.run ⟨span.line.drop place, span.state⟩).map fun (answer, rest) =>
      (answer, ⟨span.line.take place ++ rest.line, rest.state⟩)
  else none

/-- One turn of the loop: the glyphs that it takes, a lone one where nothing accepts. -/
def turn (words : Words) (place : Nat) : InPlace Nat := do
  match ← onRest place (tokenize words) with
  | some count => return count
  | none =>
    paintAt .plain place
    return 1

/-- Asserts that glyphs are taken. -/
def assertTaken (count : Nat) : InPlace Unit := if 0 < count then return () else failure

/-- The loop over the glyphs from a place on, for so many turns at most. It asserts that every turn
takes a glyph. -/
def loop (words : Words) : Nat → Nat → InPlace Unit
  | 0, _ => failure
  | turns + 1, place => do
    if place < (← get).line.length then
      let count ← turn words place
      assertTaken count
      loop words turns (place + max count 1)

/-! ## What the recognizers do -/

/-- What becomes of a span of which a scan is made: its token is painted and taken, and without a
scan nothing is touched. -/
def outcome (span : Span) (scan : Option Scan) : Option Nat × Span :=
  scan.elim (none, span) fun scan =>
    (some scan.length, ⟨Line.repaint scan.category span.line 0 scan.length, scan.next⟩)

/-- The scan of the blanks that a text begins with. -/
def blankScan? (state : LineState) (text : List Char) : Option Scan :=
  if 0 < runLength isBlank text then
    some { length := runLength isBlank text, category := .plain, next := state }
  else none

/-- The scan of the punctuation that a text begins with. -/
def punctuationScan? (state : LineState) (text : List Char) : Option Scan :=
  if text.head?.any isPunctuation then
    some { length := 1, category := .punctuation, next := state }
  else none

/-- The scan of a recognizer that does not write the state. -/
def leaving (state : LineState) (scan : Option Scan) : Option Scan :=
  scan.map ({ · with next := state })

variable {span after : Span} {words : Words} {stop place : Nat} {c : Char} {rest : List Char}

/-- Behind the first piece of work the second one goes on with the span that it leaves. -/
lemma run_step {α β : Type} {work : InPlace α} {answer : α}
    (h : work.run span = some (answer, after)) (next : α → InPlace β) :
    (work >>= next).run span = (next answer).run after := by
  rw [StateT.run_bind, h, Option.bind_eq_bind, Option.bind_some]

lemma run_get (span : Span) : (get : InPlace Span).run span = some (span, span) := rfl

lemma run_text (span : Span) : text.run span = some (Line.text span.line, span) := rfl

lemma run_setState (state : LineState) (span : Span) :
    (setState state).run span = some ((), { span with state }) := rfl

lemma run_charAt_zero (h : Line.text span.line = c :: rest) :
    (charAt 0).run span = some (c, span) := by
  show ((Line.text span.line)[0]?).map _ = _
  rw [h]
  rfl

lemma run_slice (h : stop ≤ (Line.text span.line).length) :
    (slice stop).run span = some (span.line.take stop, span) := by
  rw [Line.length_text] at h
  show (Line.slice? _ _ _).map _ = _
  rw [Line.slice?_zero h]
  rfl

/-- The first glyphs up to `stop` are painted if there are so many. -/
lemma run_paint (h : stop ≤ (Line.text span.line).length) (category : Category) :
    (paint category stop).run span =
      some ((), { span with line := Line.repaint category span.line 0 stop }) := by
  rw [Line.length_text] at h
  show (Line.paintSlice? _ _ _ _).map _ = _
  rw [Line.paintSlice?_zero h]
  rfl

lemma run_paintAll (category : Category) (span : Span) :
    (paintAll category).run span = some ((),
      { span with line := Line.repaint category span.line 0 (Line.text span.line).length }) := by
  have hfill : Line.repaint category span.line 0 (Line.text span.line).length =
      Line.fill category span.line := by
    rw [Line.repaint_zero, Line.length_text, List.take_length, List.drop_length, List.append_nil]
  rw [hfill]
  rfl

/-- One glyph within the span is painted, and no other. -/
lemma run_paintAt (h : place < span.line.length) (category : Category) :
    (paintAt category place).run span =
      some ((), { span with line := Line.repaint category span.line place 1 }) := by
  show (Line.paintSlice? _ _ _ _).map _ = _
  rw [Line.paintSlice?_add h]
  rfl

/-- Glyphs that are painted and taken are the token of a scan. -/
lemma run_takes (span : Span) (h : stop ≤ (Line.text span.line).length) (category : Category) :
    (paint category stop >>= fun _ => pure (some stop)).run span =
      some (outcome span (some { length := stop, category, next := span.state })) := by
  rw [run_step (run_paint h category)]
  rfl

/-- The blanks in front of a token are taken and painted in the default color. -/
lemma run_blanks (span : Span) :
    blanks.run span = some (outcome span (blankScan? span.state (Line.text span.line))) := by
  simp only [blanks, run_step (run_text span), blankScan?]
  split
  · exact run_takes span (runLength_le _ _) .plain
  · rfl

/-- A verbatim string is gone on with only where the state says that one is open. -/
lemma run_verbatimContinuation (span : Span) :
    verbatimContinuation.run span = some (outcome span
      (if span.state = .verbatimString then some (verbatimScan 0 (Line.text span.line))
      else none)) := by
  simp only [verbatimContinuation, run_step (run_get span)]
  split
  case isFalse => rfl
  case isTrue h =>
    rw [run_step (run_text span)]
    simp only [run_step (run_paint (verbatimBody_le (Nat.zero_le _)) .string)]
    rw [verbatimBody_eq, List.drop_zero, verbatimScan, List.drop_zero]
    cases verbatimEnd? (Line.text span.line) with
    | none => simp [outcome, h]
    | some n => rfl

/-- A verbatim string is painted from its opening to its end or to that of the span, and the state
says which. -/
lemma run_verbatimString (span : Span) :
    verbatimString.run span =
      some (outcome span (CSharp.verbatimString (Line.text span.line))) := by
  rw [verbatimString, run_step (run_text span), verbatimPrefix?_eq, CSharp.verbatimString]
  cases hopening : verbatimOpening? (Line.text span.line) with
  | none => rfl
  | some opening =>
    have hle := (verbatimOpening?_within hopening).2
    simp only [run_step (run_text span), run_step (run_paint (verbatimBody_le hle) .string)]
    rw [verbatimBody_eq, Option.map_some, verbatimScan]
    cases verbatimEnd? ((Line.text span.line).drop opening) with
    | none => rfl
    | some n => rfl

/-- A comment whose body begins at `body` is painted to its end or to that of the span, and the
state says which. -/
lemma run_commentFrom {body : Nat} (h : body ≤ (Line.text span.line).length) :
    (commentFrom body).run span =
      some (outcome span (some (commentScan body (Line.text span.line)))) := by
  simp only [commentFrom, run_step (run_text span), Marker.findFrom?_eq]
  rw [commentScan]
  -- in both cases the state is written before the glyphs are painted
  cases hend : Marker.endOf? ['*', '/'] ((Line.text span.line).drop body) with
  | none =>
    rw [Option.map_eq_none_iff.1 hend, Option.map_none]
    simp only
    rw [run_step (run_setState .blockComment span), pure_bind]
    exact run_takes ⟨span.line, .blockComment⟩ (Nat.le_refl _) .blockComment
  | some n =>
    have hwithin := Marker.endOf?_le hend
    rw [List.length_drop] at hwithin
    obtain ⟨close, hfind, rfl⟩ := Option.map_eq_some_iff.1 hend
    have hle : body + close + 2 ≤ (Line.text span.line).length := by
      have hmark : ['*', '/'].length = 2 := rfl
      omega
    rw [hfind, Option.map_some]
    simp only
    rw [run_step (run_setState .normal span), pure_bind]
    exact run_takes ⟨span.line, .normal⟩ hle .blockComment

/-- A comment is gone on with where one is open, and begun where a span begins with its mark. -/
lemma run_multiLineComment (span : Span) :
    multiLineComment.run span = some (outcome span
      (if span.state = .blockComment then some (commentScan 0 (Line.text span.line))
      else blockComment (Line.text span.line))) := by
  simp only [multiLineComment, run_step (run_get span)]
  split
  · exact run_commentFrom (Nat.zero_le _)
  · rw [run_step (run_text span), blockComment]
    split
    case isTrue hmark =>
      obtain ⟨rest, hrest⟩ := exists_append_of_startsWith hmark
      refine run_commentFrom ?_
      rw [hrest, List.length_append]
      exact Nat.le_add_right _ _
    case isFalse => rfl

/-- A comment to the end of the line paints all that there is. -/
lemma run_singleLineComment (span : Span) :
    singleLineComment.run span = some (outcome span (lineComment (Line.text span.line))) := by
  rw [singleLineComment, run_step (run_text span), lineComment]
  split
  · rw [run_step (run_paintAll .comment span), run_step (run_setState .normal _),
      run_step (run_get _)]
    simp [outcome]
  · rfl

/-- A directive is painted and leaves the state as it is. -/
lemma run_preprocessorDirective (htext : Line.text span.line = c :: rest) :
    preprocessorDirective.run span =
      some (outcome span (leaving span.state (directive (Line.text span.line)))) := by
  rw [preprocessorDirective, run_step (run_charAt_zero htext), directive]
  simp only [htext, List.head?_cons, Option.some_inj]
  split
  · rw [run_step (run_paintAll .preprocessor span), run_step (run_get _), htext]
    simp [outcome, leaving, ← htext]
  · rfl

/-- An interpolated string is painted up to its closing quote and leaves the state as it is. -/
lemma run_interpolatedString (span : Span) :
    interpolatedString.run span = some (outcome span
      (leaving span.state (CSharp.interpolatedString (Line.text span.line)))) := by
  have hscan := interpolatedString?_eq (Line.text span.line)
  rw [interpolatedString, run_step (run_text span), CSharp.interpolatedString, hscan]
  split
  case isTrue hmark =>
    rw [if_pos hmark] at hscan
    rw [run_step (run_text span)]
    cases hstop : quotedBody? (Line.text span.line) 2 with
    | none => rfl
    | some stop => exact run_takes span (interpolatedString?_within (hscan.trans hstop)).2 .string
  case isFalse => rfl

/-- A plain string is painted up to its closing quote and leaves the state as it is. -/
lemma run_plainString (htext : Line.text span.line = c :: rest) :
    plainString.run span =
      some (outcome span (leaving span.state (CSharp.plainString (Line.text span.line)))) := by
  have hscan := plainString?_eq c rest
  rw [← htext] at hscan
  rw [plainString, run_step (run_charAt_zero htext), CSharp.plainString, hscan]
  split
  case isTrue hquote =>
    rw [if_pos hquote] at hscan
    rw [run_step (run_text span)]
    cases hstop : quotedBody? (Line.text span.line) 1 with
    | none => rfl
    | some stop => exact run_takes span (plainString?_within (hscan.trans hstop)).2 .string
  case isFalse => rfl

/-- A character literal is painted with both quotes and leaves the state as it is. -/
lemma run_charLiteral (htext : Line.text span.line = c :: rest) :
    charLiteral.run span =
      some (outcome span (leaving span.state (CSharp.charLiteral (Line.text span.line)))) := by
  have hscan := charLiteral?_eq c rest
  rw [← htext] at hscan
  rw [charLiteral, run_step (run_charAt_zero htext), CSharp.charLiteral, hscan]
  split
  case isFalse => rfl
  case isTrue hquote =>
    rw [if_pos hquote] at hscan
    simp only [run_step (run_text span)]
    split
    case isFalse => rfl
    case isTrue hclose =>
      rw [if_pos hclose] at hscan
      exact run_takes span (charLiteral?_within hscan).2 .charLiteral

/-- The category of a word that is looked up glyph by glyph. -/
lemma getWith?_take (words : Words) (line : Line) (n : Nat) :
    (words.getWith? (line.take n) Glyph.char).elim .identifier WordInfo.category =
      words.categoryOf ((Line.text line).take n) := by
  rw [Trie.getWith?, List.map_take, Words.categoryOf]
  show (words.get? ((Line.text line).take n)).elim _ _ = _
  cases words.get? ((Line.text line).take n) <;> rfl

/-- An identifier is painted in the color of its word and leaves the state as it is. -/
lemma run_identifier (words : Words) (htext : Line.text span.line = c :: rest) :
    (identifier words).run span =
      some (outcome span (leaving span.state (CSharp.identifier words (Line.text span.line)))) := by
  have hscan := identifier?_eq c rest
  rw [← htext] at hscan
  rw [identifier, run_step (run_charAt_zero htext), CSharp.identifier, hscan]
  simp only [run_step (run_text span)]
  split
  case isFalse => rfl
  case isTrue hstart =>
    rw [if_pos hstart] at hscan
    have hwithin := identifier?_within hscan
    rw [run_step (run_text span), run_step (run_slice hwithin.2), run_takes span hwithin.2,
      getWith?_take, Option.map_some]
    rfl

/-- A number in another radix is painted up to the place that its scanner stops at. -/
lemma run_radixNumber (htext : Line.text span.line = '0' :: rest) :
    radixNumber.run span = some (outcome span (leaving span.state
      ((radixStop? (Line.text span.line)).map ({ length := ·, category := .number })))) := by
  rw [radixNumber, run_step (run_text span)]
  cases hstop : radixStop? (Line.text span.line) with
  | none => rfl
  | some stop =>
    rw [htext, radixStop?_eq, ← htext] at hstop
    exact run_takes span (radixNumber?_within hstop).2 .number

/-- A decimal number is painted up to the place that its scanner stops at. -/
lemma run_decimalNumber (htext : Line.text span.line = c :: rest)
    (hfirst : (isSign c || c.isDigit) = true) :
    (decimalNumber c).run span = some (outcome span (leaving span.state
      ((decimalStop? (Line.text span.line) c).map ({ length := ·, category := .number })))) := by
  rw [decimalNumber, run_step (run_text span)]
  cases hstop : decimalStop? (Line.text span.line) c with
  | none => rfl
  | some stop =>
    rw [htext, decimalStop?_eq hfirst, ← htext] at hstop
    exact run_takes span (decimalNumber?_within hstop).2 .number

/-- Of two attempts the first one that accepts decides, as one that declines leaves the span as it
is. -/
theorem run_orElse {first second : Attempt} {scan other : Option Scan}
    (hfirst : first.run span = some (outcome span scan))
    (hsecond : second.run span = some (outcome span other)) :
    (orElse first second).run span = some (outcome span (scan.or other)) := by
  rw [orElse, run_step hfirst]
  cases scan with
  | none => exact hsecond
  | some scan => rfl

/-- A number is painted up to the place that the scanner of its form stops at, and leaves the state
as it is. -/
theorem run_number (htext : Line.text span.line = c :: rest) :
    number.run span =
      some (outcome span (leaving span.state (CSharp.number (Line.text span.line)))) := by
  rw [number, run_step (run_charAt_zero htext), CSharp.number, htext, number?_eq, ← htext]
  split
  case isFalse => rfl
  case isTrue hfirst =>
    split
    case isFalse => exact run_decimalNumber htext hfirst
    case isTrue hzero =>
      rw [run_orElse (run_radixNumber (hzero ▸ htext)) (run_decimalNumber htext hfirst)]
      cases radixStop? (Line.text span.line) <;> rfl

/-- Punctuation is painted one glyph at a time. -/
lemma run_punctuation (htext : Line.text span.line = c :: rest) :
    punctuation.run span =
      some (outcome span (punctuationScan? span.state (Line.text span.line))) := by
  rw [punctuation, run_step (run_charAt_zero htext), punctuationScan?, htext, List.head?_cons,
    Option.any_some]
  split
  case isFalse => rfl
  case isTrue =>
    have hlength : 0 < span.line.length := by
      rw [← Line.length_text, htext]
      exact Nat.succ_pos _
    rw [run_step (run_paintAt hlength .punctuation)]
    rfl

/-! ## The tokenizer -/

/-- What the recognizers make of a text in a state, in the order in which they are asked. -/
def scans (words : Words) (state : LineState) (text : List Char) : List (Option Scan) :=
  [blankScan? state text,
    if state = .verbatimString then some (verbatimScan 0 text) else none,
    if state = .blockComment then some (commentScan 0 text) else blockComment text,
    lineComment text,
    leaving state (directive text),
    CSharp.verbatimString text,
    leaving state (CSharp.interpolatedString text),
    leaving state (CSharp.plainString text),
    leaving state (CSharp.charLiteral text),
    leaving state (CSharp.identifier words text),
    leaving state (CSharp.number text),
    punctuationScan? state text]

/-- Whether an attempt does to a span what a scan says. -/
def Does (span : Span) (attempt : Attempt) (scan : Option Scan) : Prop :=
  attempt.run span = some (outcome span scan)

/-- Each recognizer does to a span that is not empty what its scan says. -/
theorem forall₂_does (words : Words) (hne : span.line ≠ []) :
    List.Forall₂ (Does span) (attempts words)
      (scans words span.state (Line.text span.line)) := by
  obtain ⟨c, rest, htext⟩ := List.exists_cons_of_ne_nil (Line.text_ne_nil hne)
  exact .cons (run_blanks span) <| .cons (run_verbatimContinuation span) <|
    .cons (run_multiLineComment span) <| .cons (run_singleLineComment span) <|
    .cons (run_preprocessorDirective htext) <| .cons (run_verbatimString span) <|
    .cons (run_interpolatedString span) <| .cons (run_plainString htext) <|
    .cons (run_charLiteral htext) <| .cons (run_identifier words htext) <|
    .cons (run_number htext) <| .cons (run_punctuation htext) .nil

/-- Attempts that are made one after the other do what the first of their scans says. -/
theorem does_foldr_orElse {list : List Attempt} {scans : List (Option Scan)}
    (h : List.Forall₂ (Does span) list scans) :
    Does span (list.foldr orElse (return none)) (scans.findSome? id) := by
  induction h with
  | nil => exact rfl
  | @cons attempt scan list scans hfirst _ ih =>
    rw [Does, List.foldr_cons, run_orElse hfirst ih]
    cases scan <;> rfl

/-- The recognizers, asked one after the other, do what the first scan among theirs says. -/
lemma does_tokenize (words : Words) (hne : span.line ≠ []) :
    Does span (tokenize words) ((scans words span.state (Line.text span.line)).findSome? id) :=
  does_foldr_orElse (forall₂_does words hne)

lemma leaving_normal_map {category : Nat → Category} (length? : Option Nat) :
    leaving .normal (length?.map fun n => { length := n, category := category n }) =
      length?.map fun n => { length := n, category := category n } := by
  cases length? <;> rfl

/-- In the normal state nothing is changed by leaving the state as it is. -/
lemma leaving_normal {recognizer : Recognizer}
    (h : recognizer ∈ [directive, CSharp.interpolatedString, CSharp.plainString,
      CSharp.charLiteral, CSharp.identifier words, CSharp.number]) (text : List Char) :
    leaving .normal (recognizer text) = recognizer text := by
  simp only [List.mem_cons, List.not_mem_nil, or_false] at h
  rcases h with rfl | rfl | rfl | rfl | rfl | rfl
  · rw [directive]
    split <;> rfl
  · exact leaving_normal_map _
  · exact leaving_normal_map _
  · exact leaving_normal_map _
  · exact leaving_normal_map _
  · exact leaving_normal_map _

/-- Where nothing is left open, the recognizers of the tokens are asked in their order, and behind
them the one for punctuation. -/
theorem scans_normal (words : Words) {text : List Char} (hblank : ¬ 0 < runLength isBlank text) :
    scans words .normal text =
      none :: none :: ((recognizers words).map (· text) ++ [punctuationScan? .normal text]) := by
  have hleaving := @leaving_normal words
  simp [scans, blankScan?, hblank, recognizers, hleaving]

/-- What no recognizer takes is a glyph alone, painted as punctuation or not at all. -/
lemma getD_punctuationScan? (text : List Char) :
    (punctuationScan? .normal text).getD { length := 1, category := .plain } = lone text := by
  rw [punctuationScan?, lone]
  split <;> rfl

/-- The scan of a text is that of the first recognizer that accepts, or else a lone character. -/
theorem scan_eq (words : Words) (state : LineState) (text : List Char) :
    scan words state text =
      ((scans words state text).findSome? id).getD
        { length := 1, category := .plain, next := state } := by
  unfold scan
  by_cases hblank : 0 < runLength isBlank text
  case pos =>
    simp only [if_pos hblank]
    simp [scans, blankScan?, hblank]
  case neg =>
    simp only [if_neg hblank]
    cases state with
    | verbatimString => simp [scans, blankScan?, hblank]
    | blockComment => simp [scans, blankScan?, hblank]
    | normal =>
      have hfirst : (scans words .normal text).findSome? id =
          ((recognizers words).findSome? (· text)).or (punctuationScan? .normal text) := by
        rw [scans_normal words hblank, List.findSome?_cons_of_isNone rfl,
          List.findSome?_cons_of_isNone rfl, List.findSome?_append, List.findSome?_map,
          List.findSome?_singleton]
        rfl
      rw [hfirst, scanNormal, ← getD_punctuationScan?]
      cases (recognizers words).findSome? (· text) <;> rfl

/-! ## What is painted is what is taken -/

/-- Whether an attempt paints exactly what it takes of a span. -/
structure Exact (attempt : Attempt) (span : Span) : Prop where
  /-- No index and no slice is out of bounds. -/
  runs : ∃ answer after, attempt.run span = some (answer, after)
  /-- Where it declines, the glyphs and the state are left as they are. -/
  declines : ∀ after, attempt.run span = some (none, after) → after = span
  /-- Where it accepts, it takes at least one glyph and no more than there are, and these are put
  into one category and no others. -/
  accepts : ∀ count after, attempt.run span = some (some count, after) →
    0 < count ∧ count ≤ span.line.length ∧
      ∃ category, after.line = Line.fill category (span.line.take count) ++ span.line.drop count

/-- An attempt that does what a scan within the text says paints exactly what it takes. -/
theorem exact_of_does {attempt : Attempt} {scan : Option Scan}
    (hdoes : Does span attempt scan)
    (hwithin : ∀ s, scan = some s → Within s.length (Line.text span.line)) :
    Exact attempt span where
  runs := ⟨_, _, hdoes⟩
  declines after h := by
    rw [hdoes, Option.some_inj] at h
    cases scan with
    | none => exact (Prod.mk.inj h).2.symm
    | some s => cases (Prod.mk.inj h).1
  accepts count after h := by
    rw [hdoes, Option.some_inj] at h
    cases scan with
    | none => cases (Prod.mk.inj h).1
    | some s =>
      obtain ⟨hcount, rfl⟩ := Prod.mk.inj h
      obtain rfl := Option.some.inj hcount
      obtain ⟨hpos, hle⟩ := hwithin s rfl
      -- what the attempt did is painting from the beginning on, as far as it says
      exact ⟨hpos, Line.length_text span.line ▸ hle, s.category, Line.repaint_zero _ _ _⟩

/-- What the recognizers make of a text takes a character of it at least and no more than there
are. -/
theorem within_of_mem_scans {state : LineState} {text : List Char} (hne : text ≠ [])
    {scan : Option Scan} (hmem : scan ∈ scans words state text) {s : Scan} (hs : scan = some s) :
    Within s.length text := by
  have hrecognizer : ∀ recognizer ∈ recognizers words, ∀ t, recognizer text = some t →
      Within t.length text := fun _ hr _ ht => recognizer_within hr ht
  have hleaving : ∀ recognizer ∈ recognizers words, ∀ t,
      leaving state (recognizer text) = some t → Within t.length text := by
    intro recognizer hr t ht
    obtain ⟨u, hu, rfl⟩ := Option.map_eq_some_iff.1 ht
    exact hrecognizer recognizer hr u hu
  simp only [recognizers, List.forall_mem_cons] at hrecognizer hleaving
  obtain ⟨hblock, hline, -, hverbatim, -⟩ := hrecognizer
  obtain ⟨-, -, hdirective, -, hinterpolated, hplain, hchar, hidentifier, hnumber, -⟩ := hleaving
  simp only [scans, List.mem_cons, List.not_mem_nil, or_false] at hmem
  -- the scans in the order in which they are tried
  rcases hmem with rfl | rfl | rfl | rfl | rfl | rfl | rfl | rfl | rfl | rfl | rfl | rfl
  · obtain ⟨hpos, hs⟩ := Option.ite_none_right_eq_some.1 hs
    cases hs
    exact ⟨hpos, runLength_le _ _⟩
  · obtain ⟨-, hs⟩ := Option.ite_none_right_eq_some.1 hs
    cases hs
    exact verbatimScan_within 0 hne
  · split at hs
    · cases hs
      exact commentScan_within 0 hne
    · exact hblock s hs
  · exact hline s hs
  · exact hdirective s hs
  · exact hverbatim s hs
  · exact hinterpolated s hs
  · exact hplain s hs
  · exact hchar s hs
  · exact hidentifier s hs
  · exact hnumber s hs
  · obtain ⟨-, hs⟩ := Option.ite_none_right_eq_some.1 hs
    cases hs
    exact Within.one hne

lemma exists_mem_of_forall₂ {α β : Type} {R : α → β → Prop} {as : List α} {bs : List β}
    (h : List.Forall₂ R as bs) {a : α} (ha : a ∈ as) : ∃ b ∈ bs, R a b := by
  induction h with
  | nil => cases ha
  | @cons x y as bs hxy _ ih =>
    rcases List.mem_cons.1 ha with rfl | ha
    · exact ⟨y, List.mem_cons_self, hxy⟩
    · obtain ⟨b, hb, hab⟩ := ih ha
      exact ⟨b, List.mem_cons_of_mem y hb, hab⟩

/-- Each recognizer paints exactly what it takes, and one that declines touches nothing. -/
theorem exact_of_mem_attempts {attempt : Attempt} (hmem : attempt ∈ attempts words)
    (hne : span.line ≠ []) : Exact attempt span := by
  obtain ⟨scan, hscan, hdoes⟩ := exists_mem_of_forall₂ (forall₂_does words hne) hmem
  exact exact_of_does hdoes fun s hs => within_of_mem_scans (Line.text_ne_nil hne) hscan hs

/-- So does the tokenizer. -/
theorem exact_tokenize (words : Words) (hne : span.line ≠ []) : Exact (tokenize words) span := by
  refine exact_of_does (does_tokenize words hne) fun s hs => ?_
  obtain ⟨scan, hscan, hid⟩ := List.exists_of_findSome?_eq_some hs
  exact within_of_mem_scans (Line.text_ne_nil hne) hscan hid

/-! ## The loop colors a line -/

/-- Work on the rest of a span keeps the glyphs before it. -/
lemma run_onRest {α : Type} {work : InPlace α} {answer : α} (hle : place ≤ span.line.length)
    (h : work.run ⟨span.line.drop place, span.state⟩ = some (answer, after)) :
    (onRest place work).run span =
      some (answer, ⟨span.line.take place ++ after.line, after.state⟩) := by
  show (if place ≤ span.line.length then _ else none) = _
  rw [if_pos hle, h]
  rfl

/-- A turn of the loop paints the token that the rest of the line begins with, and takes it. -/
theorem run_turn (words : Words) (hlt : place < span.line.length) :
    let first := scan words span.state (Line.text (span.line.drop place))
    (turn words place).run span =
      some (first.length,
        ⟨Line.repaint first.category span.line place first.length, first.next⟩) := by
  intro first
  have hne : span.line.drop place ≠ [] := mt List.drop_eq_nil_iff.1 (Nat.not_le_of_lt hlt)
  have hscan := scan_eq words span.state (Line.text (span.line.drop place))
  have hdoes : Does ⟨span.line.drop place, span.state⟩ (tokenize words) _ := does_tokenize words hne
  rw [turn, run_step (run_onRest (Nat.le_of_lt hlt) hdoes)]
  cases hfirst : (scans words span.state (Line.text (span.line.drop place))).findSome? id with
  | none =>
    rw [hfirst, Option.getD_none] at hscan
    -- the recognizers have left the line as it was, so a lone glyph of it can be painted
    simp only [List.take_append_drop]
    rw [run_step (run_paintAt hlt .plain)]
    simp only [first, hscan]
    rfl
  | some s =>
    rw [hfirst, Option.getD_some] at hscan
    simp only [Line.take_append_repaint_drop, first, hscan]
    exact StateT.run_pure _ _

/-- A turn of the loop paints exactly the glyphs that it takes, at least one and no more than are
left. -/
theorem exact_turn (words : Words) (hlt : place < span.line.length) :
    ∃ count category next, 0 < count ∧ place + count ≤ span.line.length ∧
      (turn words place).run span =
        some (count, ⟨Line.repaint category span.line place count, next⟩) := by
  have hne : span.line.drop place ≠ [] := mt List.drop_eq_nil_iff.1 (Nat.not_le_of_lt hlt)
  obtain ⟨hpos, hle⟩ := scan_within words span.state (Line.text_ne_nil hne)
  rw [Line.length_text, List.length_drop] at hle
  exact ⟨_, _, _, hpos, by omega, run_turn words hlt⟩

lemma run_assertTaken {count : Nat} (h : 0 < count) :
    (assertTaken count).run span = some ((), span) := by
  rw [assertTaken, if_pos h]
  rfl

/-- The loop ends before it has made more turns than there are glyphs and one, and colors what is
left of the line as the tokens say. -/
theorem run_loop (language : Language) {turns : Nat} (hle : place ≤ span.line.length)
    (hturns : span.line.length - place < turns) :
    let rest := (highlighter language).colorize (span.line.drop place) span.state
    (loop (wordsOf language) turns place).run span =
      some ((), ⟨span.line.take place ++ rest.1, rest.2⟩) := by
  induction turns generalizing place span with
  | zero => omega
  | succ turns ih =>
    intro rest
    rw [loop, run_step (run_get span)]
    by_cases hlt : place < span.line.length
    case neg =>
      have hend := Nat.le_of_not_lt hlt
      have hnil : span.line.drop place = [] := List.drop_eq_nil_of_le hend
      have htake : span.line.take place = span.line := List.take_of_length_le hend
      have hempty : (highlighter language).colorize [] span.state = ([], span.state) := by
        simp [Highlighter.colorize, highlighter, tokens, Line.text, Line.paint]
      rw [if_neg hlt]
      simp only [rest, hnil, htake, hempty, List.append_nil]
      rfl
    case pos =>
      have hne : span.line.drop place ≠ [] := mt List.drop_eq_nil_iff.1 (Nat.not_le_of_lt hlt)
      have hwithin := scan_within (wordsOf language) span.state (Line.text_ne_nil hne)
      have hcolor := colorize_step language span.state hne
      -- one turn takes the first scan of the rest, and the induction is on the turns that are left
      have hturn := run_turn (wordsOf language) hlt
      simp only at hcolor hturn
      generalize scan (wordsOf language) span.state (Line.text (span.line.drop place)) = first
        at hwithin hcolor hturn
      obtain ⟨hpos, hlength⟩ := hwithin
      rw [Line.length_text, List.length_drop] at hlength
      have hbound : place + first.length ≤ span.line.length := by omega
      rw [if_pos hlt, run_step hturn, run_step (run_assertTaken hpos), Nat.max_eq_left hpos, ih]
      · simp only [rest, hcolor, Line.take_repaint _ hbound, Line.drop_repaint _ hbound,
          List.drop_drop, List.append_assoc]
      · rwa [Line.length_repaint]
      · rw [Line.length_repaint]
        omega

end InPlace

end Highlight.CSharp
