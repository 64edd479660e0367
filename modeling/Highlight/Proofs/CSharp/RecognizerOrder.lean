import Highlight.Proofs.CSharp.NumberTokens

/-!
# The order of the recognizers

The first characters of a text leave one kind of token that it may begin with (`kind?`), and the
recognizer of any other kind declines. So at most one of the nine recognizers accepts, and asking
them in another order gives the same tokens (`scanIn_eq`). What stands behind a token that is not of
blanks is read with nothing left open, whatever the line before has left open (`visits_normal`).
-/

namespace Highlight.CSharp

/-- The kinds of tokens that have a recognizer. -/
inductive Kind where
  | blockComment
  | lineComment
  | directive
  | verbatimString
  | interpolatedString
  | plainString
  | charLiteral
  | identifier
  | number
deriving Repr, DecidableEq

namespace Kind

/-- Every kind, in the order in which the recognizers are asked. -/
def all : List Kind :=
  [blockComment, lineComment, directive, verbatimString, interpolatedString, plainString,
    charLiteral, identifier, number]

/-- The recognizer of a kind. -/
def recognizer (words : Words) : Kind → Recognizer
  | blockComment => CSharp.blockComment
  | lineComment => CSharp.lineComment
  | directive => CSharp.directive
  | verbatimString => CSharp.verbatimString
  | interpolatedString => CSharp.interpolatedString
  | plainString => CSharp.plainString
  | charLiteral => CSharp.charLiteral
  | identifier => CSharp.identifier words
  | number => CSharp.number

end Kind

/-- The kind of token that the first characters of a text leave. -/
def kind? : List Char → Option Kind
  | '/' :: '*' :: _ => some .blockComment
  | '/' :: '/' :: _ => some .lineComment
  | '#' :: _ => some .directive
  | '@' :: '"' :: _ => some .verbatimString
  | '@' :: '$' :: _ => some .verbatimString
  | '$' :: '@' :: _ => some .verbatimString
  | '$' :: '"' :: _ => some .interpolatedString
  | '"' :: _ => some .plainString
  | '\'' :: _ => some .charLiteral
  | c :: _ => if beginsNumber c then some .number else some .identifier
  | [] => none

variable {words : Words} {text rest : List Char} {state now : LineState} {kind : Kind}

/-! ## At most one accepts -/

lemma recognizers_eq_map (words : Words) :
    recognizers words = Kind.all.map (Kind.recognizer words) := rfl

/-- An identifier may begin with a letter, a bar or an at sign, all of which are left to it. -/
theorem kind?_of_isIdentifierStart {c : Char} (hstart : isIdentifierStart c = true)
    (rest : List Char) :
    kind? (c :: rest) = some .identifier ∧ kind? ('@' :: c :: rest) = some .identifier := by
  obtain ⟨-, -, hslash, hhash, hquote, hdollar, htick⟩ := ne_of_isIdentifierStart hstart
  have hat : c ≠ '@' := by
    rintro rfl
    rw [not_isIdentifierStart_at] at hstart
    cases hstart
  have hnumber : beginsNumber c = false := by
    rw [Bool.eq_false_iff]
    intro hc
    rw [not_isIdentifierStart_of_beginsNumber hc] at hstart
    cases hstart
  have hmark : beginsNumber '@' = false := rfl
  constructor
  · simp [kind?, hslash, hdollar, hat, hnumber]
  · simp [kind?, hquote, hdollar, hmark]

/-- A text that begins with a sign or a digit is left to the numbers. -/
lemma kind?_of_beginsNumber {c : Char} (hc : beginsNumber c = true) (rest : List Char) :
    kind? (c :: rest) = some .number := by
  obtain ⟨-, hslash, hhash, hquote, hdollar, htick, hat, -⟩ := ne_of_beginsNumber hc
  simp [kind?, hslash, hdollar, hat, hc]

/-- A recognizer accepts only a text that is left to its kind. -/
theorem kind?_of_recognizer {scan : Scan} (h : kind.recognizer words text = some scan) :
    kind? text = some kind := by
  cases kind with
  | blockComment =>
    simp only [Kind.recognizer, blockComment, Option.ite_none_right_eq_some,
      Marker.startsWith_iff (List.cons_ne_nil _ _)] at h
    obtain ⟨⟨rest, rfl⟩, -⟩ := h
    rfl
  | lineComment =>
    simp only [Kind.recognizer, lineComment, Option.ite_none_right_eq_some,
      Marker.startsWith_iff (List.cons_ne_nil _ _)] at h
    obtain ⟨⟨rest, rfl⟩, -⟩ := h
    rfl
  | directive =>
    simp only [Kind.recognizer, directive, Option.ite_none_right_eq_some] at h
    obtain ⟨rest, rfl⟩ := List.head?_eq_some_iff.1 h.1
    rfl
  | verbatimString =>
    obtain ⟨n, hn, -⟩ := Option.map_eq_some_iff.1 h
    obtain ⟨opening, hopening, body, rfl, -⟩ := (verbatimOpening?_eq_some_iff text n).1 hn
    rw [mem_verbatimOpenings_iff] at hopening
    rcases hopening with rfl | rfl | rfl <;> rfl
  | interpolatedString =>
    obtain ⟨n, hn, -⟩ := Option.map_eq_some_iff.1 h
    unfold interpolatedString? at hn
    split at hn
    · rfl
    · cases hn
  | plainString =>
    obtain ⟨n, hn, -⟩ := Option.map_eq_some_iff.1 h
    unfold plainString? at hn
    split at hn
    · rfl
    · cases hn
  | charLiteral =>
    obtain ⟨n, hn, -⟩ := Option.map_eq_some_iff.1 h
    unfold charLiteral? at hn
    split at hn
    · rfl
    · rfl
    · cases hn
  | identifier =>
    obtain ⟨n, hn, -⟩ := Option.map_eq_some_iff.1 h
    -- an identifier may have the sign of a verbatim one in front
    obtain ⟨c, rest, hstart, ⟨rfl, -⟩ | ⟨rfl, -⟩⟩ := exists_of_identifier? hn
    · exact (kind?_of_isIdentifierStart hstart rest).1
    · exact (kind?_of_isIdentifierStart hstart rest).2
  | number =>
    obtain ⟨n, hn, -⟩ := Option.map_eq_some_iff.1 h
    have hbegins := ((number?_eq_some_iff text n).1 hn).beginsNumber
    cases text with
    | nil => cases hbegins
    | cons c rest => exact kind?_of_beginsNumber (by simpa using hbegins) rest

/-- Of any two of the nine recognizers one declines. -/
theorem exclusive_recognizers (words : Words) (text : List Char) :
    (recognizers words).Pairwise fun r other => r text = none ∨ other text = none := by
  have hall : Kind.all.Pairwise (· ≠ ·) := by decide
  rw [recognizers_eq_map, List.pairwise_map]
  refine hall.imp fun {kind other} hne => ?_
  rw [or_iff_not_imp_left, ← ne_eq, Option.ne_none_iff_exists']
  rintro ⟨scan, hscan⟩
  rw [Option.eq_none_iff_forall_ne_some]
  intro scan' hscan'
  have hkind := (kind?_of_recognizer hscan).symm.trans (kind?_of_recognizer hscan')
  exact hne (Option.some.inj hkind)

/-! ## Another order -/

/-- The token that a text begins with if the recognizers are asked in some order. -/
def scanIn (order : List Recognizer) (state : LineState) (text : List Char) : Scan :=
  let blanks := runLength isBlank text
  if 0 < blanks then { length := blanks, category := .plain, next := state }
  else match state with
    | .verbatimString => verbatimScan 0 text
    | .blockComment => commentScan 0 text
    | .normal => (order.findSome? (· text)).getD (lone text)

/-- The tokens of a line and the state it hands on if the recognizers are asked in some order. -/
def tokensIn (order : List Recognizer) (state : LineState) : List Char → List Token × LineState
  | [] => ([], state)
  | c :: rest =>
    let first := scanIn order state (c :: rest)
    let (others, last) := tokensIn order first.next (rest.drop (first.length - 1))
    (⟨first.length, first.category⟩ :: others, last)
termination_by text => text.length
decreasing_by simp only [List.length_drop, List.length_cons]; omega

/-- The highlighter that asks its recognizers in some order. -/
def highlighterIn (language : Language) (order : List Recognizer) : Highlighter :=
  { highlighter language with tokens := tokensIn order }

/-- Where at most one of some functions has an answer, the first answer does not depend on their
order. -/
theorem findSome?_eq_of_perm {α β : Type} {fs gs : List (α → Option β)} {a : α}
    (hexclusive : fs.Pairwise fun f g => f a = none ∨ g a = none) (hperm : gs.Perm fs) :
    gs.findSome? (· a) = fs.findSome? (· a) := by
  -- at most one of the functions has an answer
  have hanswers : (fs.filterMap (· a)).Pairwise fun _ _ => False := by
    refine hexclusive.filterMap _ fun f g hfg b hb c hc => ?_
    rcases hfg with hf | hg
    · rw [hf] at hb
      cases hb
    · rw [hg] at hc
      cases hc
  have hsame := hperm.filterMap (· a)
  rw [← List.head?_filterMap, ← List.head?_filterMap]
  cases hlist : fs.filterMap (· a) with
  | nil =>
    rw [hlist] at hsame
    rw [hsame.eq_nil]
  | cons b others =>
    rw [hlist] at hanswers hsame
    cases others with
    | nil => rw [hsame.eq_singleton]
    | cons c others => exact ((List.pairwise_cons.1 hanswers).1 c List.mem_cons_self).elim

/-- In any order the recognizers give the same scan. -/
lemma scanIn_eq {order : List Recognizer} (horder : order.Perm (recognizers words))
    (state : LineState) (text : List Char) : scanIn order state text = scan words state text := by
  have hfirst := findSome?_eq_of_perm (exclusive_recognizers words text) horder
  cases state with
  | normal =>
    unfold scanIn scan scanNormal
    rw [hfirst]
  | blockComment => rfl
  | verbatimString => rfl

/-- In another order a line has the same tokens and hands on the same. -/
theorem tokensIn_eq {order : List Recognizer} (horder : order.Perm (recognizers words))
    (state : LineState) (text : List Char) :
    tokensIn order state text = tokens words state text := by
  fun_induction tokensIn order state text with
  | case1 state => rw [tokens]
  | case2 state c rest first others last hrest ih =>
    have hfirst : first = scan words state (c :: rest) := scanIn_eq horder state (c :: rest)
    rw [tokens, ← hfirst, ← ih, hrest]

/-! ## Behind the first token -/

/-- A token that is not of blanks leaves nothing open unless it takes all that is left. -/
theorem next_scan_eq_normal (hblank : runLength isBlank rest = 0)
    (hmore : rest.drop (scan words now rest).length ≠ []) :
    (scan words now rest).next = .normal := by
  rcases leavesOpenAtEnd_scan words now hblank with hnext | ⟨hall, -⟩
  · exact hnext
  · rw [hall, List.drop_length] at hmore
    exact absurd rfl hmore

lemma drop_runLength (p : Char → Bool) (text : List Char) :
    text.drop (runLength p text) = text.dropWhile p := by
  calc text.drop (runLength p text)
      = (text.takeWhile p ++ text.dropWhile p).drop (text.takeWhile p).length := by
        rw [List.takeWhile_append_dropWhile, runLength]
    _ = text.dropWhile p := List.drop_left

/-- Where a token begins behind the first one that is not of blanks, nothing is left open. -/
theorem visits_normal (hv : Visits words state text now rest) (hne : rest ≠ [])
    (hbehind : rest.length < (text.dropWhile isBlank).length) : now = .normal := by
  -- the places before are those before and behind the blanks, in the state of the line before
  suffices h : now = .normal ∨ rest = text ∨ rest = text.dropWhile isBlank by
    rcases h with hnow | rfl | rfl
    · exact hnow
    · have hle := (List.dropWhile_suffix (l := rest) isBlank).length_le
      omega
    · omega
  clear hbehind
  induction hv with
  | start => exact .inr (.inl rfl)
  | @step now rest visits hrest ih =>
    by_cases hblank : runLength isBlank rest = 0
    · exact .inl (next_scan_eq_normal hblank hne)
    · rw [scan_of_blank words now (Nat.pos_of_ne_zero hblank)]
      rcases ih hrest with hnow | rfl | rfl
      · exact .inl hnow
      · exact .inr (.inr (drop_runLength isBlank rest))
      · rw [← drop_runLength, runLength_drop_runLength] at hblank
        exact absurd rfl hblank

/-- Whether the order of the recognizers makes no difference to the lines of a language, but for
punctuation, which is asked last. -/
structure OrderFree (language : Language) : Prop where
  /-- Of any two of the nine recognizers one declines. -/
  exclusive : ∀ text, (recognizers (wordsOf language)).Pairwise fun r other =>
    r text = none ∨ other text = none
  /-- In whatever order the nine are asked, a line has the same colors and hands on the same. -/
  colorize_eq : ∀ order : List Recognizer, order.Perm (recognizers (wordsOf language)) →
    ∀ line state, (highlighterIn language order).colorize line state =
      (highlighter language).colorize line state
  /-- Where a token begins behind the first one that is not of blanks, nothing is left open. -/
  nothing_open : ∀ state text now rest, Visits (wordsOf language) state text now rest →
    rest ≠ [] → rest.length < (text.dropWhile isBlank).length → now = .normal

/-- The nine recognizers may be asked in any order, whatever the words of the language are. -/
theorem orderFree (language : Language) : OrderFree language where
  exclusive text := exclusive_recognizers (wordsOf language) text
  colorize_eq order horder line state := by
    show (Line.paint (tokensIn order state (Line.text line)).1 line,
      (tokensIn order state (Line.text line)).2) = _
    rw [tokensIn_eq horder]
    rfl
  nothing_open _ _ _ _ hv hne hbehind := visits_normal hv hne hbehind

/-- A number and punctuation may begin alike, so punctuation has to come behind numbers. -/
example : (number ['-', '1']).isSome = true ∧ isPunctuation '-' = true := by decide

end Highlight.CSharp
