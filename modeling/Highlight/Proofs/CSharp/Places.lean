import Highlight.Proofs.CSharp.Bounds
import Mathlib.Tactic.Lemma

/-!
# Scanning by places

A recognizer that works in place reads the glyphs of a span by their places and counts a place up
while it goes on. The scans of C# are written here as these loops, for a text and a place in it, and
each is shown to lead as far as the scanner of what stands from that place on: `quotedBody?_eq` and
`verbatimBody_eq` for strings, `decimalStop?_eq` for numbers.
-/

namespace Highlight.CSharp.InPlace

variable {text rest : List Char} {c : Char} {place : Nat}

lemma exists_append_of_startsWith {mark : List Char} (h : Marker.startsWith mark text = true) :
    ∃ rest, text = mark ++ rest := by
  obtain ⟨rest, hrest⟩ := List.isPrefixOf_iff_prefix.1 (Bool.and_eq_true_iff.1 h).2
  exact ⟨rest, hrest.symm⟩

lemma startsWith_eq_false {mark : List Char} (h : ∀ rest, text ≠ mark ++ rest) :
    Marker.startsWith mark text = false :=
  Bool.eq_false_iff.2 fun hmark => (exists_append_of_startsWith hmark).elim h

/-! ## Runs of characters -/

/-- The place behind the characters from `place` on that satisfy a condition. -/
def skipWhile (p : Char → Bool) (text : List Char) (place : Nat) : Nat :=
  if h : place < text.length then
    if p text[place] then skipWhile p text (place + 1) else place
  else place
termination_by text.length - place

/-- The loop that skips characters stops behind their run. -/
lemma skipWhile_eq (p : Char → Bool) (text : List Char) (place : Nat) :
    skipWhile p text place = place + runLength p (text.drop place) := by
  fun_induction skipWhile p text place with
  | case1 place h hp ih =>
    rw [ih, List.drop_eq_getElem_cons h, runLength, runLength, List.takeWhile_cons_of_pos hp,
      List.length_cons]
    omega
  | case2 place h hp =>
    rw [List.drop_eq_getElem_cons h, runLength, List.takeWhile_cons_of_neg hp]
    rfl
  | case3 place h =>
    rw [List.drop_eq_nil_of_le (Nat.le_of_not_lt h)]
    rfl

/-! ## Bodies of strings -/

/-- The place behind the body of a verbatim string that goes on at `place`, and whether a quote
closes it. -/
def verbatimBody (text : List Char) (place : Nat) : Nat × Bool :=
  if h : place < text.length then
    if text[place] = '"' then
      if text[place + 1]? = some '"' then verbatimBody text (place + 2) else (place + 1, true)
    else verbatimBody text (place + 1)
  else (text.length, false)
termination_by text.length - place

/-- The place behind the quote that closes the body of a string that goes on at `place`. -/
def quotedBody? (text : List Char) (place : Nat) : Option Nat :=
  if h : place < text.length then
    if text[place] = '"' then some (place + 1)
    else if text[place] = '\\' then quotedBody? text (place + 2)
    else quotedBody? text (place + 1)
  else none
termination_by text.length - place

lemma drop_of_getElem? (h : text[place]? = some c) :
    text.drop place = c :: text.drop (place + 1) := by
  obtain ⟨hlt, hc⟩ := List.getElem?_eq_some_iff.1 h
  rw [List.drop_eq_getElem_cons hlt, hc]

lemma verbatimEnd?_quote (h : rest.head? ≠ some '"') : verbatimEnd? ('"' :: rest) = some 1 := by
  rw [verbatimEnd?]
  rintro rest rfl
  exact h rfl

lemma verbatimEnd?_other (h : c ≠ '"') (rest : List Char) :
    verbatimEnd? (c :: rest) = (verbatimEnd? rest).map (· + 1) := by
  rw [verbatimEnd?]
  · rintro rest rfl
    exact absurd rfl h
  · exact h

lemma quotedEnd?_slash (rest : List Char) :
    quotedEnd? ('\\' :: rest) = (quotedEnd? (rest.drop 1)).map (· + 2) := by
  cases rest with
  | nil => rfl
  | cons d rest => rfl

lemma quotedEnd?_other (hquote : c ≠ '"') (hslash : c ≠ '\\') (rest : List Char) :
    quotedEnd? (c :: rest) = (quotedEnd? rest).map (· + 1) := by
  rw [quotedEnd?]
  · exact hquote
  · rintro d rest rfl
    exact absurd rfl hslash

lemma map_add_map (n : Option Nat) (place k : Nat) :
    (n.map (· + k)).map (place + ·) = n.map (place + k + ·) := by
  rw [Option.map_map]
  refine congrArg (Option.map · n) (funext fun m => ?_)
  show place + (m + k) = place + k + m
  omega

/-- A verbatim body ends where its scanner says, or else the text does. -/
theorem verbatimBody_eq (text : List Char) (place : Nat) :
    verbatimBody text place =
      (verbatimEnd? (text.drop place)).elim (text.length, false) fun n => (place + n, true) := by
  fun_induction verbatimBody text place with
  | case1 place h hquote hnext ih =>
    rw [ih, List.drop_eq_getElem_cons h, hquote, drop_of_getElem? hnext, verbatimEnd?]
    cases verbatimEnd? (text.drop (place + 2)) with
    | none => rfl
    | some n => simp only [Option.map_some, Option.elim_some, Nat.add_assoc, Nat.add_comm n]
  | case2 place h hquote hnext =>
    rw [List.drop_eq_getElem_cons h, hquote, verbatimEnd?_quote (by rwa [List.head?_drop])]
    rfl
  | case3 place h hquote ih =>
    rw [ih, List.drop_eq_getElem_cons h, verbatimEnd?_other hquote]
    cases verbatimEnd? (text.drop (place + 1)) with
    | none => rfl
    | some n => simp only [Option.map_some, Option.elim_some, Nat.add_assoc, Nat.add_comm n]
  | case4 place h =>
    rw [List.drop_eq_nil_of_le (Nat.le_of_not_lt h)]
    rfl

/-- The body of a verbatim string ends within the text. -/
lemma verbatimBody_le (h : place ≤ text.length) : (verbatimBody text place).1 ≤ text.length := by
  rw [verbatimBody_eq]
  cases hend : verbatimEnd? (text.drop place) with
  | none => exact Nat.le_refl _
  | some n =>
    have hwithin := (verbatimEnd?_within hend).2
    rw [List.length_drop] at hwithin
    rw [Option.elim_some]
    omega

/-- The closing quote of a body is the one that its scanner finds. -/
theorem quotedBody?_eq (text : List Char) (place : Nat) :
    quotedBody? text place = (quotedEnd? (text.drop place)).map (place + ·) := by
  fun_induction quotedBody? text place with
  | case1 place h hquote =>
    rw [List.drop_eq_getElem_cons h, hquote]
    rfl
  | case2 place h hquote hslash ih =>
    rw [ih, List.drop_eq_getElem_cons h, hslash, quotedEnd?_slash, List.drop_drop, map_add_map]
  | case3 place h hquote hslash ih =>
    rw [ih, List.drop_eq_getElem_cons h, quotedEnd?_other hquote hslash, map_add_map]
  | case4 place h =>
    rw [List.drop_eq_nil_of_le (Nat.le_of_not_lt h)]
    rfl

/-! ## Parts of numbers -/

/-- The place behind the digits and underscores from `place` on, and whether a digit is among them
or has been seen before. -/
def skipDigits (text : List Char) (place : Nat) (seen : Bool) : Nat × Bool :=
  if h : place < text.length then
    if isDigitOrBar text[place] then skipDigits text (place + 1) (seen || text[place].isDigit)
    else (place, seen)
  else (place, seen)
termination_by text.length - place

/-- The place behind a fraction that may stand at a place, and whether one stands there. -/
def skipFraction (text : List Char) (place : Nat) : Nat × Bool :=
  if text[place]? = some '.' then (skipWhile isDigitOrBar text (place + 1), true)
  else (place, false)

/-- The place behind an exponent that may stand at a place, and whether the number has a fraction or
an exponent; nothing if the exponent has no digits. -/
def skipExponent? (text : List Char) (place : Nat) (isFloat : Bool) : Option (Nat × Bool) :=
  if text[place]?.any fun c => c == 'e' || c == 'E' then
    let start := if text[place + 1]?.any isSign then place + 2 else place + 1
    let stop := skipWhile Char.isDigit text start
    if stop = start then none else some (stop, true)
  else some (place, isFloat)

/-- The place behind a suffix that may stand at a place. -/
def skipSuffix (text : List Char) (place : Nat) (isFloat : Bool) : Nat :=
  if text[place]?.any isFloatSuffix then place + 1
  else if !isFloat then skipWhile isIntegerSuffix text place
  else place

/-- The place behind a decimal number whose first character has been read. -/
def decimalStop? (text : List Char) (first : Char) : Option Nat :=
  let (whole, hasDigits) := skipDigits text 1 first.isDigit
  if hasDigits then
    let (fraction, hasPoint) := skipFraction text whole
    (skipExponent? text fraction hasPoint).map fun (exponent, isFloat) =>
      skipSuffix text exponent isFloat
  else none

/-- The digits of a literal in another base, by the character that stands for the base. -/
def radixDigit? (mark : Char) : Option (Char → Bool) :=
  if mark == 'x' || mark == 'X' then some Text.isHexDigit
  else if mark == 'b' || mark == 'B' then some isBinaryDigit
  else none

/-- The place behind a literal in another base, whose first character is a zero. -/
def radixStop? (text : List Char) : Option Nat :=
  (text[1]?.bind radixDigit?).map fun isDigit =>
    skipWhile isIntegerSuffix text (skipWhile isDigit text 2)

/-- The loop over digits stops behind the run of digits and bars, and has seen whether one of them
is a digit. -/
lemma skipDigits_eq (text : List Char) (place : Nat) (seen : Bool) :
    skipDigits text place seen = (place + runLength isDigitOrBar (text.drop place),
      seen || ((text.drop place).takeWhile isDigitOrBar).any Char.isDigit) := by
  fun_induction skipDigits text place seen with
  | case1 place seen h hp ih =>
    rw [ih, List.drop_eq_getElem_cons h, runLength, runLength, List.takeWhile_cons_of_pos hp,
      List.length_cons, List.any_cons, Bool.or_assoc, Nat.add_assoc, Nat.add_comm 1]
  | case2 place seen h hp =>
    rw [List.drop_eq_getElem_cons h, runLength, List.takeWhile_cons_of_neg hp, List.any_nil,
      Bool.or_false]
    rfl
  | case3 place seen h =>
    rw [List.drop_eq_nil_of_le (Nat.le_of_not_lt h)]
    simp [runLength]

/-- The fraction is skipped, if there is one. -/
lemma skipFraction_eq (text : List Char) (place : Nat) :
    skipFraction text place = (place + fractionLength (text.drop place),
      decide (0 < fractionLength (text.drop place))) := by
  rw [skipFraction]
  by_cases hpoint : text[place]? = some '.'
  · rw [if_pos hpoint, drop_of_getElem? hpoint, fractionLength, skipWhile_eq, Nat.add_assoc,
      decide_eq_true (Nat.add_pos_left Nat.one_pos _)]
  · rw [if_neg hpoint, fractionLength]
    · rfl
    · intro rest hrest
      rw [← List.head?_drop, hrest] at hpoint
      exact hpoint rfl

/-- The exponent is skipped, if there is one, and refused without digits. -/
lemma skipExponent?_eq (text : List Char) (place : Nat) (isFloat : Bool) :
    skipExponent? text place isFloat = (exponentLength? (text.drop place)).map fun n =>
      (place + n, isFloat || decide (0 < n)) := by
  rw [skipExponent?]
  cases hc : text[place]? with
  | none =>
    rw [List.drop_eq_nil_of_le (List.getElem?_eq_none_iff.1 hc)]
    simp [exponentLength?]
  | some c =>
    rw [drop_of_getElem? hc, exponentLength?, Option.any_some, List.head?_drop]
    by_cases hmark : (c == 'e' || c == 'E') = true
    · rw [if_pos hmark, if_pos hmark]
      generalize hsign : (if text[place + 1]?.any isSign = true then 1 else 0) = sign
      -- the digits begin behind the mark and an optional sign
      have hstart : (if text[place + 1]?.any isSign = true then place + 2 else place + 1) =
          place + 1 + sign := by
        rw [← hsign]
        split <;> rfl
      simp only [hstart, skipWhile_eq, List.drop_drop, Nat.add_eq_left]
      split
      · rfl
      · rw [Option.map_some, decide_eq_true (by omega), Bool.or_true, ← Nat.add_assoc,
          ← Nat.add_assoc]
    · rw [if_neg hmark, if_neg hmark]
      simp

/-- The suffix is skipped that the number may have, which depends on what came before. -/
lemma skipSuffix_eq (text : List Char) (place : Nat) (isFloat : Bool) :
    skipSuffix text place isFloat = place + suffixLength (!isFloat) (text.drop place) := by
  rw [skipSuffix, suffixLength, List.head?_drop, skipWhile_eq]
  split
  · rfl
  · split <;> rfl

/-- A literal in another base ends where its scanner says. -/
theorem radixStop?_eq (rest : List Char) :
    radixStop? ('0' :: rest) = radixNumber? ('0' :: rest) := by
  cases rest with
  | nil => rfl
  | cons mark rest =>
    have hstop : ∀ isDigit, skipWhile isIntegerSuffix ('0' :: mark :: rest)
        (skipWhile isDigit ('0' :: mark :: rest) 2) =
          2 + runLength isDigit rest +
            runLength isIntegerSuffix (rest.drop (runLength isDigit rest)) := by
      intro isDigit
      rw [skipWhile_eq, skipWhile_eq, ← List.drop_drop]
      rfl
    simp only [radixStop?, radixNumber?, radixDigit?, hstop, List.getElem?_cons_succ,
      List.getElem?_cons_zero, Option.bind_some]
    split
    · rfl
    · split <;> rfl

/-- Behind a sign or a digit, a decimal number ends where its scanner says. -/
theorem decimalStop?_eq (h : (isSign c || c.isDigit) = true) (rest : List Char) :
    decimalStop? (c :: rest) c = decimalNumber? (c :: rest) := by
  -- the first character is a sign or a digit, and a digit counts as seen
  have hwhole : (c.isDigit || (isSign c && (rest.takeWhile isDigitOrBar).any Char.isDigit)) =
      (c.isDigit || (rest.takeWhile isDigitOrBar).any Char.isDigit) := by
    cases hdigit : c.isDigit with
    | true => rfl
    | false =>
      rw [hdigit, Bool.or_false] at h
      rw [h, Bool.true_and]
  simp only [decimalStop?, decimalNumber?, wholePart?, skipDigits_eq, skipFraction_eq,
    skipExponent?_eq, skipSuffix_eq, List.drop_one, List.tail_cons, hwhole, runLength]
  split
  case isFalse => rfl
  case isTrue =>
    generalize 1 + (rest.takeWhile isDigitOrBar).length = whole
    simp only [Option.bind_eq_bind, Option.bind_some]
    generalize fractionLength ((c :: rest).drop whole) = fraction
    cases exponentLength? ((c :: rest).drop (whole + fraction)) with
    | none => rfl
    | some exponent =>
      -- a number is an integer if it has neither a fraction nor an exponent
      have hinteger : (!(decide (0 < fraction) || decide (0 < exponent))) =
          (decide (fraction = 0) && decide (exponent = 0)) := by
        simp only [Nat.pos_iff_ne_zero, Bool.not_or, decide_not, Bool.not_not]
      simp only [Option.map_some, Option.bind_some, hinteger]
      rfl

/-! ## Tokens -/

/-- The number of characters that open a verbatim string. -/
def verbatimPrefix? (text : List Char) : Option Nat :=
  if Marker.startsWith ['@', '"'] text then some 2
  else if Marker.startsWith ['$', '@', '"'] text || Marker.startsWith ['@', '$', '"'] text then
    some 3
  else none

/-- The opening of a verbatim string by its three marks, one after the other. -/
theorem verbatimPrefix?_eq (text : List Char) : verbatimPrefix? text = verbatimOpening? text := by
  unfold verbatimOpening?
  split
  case h_1 => simp [verbatimPrefix?, Marker.startsWith]
  case h_2 => simp [verbatimPrefix?, Marker.startsWith]
  case h_3 => simp [verbatimPrefix?, Marker.startsWith]
  case h_4 hat hdollar hboth =>
    rw [verbatimPrefix?, startsWith_eq_false fun rest => hat rest,
      startsWith_eq_false fun rest => hdollar rest, startsWith_eq_false fun rest => hboth rest]
    rfl

/-- A plain string by its opening quote and the loop over its body. -/
theorem plainString?_eq (c : Char) (rest : List Char) :
    plainString? (c :: rest) = if c = '"' then quotedBody? (c :: rest) 1 else none := by
  split
  case isTrue hquote =>
    rw [hquote, quotedBody?_eq, plainString?]
    exact congrArg (Option.map · (quotedEnd? rest)) (funext fun n => Nat.add_comm n 1)
  case isFalse hquote =>
    rw [plainString?]
    rintro body hbody
    exact hquote (List.cons.inj hbody).1

/-- An interpolated string by the mark in front of it and the loop over its body. -/
theorem interpolatedString?_eq (text : List Char) :
    interpolatedString? text =
      if Marker.startsWith ['$', '"'] text then quotedBody? text 2 else none := by
  split
  case isTrue hmark =>
    obtain ⟨body, rfl⟩ := exists_append_of_startsWith hmark
    rw [quotedBody?_eq]
    exact congrArg (Option.map · (quotedEnd? body)) (funext fun n => Nat.add_comm n 2)
  case isFalse hmark =>
    rw [interpolatedString?]
    rintro body rfl
    exact hmark rfl

/-- The place of the quote that closes a character literal. -/
def charClose (text : List Char) : Nat := if text[1]? = some '\\' then 3 else 2

/-- A character literal by the place at which its closing quote has to be. -/
theorem charLiteral?_eq (c : Char) (rest : List Char) :
    charLiteral? (c :: rest) =
      if c = '\'' then
        if (c :: rest)[charClose (c :: rest)]? = some '\'' then some (charClose (c :: rest) + 1)
        else none
      else none := by
  by_cases hc : c = '\''
  case neg => simp [charLiteral?, hc]
  case pos =>
    rcases rest with _ | ⟨d, rest⟩
    · simp [charLiteral?, charClose]
    by_cases hd : d = '\\'
    · -- behind a backslash one more character comes before the closing quote
      rcases rest with _ | ⟨x, _ | ⟨y, rest⟩⟩
      · simp [charLiteral?, charClose, hc, hd]
      · simp [charLiteral?, charClose, hc, hd]
      · by_cases hy : y = '\''
        · simp [charLiteral?, charClose, hc, hd, hy]
        · simp [charLiteral?, charClose, hc, hd, hy]
    · rcases rest with _ | ⟨y, rest⟩
      · simp [charLiteral?, charClose, hc, hd]
      · by_cases hy : y = '\''
        · simp [charLiteral?, charClose, hc, hd, hy]
        · simp [charLiteral?, charClose, hc, hd, hy]

/-- The place where an identifier begins behind a mark that may stand in front of it. -/
def identifierStart (first : Char) : Nat := if first = '@' then 1 else 0

/-- An identifier by the place of its first letter and a loop over the others. -/
theorem identifier?_eq (c : Char) (rest : List Char) :
    identifier? (c :: rest) =
      if (c :: rest)[identifierStart c]?.any isIdentifierStart then
        some (skipWhile isIdentifierPart (c :: rest) (identifierStart c + 1))
      else none := by
  have hmark : (if (c :: rest).head? = some '@' then 1 else 0) = identifierStart c := by
    simp only [List.head?_cons, Option.some_inj, identifierStart]
  simp only [identifier?, hmark, skipWhile_eq]
  generalize identifierStart c = start
  cases hstart : (c :: rest)[start]? with
  | none =>
    rw [List.drop_eq_nil_of_le (List.getElem?_eq_none_iff.1 hstart)]
    rfl
  | some d =>
    rw [drop_of_getElem? hstart]
    rfl

/-- A number by its first character: the other radixes are tried only behind a zero. -/
theorem number?_eq (c : Char) (rest : List Char) :
    number? (c :: rest) =
      if isSign c || c.isDigit then
        if c = '0' then (radixStop? (c :: rest)).or (decimalStop? (c :: rest) c)
        else decimalStop? (c :: rest) c
      else none := by
  -- a number in another radix begins with a zero
  have hradix : c ≠ '0' → radixNumber? (c :: rest) = none := by
    intro hc
    rw [radixNumber?]
    rintro mark others heq
    exact hc (List.cons.inj heq).1
  rw [number?]
  split
  case isTrue hfirst =>
    rw [decimalStop?_eq hfirst]
    split
    case isTrue hzero => rw [hzero, radixStop?_eq]
    case isFalse hzero => rw [hradix hzero, Option.none_or]
  case isFalse hfirst =>
    have hzero : c ≠ '0' := by
      rintro rfl
      exact hfirst rfl
    rw [hradix hzero, Option.none_or, decimalNumber?, wholePart?]
    rw [Bool.not_eq_true, Bool.or_eq_false_iff] at hfirst
    simp [hfirst.1, hfirst.2]

end Highlight.CSharp.InPlace
