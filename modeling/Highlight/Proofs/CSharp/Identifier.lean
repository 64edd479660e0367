import Highlight.CSharp.Tokens
import Highlight.Proofs.CSharp.Bounds

/-!
# Identifiers of C#

An identifier is an optional at sign and a run of characters, and it takes as many of them as there
are. `identifier?_eq_some_iff` says so of the recognizer. No other recognizer accepts where an
identifier stands (`scan_of_identifier`), and no other token is in a category of words
(`identifier?_of_scan`).
-/

namespace Highlight.CSharp

/-- Whether a text is an identifier from its first character to its last. -/
def IsIdentifier (word : List Char) : Prop :=
  ∃ c run, (word = c :: run ∨ word = '@' :: c :: run) ∧ isIdentifierStart c = true ∧
    ∀ d ∈ run, isIdentifierPart d = true

/-- Whether a text begins with an identifier of `n` characters that the next character does not
continue. -/
def BeginsWithIdentifier (text : List Char) (n : Nat) : Prop :=
  n ≤ text.length ∧ IsIdentifier (text.take n) ∧ ∀ c, text[n]? = some c → isIdentifierPart c = false

/-- Whether a category is given to words: the three categories of identifiers. -/
def isWordCategory (category : Category) : Bool :=
  category == .knownIdentifier || category == .keyword || category == .identifier

variable {text : List Char} {n : Nat}

/-! ## How far an identifier goes -/

/-- A run goes on while its condition holds, and the character behind it fails the condition. -/
theorem runLength_eq_iff (p : Char → Bool) (text : List Char) (n : Nat) :
    runLength p text = n ↔
      n ≤ text.length ∧ (∀ c ∈ text.take n, p c = true) ∧ ∀ c, text[n]? = some c → p c = false := by
  induction text generalizing n with
  | nil => cases n <;> simp [runLength]
  | cons c rest ih =>
    cases n with
    | zero =>
      by_cases hc : p c = true
      · simp [runLength, hc]
      · simp [runLength, hc]
    | succ n =>
      by_cases hc : p c = true
      · have hcons : runLength p (c :: rest) = runLength p rest + 1 := by
          simp [runLength, hc]
        rw [hcons, Nat.succ_inj, ih]
        simp [hc]
      · simp [runLength, hc]

lemma not_isIdentifierStart_at : isIdentifierStart '@' = false := by decide

/-- The identifier without a mark. -/
theorem identifier?_cons {c : Char} {rest : List Char} (hstart : isIdentifierStart c = true) :
    identifier? (c :: rest) = some (1 + runLength isIdentifierPart rest) := by
  have hmark : c ≠ '@' := by
    rintro rfl
    rw [not_isIdentifierStart_at] at hstart
    cases hstart
  unfold identifier?
  simp [hmark, hstart]

/-- The identifier behind an at sign. -/
theorem identifier?_at_cons {c : Char} {rest : List Char} (hstart : isIdentifierStart c = true) :
    identifier? ('@' :: c :: rest) = some (2 + runLength isIdentifierPart rest) := by
  unfold identifier?
  simp [hstart]

/-- Where an identifier is found, the text begins with it, with an at sign or without one. -/
theorem exists_of_identifier? (h : identifier? text = some n) :
    ∃ c rest, isIdentifierStart c = true ∧
      (text = c :: rest ∧ n = 1 + runLength isIdentifierPart rest ∨
        text = '@' :: c :: rest ∧ n = 2 + runLength isIdentifierPart rest) := by
  unfold identifier? at h
  simp only at h
  by_cases hmark : text.head? = some '@'
  · obtain ⟨rest, rfl⟩ : ∃ rest, text = '@' :: rest := List.head?_eq_some_iff.1 hmark
    cases rest with
    | nil => simp at h
    | cons c rest =>
      by_cases hstart : isIdentifierStart c = true
      · refine ⟨c, rest, hstart, .inr ⟨rfl, ?_⟩⟩
        simpa [hstart, eq_comm] using h
      · simp [hstart] at h
  · rw [if_neg hmark] at h
    cases text with
    | nil => simp at h
    | cons c rest =>
      by_cases hstart : isIdentifierStart c = true
      · refine ⟨c, rest, hstart, .inl ⟨rfl, ?_⟩⟩
        simpa [hstart, eq_comm] using h
      · simp [hstart] at h

/-- An identifier is found exactly as far as it goes: its characters are one, and the character
behind them could not continue it. -/
theorem identifier?_eq_some_iff (text : List Char) (n : Nat) :
    identifier? text = some n ↔ BeginsWithIdentifier text n := by
  constructor
  · intro h
    obtain ⟨c, rest, hstart, ⟨rfl, rfl⟩ | ⟨rfl, rfl⟩⟩ := exists_of_identifier? h
    · obtain ⟨hle, hrun, hend⟩ := (runLength_eq_iff isIdentifierPart rest _).1 rfl
      rw [Nat.add_comm]
      refine ⟨Nat.succ_le_succ hle, ⟨c, _, .inl ?_, hstart, hrun⟩, ?_⟩
      · rw [List.take_succ_cons]
      · rw [List.getElem?_cons_succ]
        exact hend
    · obtain ⟨hle, hrun, hend⟩ := (runLength_eq_iff isIdentifierPart rest _).1 rfl
      rw [Nat.add_comm]
      refine ⟨Nat.succ_le_succ (Nat.succ_le_succ hle), ⟨c, _, .inr ?_, hstart, hrun⟩, ?_⟩
      · rw [List.take_succ_cons, List.take_succ_cons]
      · rw [List.getElem?_cons_succ, List.getElem?_cons_succ]
        exact hend
  · rintro ⟨hle, ⟨c, run, hword | hword, hstart, hrun⟩, hend⟩
    · -- the identifier has no mark, so it begins with `c`
      obtain ⟨k, rest, rfl, rfl, rfl⟩ : ∃ k rest, n = k + 1 ∧ text = c :: rest ∧
          run = rest.take k := by
        cases n with
        | zero => simp at hword
        | succ k =>
          cases text with
          | nil => simp at hword
          | cons d rest =>
            rw [List.take_succ_cons, List.cons.injEq] at hword
            exact ⟨k, rest, rfl, by rw [hword.1], hword.2.symm⟩
      -- the characters behind `c` are the run that the scanner takes
      have hlength : runLength isIdentifierPart rest = k :=
        (runLength_eq_iff _ _ _).2 ⟨Nat.le_of_succ_le_succ hle, hrun, hend⟩
      rw [identifier?_cons hstart, hlength, Nat.add_comm]
    · -- an at sign stands before `c`
      obtain ⟨k, rest, rfl, rfl, rfl⟩ : ∃ k rest, n = k + 2 ∧ text = '@' :: c :: rest ∧
          run = rest.take k := by
        match n, text with
        | 0, _ => simp at hword
        | _ + 1, [] => simp at hword
        | 1, _ :: _ => simp at hword
        | _ + 2, [_] => simp at hword
        | k + 2, d :: e :: rest =>
          rw [List.take_succ_cons, List.take_succ_cons, List.cons.injEq, List.cons.injEq] at hword
          exact ⟨k, rest, rfl, by rw [hword.1, hword.2.1], hword.2.2.symm⟩
      have hlength : runLength isIdentifierPart rest = k :=
        (runLength_eq_iff _ _ _).2
          ⟨Nat.le_of_succ_le_succ (Nat.le_of_succ_le_succ hle), hrun, hend⟩
      rw [identifier?_at_cons hstart, hlength, Nat.add_comm]

/-! ## Identifiers among the tokens -/

/-- Of the characters that other tokens begin with, none begins an identifier. -/
theorem ne_of_isIdentifierStart {c : Char} (hstart : isIdentifierStart c = true) :
    c ≠ ' ' ∧ c ≠ '\t' ∧ c ≠ '/' ∧ c ≠ '#' ∧ c ≠ '"' ∧ c ≠ '$' ∧ c ≠ '\'' := by
  refine ⟨?_, ?_, ?_, ?_, ?_, ?_, ?_⟩ <;> rintro rfl <;> revert hstart <;> decide

/-- The recognizers that are asked before identifiers. -/
def earlierRecognizers : List Recognizer :=
  [blockComment, lineComment, directive, verbatimString, interpolatedString, plainString,
    charLiteral]

lemma recognizers_eq (words : Words) :
    recognizers words = earlierRecognizers ++ identifier words :: [number] := rfl

/-- Where an identifier stands, the recognizers that are asked before decline. -/
theorem declined_of_identifier? (h : identifier? text = some n) {r : Recognizer}
    (hr : r ∈ earlierRecognizers) : r text = none := by
  obtain ⟨c, rest, hstart, hform⟩ := exists_of_identifier? h
  obtain ⟨-, -, hslash, hhash, hquote, hdollar, htick⟩ := ne_of_isIdentifierStart hstart
  simp only [earlierRecognizers, List.mem_cons, List.not_mem_nil, or_false] at hr
  -- the first character decides, which is a letter or the sign of a verbatim identifier
  rcases hform with ⟨rfl, -⟩ | ⟨rfl, -⟩
  · rcases hr with rfl | rfl | rfl | rfl | rfl | rfl | rfl
    · simp [blockComment, Marker.startsWith, hslash.symm]
    · simp [lineComment, Marker.startsWith, hslash.symm]
    · simp [directive, hhash]
    · have hat : c ≠ '@' := by
        rintro rfl
        rw [not_isIdentifierStart_at] at hstart
        cases hstart
      simp [verbatimString, verbatimOpening?, hat, hdollar]
    · simp [interpolatedString, interpolatedString?, hdollar]
    · simp [plainString, plainString?, hquote]
    · simp [charLiteral, charLiteral?, htick]
  · rcases hr with rfl | rfl | rfl | rfl | rfl | rfl | rfl
    · simp [blockComment, Marker.startsWith]
    · simp [lineComment, Marker.startsWith]
    · simp [directive]
    · simp [verbatimString, verbatimOpening?, hquote, hdollar]
    · simp [interpolatedString, interpolatedString?]
    · simp [plainString, plainString?]
    · simp [charLiteral, charLiteral?]

/-- A text that begins with an identifier does not begin with blanks. -/
lemma runLength_isBlank_of_identifier? (h : identifier? text = some n) :
    runLength isBlank text = 0 := by
  obtain ⟨c, rest, hstart, hform⟩ := exists_of_identifier? h
  obtain ⟨hspace, htab, -⟩ := ne_of_isIdentifierStart hstart
  rcases hform with ⟨rfl, -⟩ | ⟨rfl, -⟩
  · simp [runLength, isBlank, hspace, htab]
  · simp [runLength, isBlank]

/-- Where nothing is left open and an identifier stands, it is the token, in the category of its
word. -/
theorem scan_of_identifier? (words : Words) (h : identifier? text = some n) :
    scan words .normal text = { length := n, category := words.categoryOf (text.take n) } := by
  have haccept : identifier words text =
      some { length := n, category := words.categoryOf (text.take n) } := by
    unfold identifier
    rw [h]
    rfl
  unfold scan
  simp only [runLength_isBlank_of_identifier? h, Nat.lt_irrefl, if_false]
  exact scanNormal_of_declined (recognizers_eq words)
    (fun _ hr => declined_of_identifier? h hr) haccept

/-- A scan with the color of a word is one of an identifier, and as long. -/
lemma identifier?_of_scanNormal {words : Words}
    (hword : isWordCategory (scanNormal words text).category = true) :
    identifier? text = some (scanNormal words text).length := by
  unfold scanNormal at hword ⊢
  cases hfind : (recognizers words).findSome? (· text) with
  | none =>
    rw [hfind, Option.getD_none, lone] at hword
    simp only at hword
    split at hword <;> cases hword
  | some scan =>
    rw [hfind, Option.getD_some] at hword
    obtain ⟨recognizer, hr, haccept⟩ := List.exists_of_findSome?_eq_some hfind
    simp only [recognizers, List.mem_cons, List.not_mem_nil, or_false] at hr
    rw [Option.getD_some]
    -- each of the other recognizers has one category, which is none of the three
    rcases hr with rfl | rfl | rfl | rfl | rfl | rfl | rfl | rfl | rfl
    · unfold blockComment commentScan at haccept
      split at haccept
      · cases haccept
        split at hword <;> cases hword
      · cases haccept
    · unfold lineComment at haccept
      split at haccept <;> cases haccept
      cases hword
    · unfold directive at haccept
      split at haccept <;> cases haccept
      cases hword
    · obtain ⟨opening, -, rfl⟩ := Option.map_eq_some_iff.1 haccept
      unfold verbatimScan at hword
      split at hword <;> cases hword
    · obtain ⟨m, -, rfl⟩ := Option.map_eq_some_iff.1 haccept
      cases hword
    · obtain ⟨m, -, rfl⟩ := Option.map_eq_some_iff.1 haccept
      cases hword
    · obtain ⟨m, -, rfl⟩ := Option.map_eq_some_iff.1 haccept
      cases hword
    · obtain ⟨m, hm, rfl⟩ := Option.map_eq_some_iff.1 haccept
      exact hm
    · obtain ⟨m, -, rfl⟩ := Option.map_eq_some_iff.1 haccept
      cases hword

/-- A token in a category of words is an identifier, and nothing is left open before it. -/
theorem identifier?_of_scan {words : Words} {now : LineState}
    (hword : isWordCategory (scan words now text).category = true) :
    now = .normal ∧ identifier? text = some (scan words now text).length := by
  unfold scan at hword ⊢
  simp only at hword ⊢
  split at hword
  · cases hword
  · rename_i hblank
    rw [if_neg hblank]
    cases now with
    | normal => exact ⟨rfl, identifier?_of_scanNormal hword⟩
    | blockComment =>
      unfold commentScan at hword
      simp only at hword
      split at hword <;> cases hword
    | verbatimString =>
      unfold verbatimScan at hword
      simp only at hword
      split at hword <;> cases hword

end Highlight.CSharp
