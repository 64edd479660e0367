import Highlight.Regex.Reader
import Mathlib.Data.List.TakeDrop

/-!
# Readers and what stands behind a pattern

A reader looks at no more of a pattern than it takes. So a closing parenthesis behind the pattern is
still there when the rest has been read, and what was read is the same. There are two exceptions: a
comment that goes on at the end takes the parenthesis, and a part that is not complete at the end
may take it. `Closes` says so of single results, and `Local` of readers.
-/

namespace Highlight.Regex

variable {α β : Type} {n m : Nat}

/-- How what is read changes with a closing parenthesis behind the text; `n` characters are left
behind it at most. -/
inductive Closes (n : Nat) : Option (α × List Char) → Option (α × List Char) → Prop where
  /-- The parenthesis stands behind what is left. -/
  | kept (a : α) {rest : List Char} (hle : rest.length ≤ n) :
    Closes n (some (a, rest)) (some (a, rest ++ [')']))
  /-- The parenthesis is lost in a comment. -/
  | swallowed (a : α) : Closes n (some (a, [])) (some (a, []))
  | failed : Closes n none none
  /-- The parenthesis completes what could not be read without it. -/
  | taken (a : α) : Closes n none (some (a, []))

/-- Whether a reader looks at nothing but what it takes. -/
def Local (f : List Char → Option (α × List Char)) : Prop :=
  ∀ cs, Closes cs.length (f cs) (f (cs ++ [')']))

/-! ## Combinations of readers -/

namespace Closes

variable {found found' : Option (α × List Char)}

lemma length_le {a : α} {rest : List Char} (h : Closes n (some (a, rest)) found') :
    rest.length ≤ n := by
  cases h with
  | kept _ hle => exact hle
  | swallowed _ => exact Nat.zero_le n

lemma mono (h : Closes n found found') (hle : n ≤ m) : Closes m found found' := by
  cases h with
  | kept a hrest => exact .kept a (Nat.le_trans hrest hle)
  | swallowed a => exact .swallowed a
  | failed => exact .failed
  | taken a => exact .taken a

/-- A reading that leaves nothing, seen from a comment that has taken the parenthesis. -/
theorem refl_of_nil (h : ∀ a rest, found = some (a, rest) → rest = []) : Closes n found found := by
  cases found with
  | none => exact .failed
  | some result =>
    obtain ⟨a, rest⟩ := result
    rw [h a rest rfl]
    exact .swallowed a

/-- What is read behind a first part changes as both parts do. -/
theorem bind {g g' : α × List Char → Option (β × List Char)} (h : Closes n found found')
    (hkept : ∀ a rest, rest.length ≤ n → Closes m (g (a, rest)) (g' (a, rest ++ [')'])))
    (hsame : ∀ a, g (a, []) = g' (a, []))
    (hnil : ∀ a b rest, g' (a, []) = some (b, rest) → rest = []) :
    Closes m (found.bind g) (found'.bind g') := by
  cases h with
  | kept a hle => exact hkept a _ hle
  | swallowed a =>
    show Closes m (g (a, [])) (g' (a, []))
    rw [hsame]
    exact refl_of_nil (hnil a)
  | failed => exact .failed
  | taken a =>
    show Closes m none (g' (a, []))
    cases hfound : g' (a, []) with
    | none => exact .failed
    | some result =>
      obtain ⟨b, rest⟩ := result
      rw [hnil a b rest hfound]
      exact .taken b

/-- What cannot be read without a text changes as what it is read behind. -/
theorem bind_of_nil_eq_none {g g' : α × List Char → Option (β × List Char)}
    (h : Closes n found found')
    (hkept : ∀ a rest, rest.length ≤ n → Closes m (g (a, rest)) (g' (a, rest ++ [')'])))
    (hnone : ∀ a, g (a, []) = none) (hnone' : ∀ a, g' (a, []) = none) :
    Closes m (found.bind g) (found'.bind g') := by
  refine h.bind hkept (fun a => ?_) fun a b rest hread => ?_
  · rw [hnone, hnone']
  · rw [hnone'] at hread
    cases hread

lemma map (f : α → β) (h : Closes n found found') :
    Closes n (found.map fun result => (f result.1, result.2))
      (found'.map fun result => (f result.1, result.2)) := by
  cases h with
  | kept a hle => exact .kept (f a) hle
  | swallowed a => exact .swallowed (f a)
  | failed => exact .failed
  | taken a => exact .taken (f a)

end Closes

/-- A reader that reads from nothing leaves nothing. -/
theorem Local.nil {f : List Char → Option (α × List Char)} (h : Local f) (a : α)
    (rest : List Char) (hread : f [] = some (a, rest)) : rest = [] := by
  have hclose := h []
  rw [hread] at hclose
  exact List.length_eq_zero_iff.1 (Nat.le_zero.1 hclose.length_le)

lemma Local.map {f : List Char → Option (α × List Char)} (g : α → β) (h : Local f) :
    Local fun cs => (f cs).map fun result => (g result.1, result.2) :=
  fun cs => (h cs).map g

/-- Two readers one after the other look at nothing but what they take. -/
theorem Local.bind {f : List Char → Option (α × List Char)}
    {g : α × List Char → Option (β × List Char)} (hf : Local f)
    (hg : ∀ a, Local fun cs => g (a, cs)) : Local fun cs => (f cs).bind g :=
  fun cs => (hf cs).bind (fun a rest hle => (hg a rest).mono hle) (fun _ => rfl)
    fun a => (hg a).nil

/-- Behind the characters that a text begins with, the rest is read. -/
theorem Local.drop {f : List Char → Option (α × List Char)} (h : Local f) {cs : List Char}
    (hle : n ≤ cs.length) : Closes cs.length (f (cs.drop n)) (f ((cs ++ [')']).drop n)) := by
  rw [List.drop_append_of_le_length hle]
  refine (h _).mono ?_
  rw [List.length_drop]
  exact Nat.sub_le _ _

/-- Nothing is read but what is there already. -/
theorem local_some (a : α) : Local fun cs => some (a, cs) :=
  fun _ => .kept a (Nat.le_refl _)

lemma local_none : Local fun _ => (none : Option (α × List Char)) :=
  fun _ => .failed

/-- What has been read already may be refused before the rest is read. -/
theorem local_bind (found : Option α) {g : α → List Char → Option (β × List Char)}
    (hg : ∀ a, Local (g a)) : Local fun cs => found.bind fun a => g a cs := by
  cases found with
  | none => exact local_none
  | some a => exact hg a

/-! ## Blanks and comments -/

lemma length_dropTrivia_le (inComment : Bool) (cs : List Char) :
    (dropTrivia inComment cs).length ≤ cs.length := by
  induction cs generalizing inComment with
  | nil => exact Nat.le_refl 0
  | cons c rest ih =>
    rw [dropTrivia, List.length_cons]
    split
    · exact Nat.le_succ_of_le (ih _)
    · split
      · exact Nat.le_succ_of_le (ih _)
      · split
        · exact Nat.le_succ_of_le (ih _)
        · exact Nat.le_refl _

/-- A parenthesis behind blanks and comments stands behind what they are followed by, unless it is
lost in the last comment. -/
theorem dropTrivia_append (inComment : Bool) (cs : List Char) :
    dropTrivia inComment (cs ++ [')']) = dropTrivia inComment cs ++ [')'] ∨
      dropTrivia inComment cs = [] ∧ dropTrivia inComment (cs ++ [')']) = [] := by
  induction cs generalizing inComment with
  | nil =>
    cases inComment with
    | false => exact .inl rfl
    | true => exact .inr ⟨rfl, rfl⟩
  | cons c rest ih =>
    rw [List.cons_append, dropTrivia, dropTrivia]
    split
    · exact ih _
    · split
      · exact ih _
      · split
        · exact ih _
        · exact .inl rfl

/-- Leaving out what does not count does not make a text longer. -/
lemma length_skipTrivia_le (verbose : Bool) (cs : List Char) :
    (skipTrivia verbose cs).length ≤ cs.length := by
  unfold skipTrivia
  split
  · exact length_dropTrivia_le false cs
  · exact Nat.le_refl _

/-- A parenthesis stays behind what counts, or it is lost in a comment. -/
lemma skipTrivia_append (verbose : Bool) (cs : List Char) :
    skipTrivia verbose (cs ++ [')']) = skipTrivia verbose cs ++ [')'] ∨
      skipTrivia verbose cs = [] ∧ skipTrivia verbose (cs ++ [')']) = [] := by
  unfold skipTrivia
  split
  · exact dropTrivia_append false cs
  · exact .inl rfl

/-- Blanks and comments ahead of a part do not matter. -/
theorem Local.skipTrivia {f : List Char → Option (α × List Char)} (h : Local f) (verbose : Bool) :
    Local fun cs => f (skipTrivia verbose cs) := by
  intro cs
  rcases skipTrivia_append verbose cs with hskip | ⟨hskip, hskip'⟩
  · simp only [hskip]
    exact (h _).mono (length_skipTrivia_le verbose cs)
  · simp only [hskip, hskip']
    exact .refl_of_nil h.nil

/-! ## Escapes -/

lemma local_readBraced (verbose inComment : Bool) : Local (readBraced verbose inComment) := by
  intro cs
  induction cs generalizing inComment with
  | nil => cases verbose <;> cases inComment <;> exact .failed
  | cons c cs ih =>
    have hle : cs.length ≤ (c :: cs).length := Nat.le_succ _
    rw [List.cons_append, readBraced, readBraced]
    split
    · exact (ih _).mono hle
    · split
      · exact (ih _).mono hle
      · split
        · exact (ih _).mono hle
        · split
          · exact .kept [] hle
          · exact ((ih _).map (c :: ·)).mono hle

lemma local_readChars (verbose : Bool) (count : Nat) : Local (readChars verbose count) := by
  induction count with
  | zero => exact local_some []
  | succ count ih =>
    intro cs
    cases cs with
    | nil =>
      cases count with
      | zero => cases verbose <;> exact .taken [')']
      | succ count => cases verbose <;> exact .failed
    | cons c cs => exact (((ih.skipTrivia verbose).map (c :: ·)) cs).mono (Nat.le_succ _)

lemma local_readCodePoint (verbose : Bool) (count : Nat) :
    Local (readCodePoint verbose count) := by
  -- a code point is written in braces or with a fixed number of digits
  have hbraced : Local fun cs => (readBraced verbose false cs).bind fun result =>
      (Text.codePoint? result.1).bind fun c =>
        some ((⟨c, false⟩ : Literal), skipTrivia verbose result.2) := by
    refine (local_readBraced verbose false).bind fun inside => ?_
    refine local_bind (Text.codePoint? inside) fun c => ?_
    exact (local_some (⟨c, false⟩ : Literal)).skipTrivia verbose
  have hdigits : Local fun cs => (readChars verbose count cs).bind fun result =>
      (Text.codePoint? result.1).bind fun c => some ((⟨c, count = 2⟩ : Literal), result.2) := by
    refine (local_readChars verbose count).bind fun digits => ?_
    exact local_bind (Text.codePoint? digits) fun c => local_some _
  intro cs
  unfold readCodePoint
  rcases skipTrivia_append verbose cs with hskip | ⟨hskip, hskip'⟩
  · have hle := length_skipTrivia_le verbose cs
    rw [hskip]
    generalize skipTrivia verbose cs = here at hle
    refine Closes.mono ?_ hle
    cases here with
    | nil => exact hdigits []
    | cons c here =>
      by_cases hbrace : c = '\x7b'
      · rw [hbrace]
        exact (hbraced here).mono (Nat.le_succ _)
      · rw [List.cons_append]
        split
        case h_1 heq => exact absurd (List.cons.inj heq).1 hbrace
        case h_2 =>
          split
          case h_1 heq => exact absurd (List.cons.inj heq).1 hbrace
          case h_2 => exact hdigits (c :: here)
  · rw [hskip, hskip']
    exact .refl_of_nil hdigits.nil

lemma local_readProperty (verbose negated : Bool) : Local (readProperty verbose negated) := by
  -- a property is a letter or a name in braces
  have hbraced : Local fun cs => (readBraced verbose false cs).map fun result =>
      (ClassSet.property (propertyQuery result.1).1 (negated != (propertyQuery result.1).2),
        result.2) :=
    (local_readBraced verbose false).map fun inside =>
      ClassSet.property (propertyQuery inside).1 (negated != (propertyQuery inside).2)
  intro cs
  unfold readProperty
  rcases skipTrivia_append verbose cs with hskip | ⟨hskip, hskip'⟩
  · have hle := length_skipTrivia_le verbose cs
    rw [hskip]
    generalize skipTrivia verbose cs = here at hle
    refine Closes.mono ?_ hle
    cases here with
    | nil => exact .taken _
    | cons c here =>
      by_cases hslash : c = '\\'
      · rw [hslash]
        exact .failed
      · by_cases hbrace : c = '\x7b'
        · rw [hbrace]
          exact (hbraced here).mono (Nat.le_succ _)
        · simp only [List.cons_append]
          exact .kept _ (Nat.le_succ _)
  · rw [hskip, hskip']
    exact .failed

/-- Whether a text is a brace with nothing but blanks and comments behind it. -/
def IsOpenBrace (verbose : Bool) (cs : List Char) : Prop :=
  ∃ rest, cs = '\x7b' :: rest ∧ skipTrivia verbose rest = []

variable {verbose : Bool} {cs : List Char}

/-- Where a brace ends the text it is not told whether it opens the name of a word boundary; before
a parenthesis it does not. -/
theorem readWordBoundary_of_isOpenBrace (h : IsOpenBrace verbose cs) :
    readWordBoundary verbose cs = none ∧
      (readWordBoundary verbose (cs ++ [')']) = none ∨
        readWordBoundary verbose (cs ++ [')']) = some (.wordBoundary, cs ++ [')'])) := by
  obtain ⟨rest, rfl, hnil⟩ := h
  unfold readWordBoundary
  rcases skipTrivia_append verbose rest with hskip | ⟨-, hskip⟩
  · rw [hnil] at hskip
    simp only [List.cons_append, hnil, hskip]
    exact ⟨trivial, .inr rfl⟩
  · simp only [List.cons_append, hnil, hskip]
    exact ⟨trivial, .inl trivial⟩

/-- A word boundary is read locally, unless a brace behind it ends the text. -/
lemma closes_readWordBoundary (h : ¬ IsOpenBrace verbose cs) :
    Closes cs.length (readWordBoundary verbose cs) (readWordBoundary verbose (cs ++ [')'])) := by
  cases cs with
  | nil => exact .kept _ (Nat.le_refl 0)
  | cons c rest =>
    by_cases hbrace : c = '\x7b'
    · subst hbrace
      unfold readWordBoundary
      -- something counts behind the brace, so the parenthesis does not decide
      obtain ⟨d, others, hskip⟩ :=
        List.exists_cons_of_ne_nil fun hnil => h ⟨rest, rfl, hnil⟩
      have hskip' : skipTrivia verbose (rest ++ [')']) = d :: (others ++ [')']) := by
        rcases skipTrivia_append verbose rest with hkept | ⟨hnil, -⟩
        · rw [hkept, hskip, List.cons_append]
        · rw [hskip] at hnil
          cases hnil
      simp only [List.cons_append, hskip, hskip']
      split
      · refine Closes.mono (((local_readBraced verbose false).bind fun inside => ?_) rest)
          (Nat.le_succ _)
        simp only
        split
        · exact local_some _
        · exact local_some _
        · exact local_some _
        · exact local_some _
        · exact local_none
      · exact .kept _ (Nat.le_refl _)
    · have hplain (rest : List Char) :
          readWordBoundary verbose (c :: rest) = some (.wordBoundary, c :: rest) := by
        unfold readWordBoundary
        split
        case h_1 heq => exact absurd (List.cons.inj heq).1 hbrace
        case h_2 => rfl
      rw [List.cons_append, hplain, hplain]
      exact .kept _ (Nat.le_refl _)

lemma readEscape_b (verbose : Bool) (rest : List Char) :
    readEscape verbose ('b' :: rest) =
      (readWordBoundary verbose rest).map fun result => (.assertion result.1, result.2) := rfl

/-- An escape is read whole, but for a word boundary that a brace at the end may go on with. -/
theorem closes_readEscape (h : ∀ rest, cs = 'b' :: rest → ¬ IsOpenBrace verbose rest) :
    Closes cs.length (readEscape verbose cs) (readEscape verbose (cs ++ [')'])) := by
  cases cs with
  | nil => exact .taken _
  | cons c rest =>
    have hle : rest.length ≤ (c :: rest).length := Nat.le_succ _
    have hcodePoint (count : Nat) :=
      (((local_readCodePoint verbose count).map Escape.literal) rest).mono hle
    have hproperty (negated : Bool) :=
      (((local_readProperty verbose negated).map Escape.set) rest).mono hle
    -- a word boundary is the one escape that looks beyond what it takes
    by_cases hb : c = 'b'
    · subst hb
      rw [List.cons_append, readEscape_b, readEscape_b]
      exact ((closes_readWordBoundary (h rest rfl)).map Escape.assertion).mono hle
    · rw [List.cons_append]
      unfold readEscape
      simp only
      split
      all_goals first
        | exact hcodePoint _
        | exact hproperty _
        | exact .kept _ hle
        | skip
      · exact absurd rfl hb
      · split
        · exact .kept _ hle
        · exact .failed

end Highlight.Regex
