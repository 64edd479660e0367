import Highlight.Proofs.Marker
import Highlight.Proofs.Words
import Highlight.Rule

/-!
# Texts up to letter case

Two texts that differ only in the case of ASCII letters have the same lower case, which leaves all
other characters alone. So a function that gives a text and its lower case the same value gives such
texts the same value. The search for a mark without letters is one, and so are the lengths of texts
and, where case does not count, the look-up of words. Of the characters only the capitals have to be
looked at (`ignoresCase_of_capitals`).
-/

namespace Highlight

namespace Text

/-- The text with small letters in place of the capitals of ASCII. -/
def lower (text : List Char) : List Char := text.map Char.toLower

/-- Whether two texts differ in the case of ASCII letters only. -/
def SameUpToCase (a b : List Char) : Prop := lower a = lower b

instance (a b : List Char) : Decidable (SameUpToCase a b) :=
  inferInstanceAs (Decidable (lower a = lower b))

/-- Whether a function gives both cases of an ASCII letter the same value. -/
def IgnoresCase {α : Type} (f : Char → α) : Prop := ∀ c : Char, f c.toLower = f c

/-! ## Characters -/

lemma toLower_of_not_isUpper {c : Char} (h : c.isUpper = false) : c.toLower = c :=
  dif_neg fun hupper => Bool.false_ne_true (h.symm.trans (decide_eq_true hupper))

/-- The capitals of ASCII. -/
def capitals : List Char := (List.range 26).map fun n => Char.ofNat (0x41 + n)

/-- A character is its own lower case, or it is a capital. -/
theorem toLower_eq_or (c : Char) : c.toLower = c ∨ c ∈ capitals := by
  cases hupper : c.isUpper with
  | false => exact .inl (toLower_of_not_isUpper hupper)
  | true =>
    obtain ⟨hfirst, hlast⟩ := of_decide_eq_true hupper
    have hfirst : 0x41 ≤ c.toNat := hfirst
    have hlast : c.toNat ≤ 0x5a := hlast
    refine .inr (List.mem_map.2 ⟨c.toNat - 0x41, List.mem_range.2 (by omega), ?_⟩)
    rw [Nat.add_sub_cancel' hfirst, Char.ofNat_toNat]

/-- A function ignores letter case if it does for the capitals of ASCII. -/
theorem ignoresCase_of_capitals {α : Type} [DecidableEq α] {f : Char → α}
    (h : (capitals.all fun c => decide (f c.toLower = f c)) = true) : IgnoresCase f := by
  intro c
  rcases toLower_eq_or c with hself | hcapital
  · rw [hself]
  · exact of_decide_eq_true (List.all_eq_true.1 h c hcapital)

lemma ignoresCase_toLower : IgnoresCase Char.toLower := ignoresCase_of_capitals (by decide)

lemma ignoresCase_isAlpha : IgnoresCase Char.isAlpha := ignoresCase_of_capitals (by decide)

lemma ignoresCase_utf8Size : IgnoresCase Char.utf8Size := ignoresCase_of_capitals (by decide)

lemma ignoresCase_isBlank : IgnoresCase Unicode.isBlank := ignoresCase_of_capitals (by decide)

lemma ignoresCase_lowerCaseHead : IgnoresCase Unicode.lowerCaseHead :=
  ignoresCase_of_capitals (by decide)

/-- A character that is no letter is the lower case of itself alone. -/
theorem toLower_eq_iff {c d : Char} (hd : d.isAlpha = false) : c.toLower = d ↔ c = d := by
  rcases toLower_eq_or c with hself | hcapital
  · rw [hself]
  · -- neither the capital nor its small letter is the character
    have hletters : capitals.all Char.isAlpha = true := by decide
    have hletter := List.all_eq_true.1 hletters c hcapital
    constructor
    · rintro rfl
      rw [ignoresCase_isAlpha, hletter] at hd
      cases hd
    · rintro rfl
      rw [hletter] at hd
      cases hd

/-! ## Texts -/

lemma findSome?_congr {α β : Type} {f g : α → Option β} {xs : List α}
    (h : ∀ x ∈ xs, f x = g x) : xs.findSome? f = xs.findSome? g := by
  rw [← List.head?_filterMap, ← List.head?_filterMap, List.filterMap_congr h]

section

variable {text : List Char} {c : Char}

@[simp] lemma lower_nil : lower [] = [] := rfl

@[simp] lemma lower_cons (c : Char) (rest : List Char) :
    lower (c :: rest) = c.toLower :: lower rest := rfl

@[simp] lemma length_lower (text : List Char) : (lower text).length = text.length :=
  List.length_map _

lemma lower_drop (text : List Char) (n : Nat) : lower (text.drop n) = (lower text).drop n :=
  List.map_drop

lemma lower_take (text : List Char) (n : Nat) : lower (text.take n) = (lower text).take n :=
  List.map_take

@[simp] lemma lower_lower (text : List Char) : lower (lower text) = lower text := by
  unfold lower
  rw [List.map_map]
  exact List.map_congr_left fun c _ => ignoresCase_toLower c

/-- A text is of one character and others in lower case if it begins so itself. -/
theorem lower_eq_cons_iff {rest : List Char} :
    lower text = c :: rest ↔ ∃ d others, text = d :: others ∧ d.toLower = c ∧ lower others = rest :=
  List.map_eq_cons_iff

/-- What begins with characters that are no letters in lower case begins with them. -/
theorem exists_of_lower_eq_append (mark : List Char) (hmark : mark.any Char.isAlpha = false)
    {rest : List Char} (h : lower text = mark ++ rest) :
    ∃ others, text = mark ++ others ∧ lower others = rest := by
  induction mark generalizing text with
  | nil => exact ⟨text, rfl, h⟩
  | cons m mark ih =>
    obtain ⟨hm, hothers⟩ := Bool.or_eq_false_iff.1 hmark
    obtain ⟨d, tail, rfl, hd, htail⟩ := lower_eq_cons_iff.1 h
    obtain rfl := (toLower_eq_iff hm).1 hd
    obtain ⟨others, rfl, hrest⟩ := ih hothers htail
    exact ⟨others, rfl, hrest⟩

/-- What does not begin with characters that are no letters does not in lower case either. -/
theorem not_lower_eq_append (mark : List Char) (hmark : mark.any Char.isAlpha = false)
    (h : ∀ others, text = mark ++ others → False) (rest : List Char) :
    lower text = mark ++ rest → False := by
  intro hlower
  obtain ⟨others, htext, -⟩ := exists_of_lower_eq_append mark hmark hlower
  exact h others htext

/-- A character without letter case begins a text if it begins its lower case. -/
lemma head?_lower (hc : c.isAlpha = false) : (lower text).head? = some c ↔ text.head? = some c := by
  cases text with
  | nil => rfl
  | cons d rest => simp [toLower_eq_iff hc]

/-- A condition on the first character that ignores case is the same in lower case. -/
theorem any_head?_lower {p : Char → Bool} (hp : IgnoresCase p) (text : List Char) :
    (lower text).head?.any p = text.head?.any p := by
  cases text with
  | nil => rfl
  | cons c rest => exact hp c

lemma any_lower {p : Char → Bool} (hp : IgnoresCase p) (text : List Char) :
    (lower text).any p = text.any p := by
  unfold lower
  rw [List.any_map]
  exact congrArg text.any (funext hp)

/-- A condition that ignores case takes the same run of characters in lower case. -/
theorem takeWhile_lower {p : Char → Bool} (hp : IgnoresCase p) (text : List Char) :
    (lower text).takeWhile p = lower (text.takeWhile p) := by
  unfold lower
  rw [List.takeWhile_map]
  have hcomp : p ∘ Char.toLower = p := funext hp
  rw [hcomp]

lemma utf8Length_lower (text : List Char) : utf8Length (lower text) = utf8Length text := by
  induction text with
  | nil => rfl
  | cons c rest ih => rw [lower_cons, utf8Length, utf8Length, ih, ignoresCase_utf8Size]

/-- As many glyphs are within a number of bytes in lower case. -/
lemma glyphsWithin_lower (bytes : Nat) (text : List Char) :
    glyphsWithin bytes (lower text) = glyphsWithin bytes text := by
  induction text generalizing bytes with
  | nil => rfl
  | cons c rest ih => rw [lower_cons, glyphsWithin, glyphsWithin, ih, ignoresCase_utf8Size]

end

/-- A function that gives a text and its lower case the same value gives it to all texts that differ
in case only. -/
theorem SameUpToCase.apply_eq {α : Type} {f : List Char → α}
    (hf : ∀ text, f (lower text) = f text) {a b : List Char} (h : SameUpToCase a b) :
    f a = f b := by
  rw [← hf a, ← hf b, h]

lemma SameUpToCase.drop {a b : List Char} (h : SameUpToCase a b) (n : Nat) :
    SameUpToCase (a.drop n) (b.drop n) := by
  unfold SameUpToCase
  rw [lower_drop, lower_drop, h]

end Text

/-! ## Marks -/

namespace Marker

open Text

variable {mark : List Char}

/-- A mark without letters starts a text if it starts its lower case. -/
lemma startsWith_lower (hmark : mark.any Char.isAlpha = false) (text : List Char) :
    startsWith mark (lower text) = startsWith mark text := by
  unfold startsWith
  congr 1
  induction mark generalizing text with
  | nil => rfl
  | cons m mark ih =>
    obtain ⟨hm, hmark⟩ := Bool.or_eq_false_iff.1 hmark
    cases text with
    | nil => rfl
    | cons c rest =>
      have hfirst : (m == c.toLower) = (m == c) := by
        rw [Bool.eq_iff_iff, beq_iff_eq, beq_iff_eq, eq_comm, toLower_eq_iff hm, eq_comm]
      rw [lower_cons, List.isPrefixOf_cons_cons, List.isPrefixOf_cons_cons, hfirst, ih hmark]

lemma find?_lower (hmark : mark.any Char.isAlpha = false) (text : List Char) :
    find? mark (lower text) = find? mark text := by
  induction text with
  | nil => rfl
  | cons c rest ih =>
    have hstarts := startsWith_lower hmark (c :: rest)
    rw [lower_cons] at hstarts ⊢
    rw [find?, find?, ih, hstarts]

/-- A mark without letters ends at the same place in lower case. -/
lemma endOf?_lower (hmark : mark.any Char.isAlpha = false) (text : List Char) :
    endOf? mark (lower text) = endOf? mark text := by
  rw [endOf?, endOf?, find?_lower hmark]

end Marker

/-! ## Words -/

namespace Words

open Text

variable {language : Language}

/-- A table without letter case lists a word if it lists its lower case. -/
lemma lists_lower (hcase : language.caseSensitive = false) (listed : List String)
    (word : List Char) : language.Lists listed (lower word) ↔ language.Lists listed word := by
  have hfold : ∀ c : Char, Trie.foldChar false c.toLower = Trie.foldChar false c :=
    ignoresCase_lowerCaseHead
  have hmap : (lower word).map (Trie.foldChar false) = word.map (Trie.foldChar false) := by
    rw [lower, List.map_map]
    exact List.map_congr_left fun c _ => hfold c
  unfold Language.Lists
  rw [hcase, hmap]

/-- Where case does not count, a word has the category of its lower case. -/
theorem categoryOf_lower (hcase : language.caseSensitive = false) (declaration : String)
    (word : List Char) :
    (ofLanguage language declaration).categoryOf (lower word) =
      (ofLanguage language declaration).categoryOf word := by
  have hget : (ofLanguage language declaration).get? (lower word) =
      (ofLanguage language declaration).get? word := by
    rw [get?_ofLanguage, get?_ofLanguage]
    simp only [lists_lower hcase]
  unfold categoryOf
  rw [hget]

end Words

end Highlight
