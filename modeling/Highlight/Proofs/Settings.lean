import Highlight.Proofs.Registry.Calls
import Highlight.Proofs.Text.LetterCase
import Highlight.Proofs.Text.Lines
import Highlight.Settings

/-!
# What a settings file means

A line gives a value to a key (`Gives`), and of several lines that give one to a key the last counts
(`LastValue`). The settings are those of the last values of four keys, each value read in its own
way (`followsLastLines`). They can be put together entry by entry as well, and then the order of the
entries does not matter, since no two of them have the same key (`foldl_overlay_of_perm`).
-/

namespace Highlight

/-! ## Numbers -/

namespace Text

/-- The value of decimal digits is the number that they write. -/
theorem digitsValue_eq_ofDigitChars {digits : List Char}
    (h : ∀ c ∈ digits, c.isDigit = true) :
    digitsValue 10 digits = Nat.ofDigitChars 10 digits 0 := by
  rw [digitsValue, Nat.ofDigitChars]
  refine List.foldl_ext _ _ _ fun n c hc => ?_
  rw [hexValue?, if_pos (h c hc), Option.getD_some, Nat.mul_comm]

end Text

namespace Unicode

/-- In ASCII the lower case of a text is that of its characters. -/
lemma lowerCaseFrom_of_ascii {text : List Char} (before : List Char)
    (h : ∀ c ∈ text, c.toNat < 128) : lowerCaseFrom before text = Text.lower text := by
  induction text generalizing before with
  | nil => rfl
  | cons c rest ih =>
    obtain ⟨hc, hrest⟩ := List.forall_mem_cons.1 h
    have hsigma : (c == 'Σ') = false := beq_false_of_ne fun hc' => by
      rw [hc'] at hc
      exact absurd hc (by decide)
    rw [lowerCaseFrom, ih (c :: before) hrest, hsigma, if_neg Bool.false_ne_true, lowerCase,
      if_pos hc]
    rfl

/-- The lower case of a text of ASCII characters is that of its letters. -/
theorem lowerCaseText_of_ascii {text : String} (h : ∀ c ∈ text.toList, c.toNat < 128) :
    lowerCaseText text = String.ofList (Text.lower text.toList) :=
  congrArg String.ofList (lowerCaseFrom_of_ascii [] h)

end Unicode

namespace Settings

/-- Whether a value writes a number of at most 64 bits: in decimal digits, with a plus in front or
without. -/
def Writes (value : String) (n : Nat) : Prop :=
  n < UInt64.size ∧ ∃ digits, digits ≠ [] ∧ (∀ c ∈ digits, c.isDigit = true) ∧
    (value.toList = digits ∨ value.toList = '+' :: digits) ∧ n = Nat.ofDigitChars 10 digits 0

/-- A decimal number has digits and nothing else. -/
theorem decimalNumber?_eq_some_iff {digits : List Char} {n : Nat} :
    Text.decimalNumber? digits = some n ↔
      digits ≠ [] ∧ (∀ c ∈ digits, c.isDigit = true) ∧ n = Nat.ofDigitChars 10 digits 0 := by
  unfold Text.decimalNumber?
  constructor
  · intro h
    split at h
    · rename_i hdigits
      cases h
      have hall := List.all_eq_true.1 hdigits.2
      exact ⟨hdigits.1, hall, Text.digitsValue_eq_ofDigitChars hall⟩
    · cases h
  · rintro ⟨hne, hall, rfl⟩
    rw [if_pos ⟨hne, List.all_eq_true.2 hall⟩, Text.digitsValue_eq_ofDigitChars hall]

/-- The numbers that are read are those that `Writes` describes. -/
theorem number?_eq_some_iff {value : String} {n : Nat} :
    number? value = some n ↔ Writes value n := by
  have hmax : n ≤ maxNumber ↔ n < UInt64.size := Nat.lt_succ_iff.symm
  unfold number? Writes
  rw [Option.filter_eq_some_iff, decide_eq_true_iff, hmax, and_comm]
  refine and_congr_right fun _ => ?_
  generalize value.toList = text
  split
  · rename_i digits
    rw [decimalNumber?_eq_some_iff]
    constructor
    · rintro ⟨hne, hall, hn⟩
      exact ⟨digits, hne, hall, .inr rfl, hn⟩
    · rintro ⟨others, hne, hall, rfl | hothers, hn⟩
      · -- a plus is no digit
        exact absurd (hall '+' List.mem_cons_self) (by decide)
      · cases hothers
        exact ⟨hne, hall, hn⟩
  · rename_i hplus
    rw [decimalNumber?_eq_some_iff]
    constructor
    · rintro ⟨hne, hall, hn⟩
      exact ⟨text, hne, hall, .inl rfl, hn⟩
    · rintro ⟨digits, hne, hall, rfl | hdigits, hn⟩
      · exact ⟨hne, hall, hn⟩
      · exact absurd hdigits (hplus digits)

/-! ## Lines -/

/-- Whether a line gives a value to a key. Without the blanks around it the line does not begin with
`#`; the key, its letters small and without blanks around it, is what stands in front of the first
equals sign, and the value what stands behind it. -/
def Gives (line : List Char) (key value : String) : Prop :=
  (Text.trim line).head? ≠ some '#' ∧ ∃ before after,
    Text.trim line = before ++ '=' :: after ∧ '=' ∉ before ∧
    Unicode.lowerCaseText (String.ofList (Text.trim before)) = key ∧
    String.ofList (Text.trim after) = value

/-- Whether a value is that of the last of the lines that give one to a key. -/
def LastValue (lines : List (List Char)) (key value : String) : Prop :=
  ∃ earlier line later, lines = earlier ++ line :: later ∧ Gives line key value ∧
    ∀ other ∈ later, ∀ value, ¬ Gives other key value

variable {line : List Char} {lines : List (List Char)} {key value : String}

/-- A line is read as an entry if it gives one. -/
lemma readLine?_eq_some_iff : readLine? line = some (key, value) ↔ Gives line key value := by
  unfold readLine? Gives
  generalize Text.trim line = text
  split
  · constructor
    · intro h
      cases h
    · rintro ⟨-, before, after, htext, -⟩
      exact absurd htext.symm (List.append_ne_nil_of_right_ne_nil before (List.cons_ne_nil _ _))
  · constructor
    · intro h
      cases h
    · rintro ⟨hhead, -⟩
      exact absurd rfl hhead
  · -- a line that is neither empty nor a comment is cut at its first equals sign
    rename_i hempty hcomment
    have hhead : text.head? ≠ some '#' := by
      intro hhead
      obtain ⟨rest, rfl⟩ := List.head?_eq_some_iff.1 hhead
      exact hcomment rest rfl
    rw [Option.map_eq_some_iff]
    constructor
    · rintro ⟨⟨before, after⟩, hsplit, heq⟩
      obtain ⟨htext, hbefore⟩ := Text.splitOnce_eq_some_iff.1 hsplit
      obtain ⟨hkey, hvalue⟩ := Prod.mk.inj heq
      exact ⟨hhead, before, after, htext, hbefore, hkey, hvalue⟩
    · rintro ⟨-, before, after, htext, hbefore, rfl, rfl⟩
      exact ⟨(before, after), Text.splitOnce_eq_some_iff.2 ⟨htext, hbefore⟩, rfl⟩

lemma lastValue_nil : ¬ LastValue [] key value := by
  rintro ⟨earlier, line, later, hlines, -⟩
  exact absurd hlines.symm (List.append_ne_nil_of_right_ne_nil earlier (List.cons_ne_nil _ _))

lemma lastValue_singleton : LastValue [line] key value ↔ Gives line key value := by
  constructor
  · rintro ⟨earlier, other, later, hlines, hgives, -⟩
    cases earlier with
    | nil =>
      cases hlines
      exact hgives
    | cons first earlier =>
      have hlater := (List.cons_eq_cons.1 hlines).2
      exact absurd hlater.symm (List.append_ne_nil_of_right_ne_nil earlier (List.cons_ne_nil _ _))
  · intro hgives
    exact ⟨[], line, [], rfl, hgives, fun other hmem => absurd hmem List.not_mem_nil⟩

/-- The lines behind others give a key its value, or else those before them. -/
theorem lastValue_append {behind : List (List Char)} :
    LastValue (lines ++ behind) key value ↔ LastValue behind key value ∨
      (∀ other ∈ behind, ∀ value, ¬ Gives other key value) ∧ LastValue lines key value := by
  constructor
  · rintro ⟨earlier, line, later, hlines, hgives, hlater⟩
    rcases List.append_eq_append_iff.1 hlines with ⟨between, rfl, hbehind⟩ | ⟨between, rfl, hlater'⟩
    · -- the last line is among those behind
      exact .inl ⟨between, line, later, hbehind, hgives, hlater⟩
    · cases between with
      | nil => exact .inl ⟨[], line, later, hlater'.symm, hgives, hlater⟩
      | cons first between =>
        cases hlater'
        exact .inr ⟨fun other hmem => hlater other (List.mem_append_right between hmem),
          earlier, line, between, rfl, hgives,
          fun other hmem => hlater other (List.mem_append_left behind hmem)⟩
  · rintro (⟨earlier, line, later, rfl, hgives, hlater⟩ |
      ⟨hnone, earlier, line, later, rfl, hgives, hlater⟩)
    · exact ⟨lines ++ earlier, line, later, (List.append_assoc _ _ _).symm, hgives, hlater⟩
    · refine ⟨earlier, line, later ++ behind, ?_, hgives, fun other hmem => ?_⟩
      · rw [List.append_assoc, List.cons_append]
      · exact (List.mem_append.1 hmem).elim (hlater other) (hnone other)

/-- The last line gives a key its value, or else those before it. -/
theorem lastValue_concat : LastValue (lines ++ [line]) key value ↔
    Gives line key value ∨ (∀ value, ¬ Gives line key value) ∧ LastValue lines key value := by
  rw [lastValue_append, lastValue_singleton, List.forall_mem_singleton]

/-- A line of which a key does not have its value, because the key is given one again further down,
can be left out. -/
theorem lastValue_insert {behind : List (List Char)}
    (h : ∀ value, Gives line key value → ∃ other ∈ behind, ∃ value, Gives other key value) :
    LastValue (lines ++ behind) key value ↔ LastValue (lines ++ line :: behind) key value := by
  rw [List.append_cons, lastValue_append, lastValue_append, lastValue_concat]
  refine or_congr_right (and_congr_right fun hnone => ?_)
  have hline : ∀ value, ¬ Gives line key value := by
    intro value hgives
    obtain ⟨other, hmem, value', hgives'⟩ := h value hgives
    exact hnone other hmem value' hgives'
  simp only [hline, not_false_eq_true, implies_true, true_and, false_or]

/-- The map of the values holds the last value of each key. -/
theorem getElem?_readValues (text : String) (key value : String) :
    (readValues text)[key]? = some value ↔ LastValue (Text.lines text.toList) key value := by
  unfold readValues
  generalize Text.lines text.toList = lines
  induction lines using List.reverseRecOn generalizing value with
  | nil =>
    refine iff_of_false (fun h => ?_) lastValue_nil
    rw [List.filterMap_nil, List.foldl_nil, Std.TreeMap.getElem?_emptyc] at h
    cases h
  | append_singleton lines line ih =>
    rw [lastValue_concat, List.filterMap_append, List.foldl_append]
    cases hline : readLine? line with
    | none =>
      have hnone : ∀ key value, ¬ Gives line key value := by
        intro key value hgives
        rw [← readLine?_eq_some_iff, hline] at hgives
        cases hgives
      rw [List.filterMap_cons_none hline, List.filterMap_nil, List.foldl_nil, ih]
      exact ⟨fun h => .inr ⟨hnone key, h⟩, fun h => (h.resolve_left (hnone key value)).2⟩
    | some entry =>
      rw [List.filterMap_cons_some hline, List.filterMap_nil, List.foldl_cons, List.foldl_nil,
        Registry.getElem?_insert]
      -- the last line is an entry, and it hides those before it with its key
      have hgives : ∀ key value, Gives line key value ↔ entry.1 = key ∧ entry.2 = value := by
        intro key value
        rw [← readLine?_eq_some_iff, hline, Option.some_inj, Prod.ext_iff]
      by_cases hkey : entry.1 = key
      · rw [if_pos hkey, Option.some_inj, hgives]
        constructor
        · exact fun h => .inl ⟨hkey, h⟩
        · rintro (h | ⟨hnone, -⟩)
          · exact h.2
          · exact absurd ((hgives key entry.2).2 ⟨hkey, rfl⟩) (hnone entry.2)
      · have hnone : ∀ value, ¬ Gives line key value :=
          fun value h => hkey ((hgives key value).1 h).1
        rw [if_neg hkey, ih]
        exact ⟨fun h => .inr ⟨hnone, h⟩, fun h => (h.resolve_left (hnone value)).2⟩

/-! ## Entries in any order -/

/-- The key of the bound on lines. -/
def linesKey : String := "max-lines-per-frame"

/-- The key of the directory of language files. -/
def directoryKey : String := "language-dir"

/-- The key of the switch for colors. -/
def colorKey : String := "color"

/-- The key of the width of tabs. -/
def tabKey : String := "tab-width"

/-- The keys that count. -/
def keys : List String := [linesKey, directoryKey, colorKey, tabKey]

/-- The settings with the value of one key in place, unless the value does not count. -/
def overlay (settings : Settings) (entry : String × String) : Settings :=
  if entry.1 = linesKey then
    { settings with
      maxLinesPerFrame := boundedNumber 1 100000 settings.maxLinesPerFrame (some entry.2) }
  else if entry.1 = directoryKey then
    if entry.2 = "" then settings else { settings with languageDirectory := some entry.2 }
  else if entry.1 = colorKey then { settings with color := isYes entry.2 }
  else if entry.1 = tabKey then
    { settings with tabWidth := boundedNumber 1 16 settings.tabWidth (some entry.2) }
  else settings

/-- The settings with the values of all keys in place, unless they do not count. -/
def withValues (settings : Settings) (value? : String → Option String) : Settings where
  maxLinesPerFrame := boundedNumber 1 100000 settings.maxLinesPerFrame (value? linesKey)
  languageDirectory := ((value? directoryKey).filter (· ≠ "")).or settings.languageDirectory
  color := ((value? colorKey).map isYes).getD settings.color
  tabWidth := boundedNumber 1 16 settings.tabWidth (value? tabKey)

/-- The settings that values stand for are the defaults with the values in place. -/
theorem ofValues_eq (values : Std.TreeMap String String) :
    ofValues values = withValues {} fun key => values[key]? := by
  unfold ofValues withValues
  rw [Option.or_none]
  rfl

variable {entries : List (String × String)}

lemma lookup_singleton (key value other : String) :
    [(key, value)].lookup other = if key = other then some value else none := by
  rw [List.lookup_cons, List.lookup_nil]
  by_cases hkey : key = other
  · rw [if_pos hkey, beq_iff_eq.2 hkey.symm]
  · rw [if_neg hkey, beq_eq_false_iff_ne.2 (Ne.symm hkey)]

/-- To put one value in place is to put in place the values of all keys, of which there is one. -/
theorem overlay_eq (settings : Settings) (key value : String) :
    overlay settings (key, value) =
      withValues settings fun other => [(key, value)].lookup other := by
  simp only [lookup_singleton]
  by_cases hlines : key = linesKey
  · subst hlines
    rfl
  by_cases hdirectory : key = directoryKey
  · subst hdirectory
    by_cases hempty : value = ""
    · subst hempty
      rfl
    · -- an empty directory keeps the one that there is, and any other replaces it
      have hkept : ((some value).filter fun value => value ≠ "").or settings.languageDirectory =
          some value := by
        rw [Option.filter_some, if_pos (decide_eq_true hempty), Option.some_or]
      have hoverlay : overlay settings (directoryKey, value) =
          { settings with languageDirectory := some value } := if_neg hempty
      rw [hoverlay]
      exact congrArg (fun directory => { settings with languageDirectory := directory }) hkept.symm
  by_cases hcolor : key = colorKey
  · subst hcolor
    rfl
  by_cases htab : key = tabKey
  · subst htab
    rfl
  · simp only [overlay, withValues, hlines, hdirectory, hcolor, htab, if_false]
    rfl

/-- Of two values one of which is missing, to make use of both is to make use of the other one. -/
theorem apply_or {α β : Type} {f : Option α → β → β} (hf : ∀ b, f none b = b)
    {first second : Option α} (h : first = none ∨ second = none) (b : β) :
    f second (f first b) = f (first.or second) b := by
  rcases h with rfl | rfl
  · rw [hf, Option.none_or]
  · rw [hf, Option.or_none]

/-- Values of different keys can be put in place one after the other. -/
theorem withValues_withValues (settings : Settings) {value? other? : String → Option String}
    (h : ∀ key, value? key = none ∨ other? key = none) :
    withValues (withValues settings value?) other? =
      withValues settings fun key => (value? key).or (other? key) := by
  -- a key is set by one of the two only, so the order does not matter
  have hnumber : ∀ low high default key,
      boundedNumber low high (boundedNumber low high default (value? key)) (other? key) =
        boundedNumber low high default ((value? key).or (other? key)) :=
    fun low high default key => apply_or
      (f := fun value default => boundedNumber low high default value) (fun _ => rfl) (h key)
      default
  have hdirectory : ∀ directory key,
      ((other? key).filter (· ≠ "")).or (((value? key).filter (· ≠ "")).or directory) =
        (((value? key).or (other? key)).filter (· ≠ "")).or directory :=
    fun directory key => apply_or
      (f := fun value directory => (value.filter (· ≠ "")).or directory) (fun _ => rfl) (h key)
      directory
  have hcolor : ∀ color key, ((other? key).map isYes).getD (((value? key).map isYes).getD color) =
      (((value? key).or (other? key)).map isYes).getD color :=
    fun color key => apply_or (f := fun value color => (value.map isYes).getD color)
      (fun _ => rfl) (h key) color
  simp only [withValues, hnumber, hdirectory, hcolor]

/-- A key is looked up in entries of different keys by what they are. -/
theorem lookup_eq_some_iff_mem (h : (entries.map Prod.fst).Nodup) (key value : String) :
    entries.lookup key = some value ↔ (key, value) ∈ entries := by
  induction entries with
  | nil => exact iff_of_false (fun h => by cases h) List.not_mem_nil
  | cons entry entries ih =>
    obtain ⟨hnew, hrest⟩ := List.nodup_cons.1 h
    rw [← List.singleton_append, List.lookup_append, lookup_singleton, List.mem_append,
      List.mem_singleton, Prod.ext_iff]
    by_cases hkey : entry.1 = key
    · have hmem : (key, value) ∉ entries := fun hmem => hnew (hkey ▸ List.mem_map_of_mem hmem)
      rw [if_pos hkey, Option.some_or, Option.some_inj]
      simp only [hkey, hmem, or_false, true_and, eq_comm]
    · rw [if_neg hkey, Option.none_or, ih hrest]
      simp only [Ne.symm hkey, false_and, false_or]

/-- Entries of different keys are put in place all at once. -/
theorem foldl_overlay (settings : Settings) (h : (entries.map Prod.fst).Nodup) :
    entries.foldl overlay settings = withValues settings fun key => entries.lookup key := by
  induction entries generalizing settings with
  | nil => rfl
  | cons entry entries ih =>
    obtain ⟨hnew, hrest⟩ := List.nodup_cons.1 h
    have hapart : ∀ key, [entry].lookup key = none ∨ entries.lookup key = none := by
      intro key
      by_cases hkey : entry.1 = key
      · refine .inr (Option.eq_none_iff_forall_ne_some.2 fun value hvalue => hnew ?_)
        exact List.mem_map.2 ⟨_, (lookup_eq_some_iff_mem hrest key value).1 hvalue, hkey.symm⟩
      · exact .inl ((lookup_singleton entry.1 entry.2 key).trans (if_neg hkey))
    rw [List.foldl_cons, ih _ hrest, overlay_eq settings entry.1 entry.2,
      withValues_withValues settings hapart]
    exact congrArg _ (funext fun key => List.lookup_append.symm)

/-- The order in which the entries of a map are put in place does not matter. -/
theorem foldl_overlay_of_perm {values : Std.TreeMap String String}
    (h : entries.Perm values.toList) : entries.foldl overlay {} = ofValues values := by
  have hkeys : (entries.map Prod.fst).Nodup := by
    rw [(h.map Prod.fst).nodup_iff, List.Nodup, List.pairwise_map]
    refine Std.TreeMap.distinct_keys_toList.imp fun hne => ?_
    rwa [Std.compare_eq_iff_eq] at hne
  rw [foldl_overlay {} hkeys, ofValues_eq]
  congr 1
  funext key
  refine Option.ext fun value => ?_
  rw [lookup_eq_some_iff_mem hkeys, h.mem_iff, Std.TreeMap.mem_toList_iff_getElem?_eq_some]

/-! ## The four settings -/

/-- Whether a setting is the number within bounds that the last value of its key writes, or a
default if it writes none or there is none. -/
structure IsBounded (low high default : Nat) (lines : List (List Char)) (key : String)
    (setting : Nat) : Prop where
  clamped : ∀ value n, LastValue lines key value → Writes value n →
    setting = max low (min n high)
  otherwise : (∀ value n, LastValue lines key value → ¬ Writes value n) → setting = default

/-- A number is the written one within its bounds, or the default. -/
lemma isBounded_boundedNumber {text : String} (low high default : Nat) (key : String) :
    IsBounded low high default (Text.lines text.toList) key
      (boundedNumber low high default (readValues text)[key]?) where
  clamped value n hvalue hwrites := by
    rw [(getElem?_readValues text key value).2 hvalue, boundedNumber, Option.bind_some,
      number?_eq_some_iff.2 hwrites]
  otherwise hnone := by
    have hnumber : (readValues text)[key]?.bind number? = none := by
      refine Option.eq_none_iff_forall_ne_some.2 fun n hn => ?_
      obtain ⟨value, hvalue, hn⟩ := Option.bind_eq_some_iff.1 hn
      exact hnone value n ((getElem?_readValues text key value).1 hvalue)
        (number?_eq_some_iff.1 hn)
    rw [boundedNumber, hnumber]

/-- A number within bounds keeps to them, as its default does. -/
theorem boundedNumber_within {low high default : Nat} (hlow : low ≤ default)
    (hhigh : default ≤ high) (value : Option String) :
    low ≤ boundedNumber low high default value ∧ boundedNumber low high default value ≤ high := by
  unfold boundedNumber
  cases value.bind number? with
  | none => exact ⟨hlow, hhigh⟩
  | some n => exact ⟨Nat.le_max_left _ _, by simp only; omega⟩

/-- The words that switch colors on. -/
def yesWords : List String := ["true", "yes", "on", "1"]

lemma isYes_iff {value : String} :
    isYes value = true ↔ Unicode.lowerCaseText value ∈ yesWords := by
  rw [isYes, List.contains_iff_mem]
  rfl

/-- Colors are on unless the last value of their key is not a yes. -/
lemma color_parse (text : String) :
    (parse text).color = ((readValues text)["color"]?.map isYes).getD true := rfl

/-- A value of ASCII characters switches colors on if it is one of the words up to letter case. -/
theorem isYes_iff_of_ascii {value : String} (h : ∀ c ∈ value.toList, c.toNat < 128) :
    isYes value = true ↔ ∃ word ∈ yesWords, Text.SameUpToCase value.toList word.toList := by
  have hwords : ∀ word ∈ yesWords, Text.lower word.toList = word.toList := by decide
  rw [isYes_iff, Unicode.lowerCaseText_of_ascii h]
  constructor
  · intro hword
    refine ⟨_, hword, ?_⟩
    rw [Text.SameUpToCase, hwords _ hword, String.toList_ofList]
  · rintro ⟨word, hword, hsame⟩
    rw [hsame, hwords word hword, String.ofList_toList]
    exact hword

/-- Texts that give the four keys the same values, if any, have the same settings. -/
theorem parse_congr {text other : String}
    (h : ∀ key ∈ keys, ∀ value, LastValue (Text.lines other.toList) key value ↔
      LastValue (Text.lines text.toList) key value) : parse other = parse text := by
  have hvalues : ∀ key ∈ keys, (readValues other)[key]? = (readValues text)[key]? := by
    intro key hkey
    refine Option.ext fun value => ?_
    rw [getElem?_readValues, getElem?_readValues, h key hkey]
  rw [parse, parse, ofValues_eq, ofValues_eq]
  unfold withValues
  beta_reduce
  rw [hvalues linesKey (by decide), hvalues directoryKey (by decide),
    hvalues colorKey (by decide), hvalues tabKey (by decide)]

/-- Whether settings are those of the last values in a text of a settings file. -/
structure FollowsLastLines (text : String) (settings : Settings) : Prop where
  /-- The lines are those that the line feeds of the text cut it into. -/
  lines : Text.CutInto text.toList (Text.lines text.toList)
  /-- The bound on lines. -/
  maxLinesPerFrame : IsBounded 1 100000 1000 (Text.lines text.toList) "max-lines-per-frame"
    settings.maxLinesPerFrame
  /-- The width of tabs. -/
  tabWidth : IsBounded 1 16 4 (Text.lines text.toList) "tab-width" settings.tabWidth
  /-- Colors are switched on by a word for that in any letter case, and where nothing is said. -/
  color : settings.color = true ↔ ∀ value, LastValue (Text.lines text.toList) "color" value →
    Unicode.lowerCaseText value ∈ yesWords
  /-- The cases of a value of ASCII characters are those of its letters. -/
  spelled : ∀ value, LastValue (Text.lines text.toList) "color" value →
    (∀ c ∈ value.toList, c.toNat < 128) →
    (settings.color = true ↔ ∃ word ∈ yesWords, Text.SameUpToCase value.toList word.toList)
  /-- The directory of language files. -/
  languageDirectory : ∀ directory, settings.languageDirectory = some directory ↔
    LastValue (Text.lines text.toList) "language-dir" directory ∧ directory ≠ ""
  /-- The bounds hold whatever the text is. -/
  within : 1 ≤ settings.maxLinesPerFrame ∧ settings.maxLinesPerFrame ≤ 100000 ∧
    1 ≤ settings.tabWidth ∧ settings.tabWidth ≤ 16
  /-- The values are kept by their keys, and the entries can be put in place in any order. -/
  anyOrder : (∀ key value, (readValues text)[key]? = some value ↔
      LastValue (Text.lines text.toList) key value) ∧
    ∀ entries : List (String × String), entries.Perm (readValues text).toList →
      entries.foldl overlay {} = settings
  /-- A line can be left out if none of the four keys has its value from it: each that it gives a
  value to is given one again further down. -/
  inert : ∀ earlier line later, Text.lines text.toList = earlier ++ line :: later →
    (∀ key ∈ keys, ∀ value, Gives line key value →
      ∃ other ∈ later, ∃ value, Gives other key value) →
    ∀ other : String, Text.lines other.toList = earlier ++ later → parse other = settings
  /-- These are the settings wherever the text is that of the settings file. -/
  loaded : ∀ (files : Files Id) environment path, path? environment = some path →
    (files.read path).run = .ok text → (load files environment).run = settings

/-- The settings of a text are those of its last values. -/
theorem followsLastLines (text : String) : FollowsLastLines text (parse text) where
  lines := (Text.lines_eq_iff _ _).1 rfl
  maxLinesPerFrame := isBounded_boundedNumber 1 100000 1000 "max-lines-per-frame"
  tabWidth := isBounded_boundedNumber 1 16 4 "tab-width"
  color := by
    simp only [color_parse, ← getElem?_readValues]
    cases (readValues text)["color"]? with
    | none => exact iff_of_true rfl fun value h => by cases h
    | some value =>
      rw [Option.map_some, Option.getD_some, isYes_iff]
      exact ⟨fun h other hother => Option.some.inj hother ▸ h, fun h => h value rfl⟩
  spelled value hvalue hascii := by
    rw [color_parse, (getElem?_readValues text "color" value).2 hvalue]
    exact isYes_iff_of_ascii hascii
  languageDirectory directory := by
    rw [← getElem?_readValues, parse, ofValues, Option.filter_eq_some_iff, decide_eq_true_iff]
  within := by
    obtain ⟨hlow, hhigh⟩ := boundedNumber_within (by decide : 1 ≤ Highlighter.defaultMaxLines)
      (by decide : Highlighter.defaultMaxLines ≤ 100000) (readValues text)["max-lines-per-frame"]?
    obtain ⟨hlow', hhigh'⟩ := boundedNumber_within (by decide : 1 ≤ 4) (by decide : 4 ≤ 16)
      (readValues text)["tab-width"]?
    exact ⟨hlow, hhigh, hlow', hhigh'⟩
  anyOrder := ⟨getElem?_readValues text, fun entries hperm => foldl_overlay_of_perm hperm⟩
  inert earlier line later hlines hagain other hother := by
    refine parse_congr fun key hkey value => ?_
    rw [hlines, hother]
    exact lastValue_insert (hagain key hkey)
  loaded files environment path hpath hread := by
    unfold load
    rw [hpath]
    simp only
    rw [Id.run_bind, hread]
    rfl

end Settings

end Highlight
