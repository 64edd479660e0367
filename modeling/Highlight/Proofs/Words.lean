import Highlight.Proofs.Trie.FiniteMap
import Highlight.Words

/-!
# What a table says about a word

The words of a language are looked up in a trie. Here its answers are traced back to the two lists
of the table: a word is a known identifier if it is spelled like a word of the one list, else a
keyword if it is spelled like one of the other, and only known identifiers have a tooltip. Empty
words of the lists do not count, nor does the order of the words or how often they are listed.
-/

namespace Highlight

namespace Language

/-- Whether a list of words has one that is not empty and is spelled like `word`; letter case counts
only where the table says so. -/
def Lists (language : Language) (listed : List String) (word : List Char) : Prop :=
  ∃ entry ∈ listed, entry ≠ "" ∧
    entry.toList.map (Trie.foldChar language.caseSensitive) =
      word.map (Trie.foldChar language.caseSensitive)

instance (language : Language) (listed : List String) (word : List Char) :
    Decidable (language.Lists listed word) :=
  inferInstanceAs (Decidable (∃ entry ∈ listed, entry ≠ "" ∧
    entry.toList.map (Trie.foldChar language.caseSensitive) =
      word.map (Trie.foldChar language.caseSensitive)))

/-- Whether a word has the category and the tooltip that the two lists of a table ask for. -/
structure Classifies (language : Language) (word : List Char) (category : Category)
    (tooltip : Option String) : Prop where
  knownIdentifier_iff : category = .knownIdentifier ↔ language.Lists language.identifiers word
  keyword_iff : category = .keyword ↔
    ¬language.Lists language.identifiers word ∧ language.Lists language.keywords word
  identifier_iff : category = .identifier ↔
    ¬language.Lists language.identifiers word ∧ ¬language.Lists language.keywords word
  tooltip_iff : tooltip.isSome = true ↔ category = .knownIdentifier

end Language

namespace Words

/-- The words of a list that are stored, each with what is known about it. -/
def entries (info : WordInfo) (listed : List String) : List (List Char × WordInfo) :=
  (listed.filter (· ≠ "")).map fun word => (word.toList, info)

/-- Adding listed words is inserting their entries, one after the other. -/
lemma foldl_add (info : WordInfo) (words : Words) (listed : List String) :
    listed.foldl (add info) words =
      (entries info listed).foldl (fun words entry => words.insert entry.1 entry.2) words := by
  induction listed generalizing words with
  | nil => rfl
  | cons word listed ih =>
    rw [List.foldl_cons, ih]
    by_cases hempty : word = ""
    · simp [entries, add, hempty]
    · simp [entries, add, hempty]

/-- The words of a language are those of its two lists, stored one after the other, the known
identifiers behind the keywords. -/
theorem ofLanguage_eq_insertAll (language : Language) (declaration : String) :
    ofLanguage language declaration = Trie.insertAll language.caseSensitive
      (entries .keyword language.keywords ++
        entries (.known declaration) language.identifiers) := by
  unfold ofLanguage Trie.insertAll
  rw [List.foldl_append]
  simp only [foldl_add]

/-- Of the words of one list, all of which are stored with the same information, the last one that
is spelled like a word tells no more than that there is one. -/
theorem lastValue?_entries (language : Language) (info : WordInfo) (listed : List String)
    (word : List Char) :
    Trie.lastValue? language.caseSensitive (entries info listed)
      (Trie.spelling language.caseSensitive word) =
      if language.Lists listed word then some info else none := by
  have hsome := Trie.isSome_lastValue?_iff language.caseSensitive (entries info listed)
    (Trie.spelling language.caseSensitive word)
  have hlists : Trie.spelling language.caseSensitive word ∈
      (entries info listed).map (fun entry => Trie.spelling language.caseSensitive entry.1) ↔
        language.Lists listed word := by
    simp [entries, Language.Lists, Trie.spelling, and_assoc]
  -- all entries carry the same information
  have hinfo : ∀ found, Trie.lastValue? language.caseSensitive (entries info listed)
      (Trie.spelling language.caseSensitive word) = some found → found = info := by
    intro found hfound
    obtain ⟨entry, hentry, rfl⟩ := Option.map_eq_some_iff.1 hfound
    have hmem := List.mem_reverse.1 (List.mem_of_find?_eq_some hentry)
    obtain ⟨listedWord, -, rfl⟩ := List.mem_map.1 hmem
    rfl
  rw [hlists] at hsome
  by_cases hlisted : language.Lists listed word
  · rw [if_pos hlisted]
    obtain ⟨found, hfound⟩ := Option.isSome_iff_exists.1 (hsome.2 hlisted)
    rw [hfound, hinfo found hfound]
  · rw [if_neg hlisted]
    exact Option.not_isSome_iff_eq_none.1 (mt hsome.1 hlisted)

/-- Looking a word up in the words of a language. -/
theorem get?_ofLanguage (language : Language) (declaration : String) (word : List Char) :
    (ofLanguage language declaration).get? word =
      if language.Lists language.identifiers word then some (.known declaration)
      else if language.Lists language.keywords word then some .keyword
      else none := by
  have hrecords := Trie.records_insertAll language.caseSensitive
    (entries .keyword language.keywords ++ entries (.known declaration) language.identifiers)
  rw [ofLanguage_eq_insertAll, hrecords.get?_eq, Trie.lastValue?_append, lastValue?_entries,
    lastValue?_entries]
  by_cases hknown : language.Lists language.identifiers word
  · rw [if_pos hknown, if_pos hknown, Option.some_or]
  · rw [if_neg hknown, if_neg hknown, Option.none_or]

/-- Words are never in the category of strings. -/
theorem categoryOf_ofLanguage_ne_string (language : Language) (declaration : String)
    (word : List Char) : (ofLanguage language declaration).categoryOf word ≠ .string := by
  unfold categoryOf
  rw [get?_ofLanguage]
  by_cases hknown : language.Lists language.identifiers word
  · rw [if_pos hknown]
    exact fun h => Category.noConfusion h
  · by_cases hkeyword : language.Lists language.keywords word
    · rw [if_neg hknown, if_pos hkeyword]
      exact fun h => Category.noConfusion h
    · rw [if_neg hknown, if_neg hkeyword]
      exact fun h => Category.noConfusion h

/-- The category of a word and its tooltip are those that the table asks for. -/
theorem classifies_ofLanguage (language : Language) (declaration : String) (word : List Char) :
    language.Classifies word ((ofLanguage language declaration).categoryOf word)
      ((ofLanguage language declaration).tooltip? (String.ofList word)) := by
  unfold categoryOf tooltip?
  rw [String.toList_ofList, get?_ofLanguage]
  by_cases hknown : language.Lists language.identifiers word
  · constructor <;> simp [hknown, WordInfo.known]
  · by_cases hkeyword : language.Lists language.keywords word
    · constructor <;> simp [hknown, hkeyword, WordInfo.keyword]
    · constructor <;> simp [hknown, hkeyword]

end Words

end Highlight
