import Highlight.Proofs.Trie.Children
import Mathlib.Data.Finset.Card

/-!
# Tries as finite maps

A trie answers as the list of its insertions does when it is searched from its end: the latest
insertion with the same spelling counts, letter case apart where it does not. `get?_insert` is the
step for a node, by recursion on the word; `Records` is what a run of insertions keeps; the main
statement is `represents_insertAll`.
-/

namespace Highlight

namespace TrieNode

variable {α : Type}

/-- Whether the children of a node, and those of every node below it, stand in strictly increasing
order. -/
inductive Ordered : TrieNode α → Prop where
  | node {entry : Option α} {children : Array (Char × TrieNode α)}
    (increasing : Increasing children) (below : ∀ x ∈ children, Ordered x.2) :
    Ordered (node entry children)

/-- The nodes of a trie: its root and the children of its nodes. -/
inductive Reaches (root : TrieNode α) : TrieNode α → Prop where
  | root : Reaches root root
  | child {n : TrieNode α} {x : Char × TrieNode α} (reaches : Reaches root n)
    (mem : x ∈ n.children) : Reaches root x.2

lemma Ordered.increasing {n : TrieNode α} (ho : n.Ordered) : Increasing n.children := by
  cases ho with
  | node hs hbelow => exact hs

lemma Ordered.of_mem {n : TrieNode α} (ho : n.Ordered) {x : Char × TrieNode α}
    (hx : x ∈ n.children) : x.2.Ordered := by
  cases ho with
  | node hs hbelow => exact hbelow x hx

lemma Ordered.of_reaches {root n : TrieNode α} (ho : root.Ordered) (hn : root.Reaches n) :
    n.Ordered := by
  induction hn with
  | root => exact ho
  | child _ hmem ih => exact ih.of_mem hmem

lemma ordered_leaf : (leaf : TrieNode α).Ordered :=
  .node increasing_empty fun x hx => by simp at hx

lemma Ordered.setChild {n : TrieNode α} (ho : n.Ordered) (c : Char) {child : TrieNode α}
    (hchild : child.Ordered) : (n.setChild c child).Ordered := by
  have hs := Increasing.setChild ho.increasing c child
  have hmem := mem_children_setChild ho.increasing c child
  -- a node is given by its entry and its children
  cases hset : n.setChild c child with
  | node entry children =>
    rw [hset] at hs hmem
    refine .node hs fun x hx => ?_
    rcases (hmem x).1 hx with rfl | ⟨hx, -⟩
    · exact hchild
    · exact ho.of_mem hx

/-- The child that an insertion goes on with. -/
theorem Ordered.getD_child? {n : TrieNode α} (ho : n.Ordered) (c : Char) :
    ((n.child? c).getD leaf).Ordered := by
  cases hchild : n.child? c with
  | none => exact ordered_leaf
  | some child => exact ho.of_mem ((child?_eq_some_iff ho.increasing c child).1 hchild)

/-! ## One insertion -/

lemma Ordered.insert {n : TrieNode α} (ho : n.Ordered) (value : α) (word : List Char) :
    (n.insert value word).Ordered := by
  induction word generalizing n with
  | nil => exact .node ho.increasing fun x hx => ho.of_mem hx
  | cons c rest ih => exact ho.setChild c (ih (ho.getD_child? c))

lemma get?_leaf (word : List Char) : (leaf : TrieNode α).get? word = none := by
  cases word with
  | nil => rfl
  | cons c rest =>
    have hnone : (leaf : TrieNode α).child? c = none := by
      rw [child?_eq_head?]
      show (List.drop _ ([] : List (Char × TrieNode α))).head?.bind _ = none
      rw [List.drop_nil]
      rfl
    unfold get?
    rw [hnone]

/-- The word with a first character is looked up in the child for it. -/
theorem get?_cons (n : TrieNode α) (c : Char) (rest : List Char) :
    n.get? (c :: rest) = ((n.child? c).getD leaf).get? rest := by
  rw [get?]
  cases n.child? c with
  | none => exact (get?_leaf rest).symm
  | some child => rfl

/-- After an insertion the word has the new entry, and all other words have the ones they had: no
beginning of the word and no word beyond it is touched. -/
theorem get?_insert {n : TrieNode α} (ho : n.Ordered) (value : α) (word other : List Char) :
    (n.insert value word).get? other = if other = word then some value else n.get? other := by
  induction word generalizing n other with
  | nil =>
    cases other with
    | nil => rfl
    | cons d other => rfl
  | cons c rest ih =>
    cases other with
    | nil =>
      show (n.setChild c _).entry = _
      rw [entry_setChild]
      rfl
    | cons d other =>
      rw [insert, get?_cons, child?_setChild ho.increasing, get?_cons n]
      by_cases hdc : d = c
      · subst hdc
        rw [if_pos rfl, Option.getD_some, ih (ho.getD_child? d)]
        simp
      · rw [if_neg hdc, if_neg (by simp [hdc])]

end TrieNode

namespace Trie

variable {α : Type}

/-- The spelling that stands for a word: each of its characters folded where letter case does not
count. -/
def spelling (caseSensitive : Bool) (word : List Char) : List Char :=
  word.map (foldChar caseSensitive)

/-- The trie after some insertions, one after the other. -/
def insertAll (caseSensitive : Bool) (entries : List (List Char × α)) : Trie α :=
  entries.foldl (fun trie entry => trie.insert entry.1 entry.2) (empty caseSensitive)

/-- The entry of the last insertion whose word is spelled in this way. -/
def lastValue? (caseSensitive : Bool) (entries : List (List Char × α)) (spelled : List Char) :
    Option α :=
  (entries.reverse.find? fun entry => spelling caseSensitive entry.1 = spelled).map Prod.snd

/-- Later insertions come first. -/
theorem lastValue?_append (caseSensitive : Bool) (entries later : List (List Char × α))
    (spelled : List Char) :
    lastValue? caseSensitive (entries ++ later) spelled =
      (lastValue? caseSensitive later spelled).or (lastValue? caseSensitive entries spelled) := by
  unfold lastValue?
  rw [List.reverse_append, List.find?_append, Option.map_or]

/-- The last insertion decides about the word that it spells. -/
lemma lastValue?_append_singleton (caseSensitive : Bool) (entries : List (List Char × α))
    (entry : List Char × α) (spelled : List Char) :
    lastValue? caseSensitive (entries ++ [entry]) spelled =
      if spelled = spelling caseSensitive entry.1 then some entry.2
      else lastValue? caseSensitive entries spelled := by
  rw [lastValue?_append]
  by_cases hspelled : spelling caseSensitive entry.1 = spelled
  · simp [lastValue?, hspelled]
  · simp [lastValue?, hspelled, Ne.symm hspelled]

lemma isSome_lastValue?_iff (caseSensitive : Bool) (entries : List (List Char × α))
    (spelled : List Char) :
    (lastValue? caseSensitive entries spelled).isSome = true ↔
      spelled ∈ entries.map fun entry => spelling caseSensitive entry.1 := by
  unfold lastValue?
  simp

/-- Whether a trie is what some insertions make of the empty one. -/
structure Records (caseSensitive : Bool) (entries : List (List Char × α)) (trie : Trie α) :
    Prop where
  caseSensitive_eq : trie.caseSensitive = caseSensitive
  ordered : trie.root.Ordered
  get?_root : ∀ spelled, trie.root.get? spelled = lastValue? caseSensitive entries spelled
  size_eq : trie.size = (entries.map fun entry => spelling caseSensitive entry.1).toFinset.card

/-- The empty trie records no insertions. -/
lemma records_empty (caseSensitive : Bool) :
    Records caseSensitive [] (empty caseSensitive : Trie α) where
  caseSensitive_eq := rfl
  ordered := TrieNode.ordered_leaf
  get?_root spelled := TrieNode.get?_leaf spelled
  size_eq := rfl

section Records

variable {caseSensitive : Bool} {entries : List (List Char × α)} {trie : Trie α}

/-- A word has the value of the last insertion that spells it. -/
theorem Records.get?_eq (hr : Records caseSensitive entries trie) (word : List Char) :
    trie.get? word = lastValue? caseSensitive entries (spelling caseSensitive word) := by
  unfold get? fold
  rw [hr.get?_root, hr.caseSensitive_eq]
  rfl

/-- One more insertion. -/
theorem Records.insert (hr : Records caseSensitive entries trie) (entry : List Char × α) :
    Records caseSensitive (entries ++ [entry]) (trie.insert entry.1 entry.2) := by
  have hfold : trie.fold entry.1 = spelling caseSensitive entry.1 := by
    unfold fold
    rw [hr.caseSensitive_eq]
    rfl
  constructor
  case caseSensitive_eq => exact hr.caseSensitive_eq
  case ordered => exact hr.ordered.insert entry.2 _
  case get?_root =>
    intro spelled
    show (trie.root.insert entry.2 (trie.fold entry.1)).get? spelled = _
    rw [TrieNode.get?_insert hr.ordered, hfold, hr.get?_root, lastValue?_append_singleton]
  case size_eq =>
    -- the size counts a spelling when it is inserted for the first time
    show (if (trie.get? entry.1).isSome = true then trie.size else trie.size + 1) = _
    have hmem := isSome_lastValue?_iff caseSensitive entries (spelling caseSensitive entry.1)
    rw [hr.get?_eq, List.map_append, List.toFinset_append, hr.size_eq]
    by_cases hnew :
        (lastValue? caseSensitive entries (spelling caseSensitive entry.1)).isSome = true
    · rw [if_pos hnew, Finset.union_eq_left.2]
      simpa using hmem.1 hnew
    · rw [if_neg hnew]
      have hnotin := mt hmem.2 hnew
      rw [List.map_singleton, List.toFinset_cons, List.toFinset_nil, insert_empty_eq,
        Finset.union_comm, Finset.singleton_union,
        Finset.card_insert_of_notMem (by simpa using hnotin)]

end Records

/-- A run of insertions. -/
theorem records_insertAll (caseSensitive : Bool) (entries : List (List Char × α)) :
    Records caseSensitive entries (insertAll caseSensitive entries) := by
  induction entries using List.reverseRecOn with
  | nil => exact records_empty caseSensitive
  | append_singleton entries entry ih =>
    unfold insertAll at ih ⊢
    rw [List.foldl_append]
    exact ih.insert entry

/-- Where letter case counts, words that are spelled alike are equal. -/
theorem map_foldChar_true (word : List Char) : word.map (foldChar true) = word :=
  (List.map_congr_left fun c _ => foldChar_true c).trans (List.map_id' word)

/-- Whether a trie is the finite map that some insertions describe. -/
structure Represents (caseSensitive : Bool) (entries : List (List Char × α)) (trie : Trie α) :
    Prop where
  /-- Where letter case counts, words are spelled alike only if they are equal. -/
  spelled_exactly : caseSensitive = true → ∀ word other : List Char,
    word.map (foldChar caseSensitive) = other.map (foldChar caseSensitive) ↔ word = other
  /-- Where it does not, a character is spelled as the first one of its lower case. -/
  spelled_lower : caseSensitive = false → ∀ c,
    foldChar caseSensitive c = (Unicode.lowerCase c).headD c
  /-- There words of ASCII characters are spelled alike if they differ only in the case of letters.
  -/
  spelled_ascii : caseSensitive = false → ∀ word other : List Char,
    (∀ c ∈ word, c.toNat < 128) → (∀ c ∈ other, c.toNat < 128) →
    (word.map (foldChar caseSensitive) = other.map (foldChar caseSensitive) ↔
      word.map Char.toLower = other.map Char.toLower)
  /-- A word has the entry of the last insertion that is spelled like it, character by character. -/
  get?_eq : ∀ word, trie.get? word =
    (entries.reverse.find? fun entry =>
      entry.1.map (foldChar caseSensitive) = word.map (foldChar caseSensitive)).map Prod.snd
  /-- A word that is spelled like no inserted one has no entry; beginnings of inserted words and
  words beyond them are among those. -/
  get?_eq_none_iff : ∀ word, trie.get? word = none ↔ ∀ entry ∈ entries,
    entry.1.map (foldChar caseSensitive) ≠ word.map (foldChar caseSensitive)
  /-- Any items that spell a word find what the word finds. -/
  getWith?_eq : ∀ {β : Type} (items : List β) (charOf : β → Char) (word : List Char),
    items.map charOf = word → trie.getWith? items charOf = trie.get? word
  /-- The size is the number of different spellings. -/
  size_eq : trie.size = (entries.map fun entry => entry.1.map (foldChar caseSensitive)).dedup.length
  isEmpty_iff : trie.isEmpty = true ↔ entries = []
  /-- The characters of the children of a node are strictly increasing. -/
  increasing : ∀ n, trie.root.Reaches n →
    (n.children.toList.map Prod.fst).Pairwise (· < ·)
  /-- A node finds a child exactly when it exists. -/
  child?_eq_some_iff : ∀ n, trie.root.Reaches n → ∀ c child,
    n.child? c = some child ↔ (c, child) ∈ n.children

/-- A trie is a finite map on spellings, after every sequence of insertions and in both modes of
letter case. -/
theorem represents_insertAll (caseSensitive : Bool) (entries : List (List Char × α)) :
    Represents caseSensitive entries (insertAll caseSensitive entries) := by
  have hr := records_insertAll caseSensitive entries
  have hsize := hr.size_eq
  constructor
  case spelled_exactly =>
    rintro rfl word other
    rw [map_foldChar_true, map_foldChar_true]
  case spelled_lower =>
    rintro rfl c
    exact foldChar_false c
  case spelled_ascii =>
    rintro rfl word other hword hother
    rw [List.map_congr_left fun c hc => foldChar_ascii (hword c hc),
      List.map_congr_left fun c hc => foldChar_ascii (hother c hc)]
  case get?_eq => exact hr.get?_eq
  case get?_eq_none_iff =>
    intro word
    -- a word without a value is one that no insertion spells
    have hmem := isSome_lastValue?_iff caseSensitive entries (spelling caseSensitive word)
    rw [← hr.get?_eq] at hmem
    rw [← Option.not_isSome_iff_eq_none, hmem]
    simp [spelling]
  case getWith?_eq =>
    intro β items charOf word hword
    unfold getWith?
    rw [hword]
  case size_eq => rw [hsize, List.card_toFinset]; rfl
  case isEmpty_iff =>
    unfold isEmpty
    rw [beq_iff_eq, hsize, Finset.card_eq_zero, List.toFinset_eq_empty_iff, List.map_eq_nil_iff]
  case increasing =>
    intro n hn
    exact List.pairwise_map.2 (hr.ordered.of_reaches hn).increasing
  case child?_eq_some_iff =>
    intro n hn
    exact TrieNode.child?_eq_some_iff (hr.ordered.of_reaches hn).increasing

end Trie

end Highlight
