import Highlight.Unicode.LowerCase

/-!
# Tries of words

A finite map on spellings. Each node keeps its children in increasing order of their characters and
finds one by bisection. Where letter case does not count, characters are folded to the first
character of their lower case before they are stored or looked up.
-/

namespace Highlight

/-- A node: the entry of the word that ends here, and a child for each character that may follow. -/
inductive TrieNode (α : Type) where
  | node (entry : Option α) (children : Array (Char × TrieNode α))

namespace TrieNode

variable {α : Type}

/-- The entry of the word that ends at the node. -/
def entry : TrieNode α → Option α
  | node entry _ => entry

/-- The children of the node. -/
def children : TrieNode α → Array (Char × TrieNode α)
  | node _ children => children

/-- A node without entry and children. -/
def leaf : TrieNode α := node none #[]

/-- The first place from `low` on, but not beyond `high`, whose child is not below `c`. -/
def position (children : Array (Char × TrieNode α)) (c : Char) (low high : Nat) : Nat :=
  if low < high then
    let middle := (low + high) / 2
    match children[middle]? with
    | some (key, _) => if key < c then position children c (middle + 1) high
      else position children c low middle
    | none => low
  else low
termination_by high - low

/-- The child for a character. -/
def child? (parent : TrieNode α) (c : Char) : Option (TrieNode α) :=
  match parent.children[position parent.children c 0 parent.children.size]? with
  | some (key, child) => if key = c then some child else none
  | none => none

/-- The node with this child for a character, in place of the one it may have had. -/
def setChild (parent : TrieNode α) (c : Char) (child : TrieNode α) : TrieNode α :=
  let place := position parent.children c 0 parent.children.size
  if (parent.child? c).isSome then
    node parent.entry (parent.children.setIfInBounds place (c, child))
  else node parent.entry (parent.children.insertIdxIfInBounds place (c, child))

/-- The entry of a folded spelling. -/
def get? (n : TrieNode α) : List Char → Option α
  | [] => n.entry
  | c :: rest =>
    match n.child? c with
    | some child => child.get? rest
    | none => none

/-- The node with an entry for a folded spelling. -/
def insert (n : TrieNode α) (value : α) : List Char → TrieNode α
  | [] => node (some value) n.children
  | c :: rest => n.setChild c (((n.child? c).getD leaf).insert value rest)

end TrieNode

/-- A finite map on spellings, and the number of different ones in it. -/
structure Trie (α : Type) where
  root : TrieNode α
  caseSensitive : Bool
  size : Nat

namespace Trie

variable {α : Type}

/-- The trie without words. -/
def empty (caseSensitive : Bool := true) : Trie α :=
  { root := .leaf, caseSensitive, size := 0 }

/-- The character that stands for `c` in the trie. -/
def foldChar (caseSensitive : Bool) (c : Char) : Char :=
  if caseSensitive then c else Unicode.lowerCaseHead c

/-- Where letter case counts, every character stands for itself. -/
theorem foldChar_true (c : Char) : foldChar true c = c := rfl

/-- Where it does not count, the first character of the lower case stands for a character. -/
theorem foldChar_false (c : Char) : foldChar false c = (Unicode.lowerCase c).headD c := rfl

/-- Among the ASCII characters only capital letters are folded, each to its small letter. -/
theorem foldChar_ascii {c : Char} (h : c.toNat < 128) : foldChar false c = c.toLower := by
  rw [foldChar_false, Unicode.lowerCase, if_pos h]
  rfl

/-- The spelling that stands for a word in the trie. -/
def fold (trie : Trie α) (word : List Char) : List Char :=
  word.map (foldChar trie.caseSensitive)

/-- The entry of a word. -/
def get? (trie : Trie α) (word : List Char) : Option α :=
  trie.root.get? (trie.fold word)

/-- The entry of the word that glyphs, or any other items with a character, spell. -/
def getWith? {β : Type} (trie : Trie α) (items : List β) (charOf : β → Char) : Option α :=
  trie.get? (items.map charOf)

/-- The trie with an entry for a word; an earlier entry for the same spelling is replaced. -/
def insert (trie : Trie α) (word : List Char) (value : α) : Trie α :=
  { trie with
    root := trie.root.insert value (trie.fold word)
    size := if (trie.get? word).isSome then trie.size else trie.size + 1 }

/-- Whether the trie has no words. -/
def isEmpty (trie : Trie α) : Bool := trie.size == 0

end Trie

end Highlight
