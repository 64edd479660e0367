import Highlight.Trie
import Mathlib.Data.Char
import Mathlib.Data.List.InsertIdx

/-!
# The children of a node

A node finds a child by bisection, which needs its children in increasing order. `position_spec`
says where the bisection ends, `exists_split` what stands on both sides of that place. From these
follow the two facts that the rest is built on: the child for a character is the member with that
character (`child?_eq_some_iff`), and a node with one more child has its children in increasing
order again (`Increasing.setChild`).
-/

namespace Highlight

namespace TrieNode

variable {α : Type}

/-- Whether children stand in strictly increasing order of their characters. -/
def Increasing (children : Array (Char × TrieNode α)) : Prop :=
  children.toList.Pairwise fun a b => a.1 < b.1

@[simp] lemma entry_node (entry : Option α) (children : Array (Char × TrieNode α)) :
    (node entry children).entry = entry := rfl

@[simp] lemma children_node (entry : Option α) (children : Array (Char × TrieNode α)) :
    (node entry children).children = children := rfl

lemma increasing_empty : Increasing (#[] : Array (Char × TrieNode α)) :=
  List.Pairwise.nil

/-- A child before another has a smaller character. -/
theorem Increasing.lt {children : Array (Char × TrieNode α)} (hs : Increasing children)
    {i j : Nat} {a b : Char × TrieNode α} (hij : i < j) (ha : children[i]? = some a)
    (hb : children[j]? = some b) : a.1 < b.1 := by
  rw [← Array.getElem?_toList] at ha hb
  obtain ⟨hi, rfl⟩ := List.getElem?_eq_some_iff.1 ha
  obtain ⟨hj, rfl⟩ := List.getElem?_eq_some_iff.1 hb
  exact List.pairwise_iff_getElem.1 hs i j hi hj hij

/-! ## Bisection -/

/-- Bisection ends at the place before which all children are below the character and from which on
none is. -/
theorem position_spec {children : Array (Char × TrieNode α)} (hs : Increasing children) (c : Char)
    {low high : Nat} (hle : low ≤ high) (hsize : high ≤ children.size)
    (hlow : ∀ i, i < low → ∀ x, children[i]? = some x → x.1 < c)
    (hhigh : ∀ i, high ≤ i → ∀ x, children[i]? = some x → ¬x.1 < c) :
    let place := position children c low high
    place ≤ children.size ∧ (∀ i, i < place → ∀ x, children[i]? = some x → x.1 < c) ∧
      (∀ i, place ≤ i → ∀ x, children[i]? = some x → ¬x.1 < c) := by
  fun_induction position children c low high with
  | case1 low high hlt middle key child hmiddle hkey ih =>
    -- the child in the middle is below the character, and so are all before it
    refine ih (by omega) hsize ?_ hhigh
    intro i hi x hx
    by_cases hmid : i = middle
    · rw [hmid, hmiddle, Option.some.injEq] at hx
      rw [← hx]
      exact hkey
    · exact Char.lt_trans (hs.lt (show i < middle by omega) hx hmiddle) hkey
  | case2 low high hlt middle key child hmiddle hkey ih =>
    -- the child in the middle is not below the character, and no child behind it is
    refine ih (by omega) (by omega) hlow ?_
    intro i hi x hx hless
    by_cases hmid : i = middle
    · rw [hmid, hmiddle, Option.some.injEq] at hx
      rw [← hx] at hless
      exact hkey hless
    · exact hkey (Char.lt_trans (hs.lt (show middle < i by omega) hmiddle hx) hless)
  | case3 low high hlt middle hmiddle =>
    rw [Array.getElem?_eq_none_iff] at hmiddle
    omega
  | case4 low high hlt =>
    have heq : low = high := by omega
    exact ⟨by omega, hlow, by rw [heq]; exact hhigh⟩

private lemma insertIdx_length_append {β : Type} (before after : List β) (x : β) :
    (before ++ after).insertIdx before.length x = before ++ x :: after := by
  induction before with
  | nil => rfl
  | cons y before ih =>
    rw [List.cons_append, List.length_cons, List.insertIdx_succ_cons, ih, List.cons_append]

private lemma set_length_append {β : Type} (before after : List β) (old x : β) :
    (before ++ old :: after).set before.length x = before ++ x :: after := by
  rw [List.set_append_right _ _ (Nat.le_refl _), Nat.sub_self, List.set_cons_zero]

/-- The place of a character among the children of a node. -/
def place (n : TrieNode α) (c : Char) : Nat :=
  position n.children c 0 n.children.size

/-- The children before the place of a character. -/
def before (n : TrieNode α) (c : Char) : List (Char × TrieNode α) :=
  n.children.toList.take (n.place c)

/-- The children from the place of a character on. -/
def behind (n : TrieNode α) (c : Char) : List (Char × TrieNode α) :=
  n.children.toList.drop (n.place c)

/-- The children before the place of a character and those from it on are all children. -/
lemma before_append_behind (n : TrieNode α) (c : Char) :
    n.before c ++ n.behind c = n.children.toList :=
  List.take_append_drop _ _

/-- The child at the place decides whether the character has one. -/
theorem child?_eq_head? (n : TrieNode α) (c : Char) :
    n.child? c = (n.behind c).head?.bind fun x => if x.1 = c then some x.2 else none := by
  unfold child? behind
  rw [List.head?_drop, Array.getElem?_toList]
  have hplace : position n.children c 0 n.children.size = n.place c := rfl
  rw [hplace]
  cases n.children[n.place c]? with
  | none => rfl
  | some x => rfl

section Sides

variable {n : TrieNode α} (hs : Increasing n.children) (c : Char)
include hs

/-- The place of a character is behind the children with smaller characters and before all others.
-/
lemma place_spec :
    n.place c ≤ n.children.size ∧
      (∀ i, i < n.place c → ∀ x, n.children[i]? = some x → x.1 < c) ∧
      (∀ i, n.place c ≤ i → ∀ x, n.children[i]? = some x → ¬x.1 < c) := by
  refine position_spec hs c (Nat.zero_le _) (Nat.le_refl _) ?_ ?_
  · intro i hi
    exact absurd hi (Nat.not_lt_zero i)
  · intro i hi x hx
    rw [Array.getElem?_eq_none hi] at hx
    cases hx

lemma length_before : (n.before c).length = n.place c := by
  have hplace := (place_spec hs c).1
  unfold before
  rw [List.length_take, Array.length_toList]
  omega

lemma lt_of_mem_before {x : Char × TrieNode α} (hx : x ∈ n.before c) : x.1 < c := by
  obtain ⟨i, hi⟩ := List.mem_iff_getElem?.1 hx
  have hless : i < n.place c := by
    have hlength := (List.getElem?_eq_some_iff.1 hi).1
    rwa [length_before hs] at hlength
  unfold before at hi
  rw [List.getElem?_take_of_lt hless, Array.getElem?_toList] at hi
  exact (place_spec hs c).2.1 i hless x hi

lemma not_lt_of_mem_behind {x : Char × TrieNode α} (hx : x ∈ n.behind c) : ¬x.1 < c := by
  obtain ⟨i, hi⟩ := List.mem_iff_getElem?.1 hx
  unfold behind at hi
  rw [List.getElem?_drop, Array.getElem?_toList] at hi
  exact (place_spec hs c).2.2 (n.place c + i) (Nat.le_add_right _ _) x hi

/-- A child that is new is put at the place of its character. -/
theorem toList_setChild_of_none (hnone : n.child? c = none) (child : TrieNode α) :
    (n.setChild c child).children.toList = n.before c ++ (c, child) :: n.behind c := by
  have hplace : position n.children c 0 n.children.size ≤ n.children.size := (place_spec hs c).1
  have hat := insertIdx_length_append (n.before c) (n.behind c) (c, child)
  rw [length_before hs, before_append_behind] at hat
  unfold setChild
  simp only [hnone, Option.isSome_none, Bool.false_eq_true, if_false, children_node,
    Array.insertIdxIfInBounds, hplace, dif_pos, Array.toList_insertIdx]
  exact hat

/-- A child that is not new takes the place of the one before it. -/
theorem toList_setChild_of_some {old : TrieNode α} {rest : List (Char × TrieNode α)}
    (hbehind : n.behind c = (c, old) :: rest) (child : TrieNode α) :
    (n.setChild c child).children.toList = n.before c ++ (c, child) :: rest := by
  have hsome : n.child? c = some old := by
    rw [child?_eq_head?, hbehind]
    exact if_pos rfl
  have hat := set_length_append (n.before c) rest (c, old) (c, child)
  rw [length_before hs, ← hbehind, before_append_behind] at hat
  unfold setChild
  simp only [hsome, Option.isSome_some, if_true, children_node, Array.toList_setIfInBounds]
  exact hat

/-- Around the place of a character the children are split into those below it and those above it,
with the child for the character between them if there is one. A new child for the character is put
between them. -/
theorem exists_split :
    ∃ below above : List (Char × TrieNode α),
      n.children.toList = below ++ (n.child? c).toList.map (c, ·) ++ above ∧
      (∀ x ∈ below, x.1 < c) ∧ (∀ x ∈ above, c < x.1) ∧
      ∀ child, (n.setChild c child).children.toList = below ++ (c, child) :: above := by
  have hall := before_append_behind n c
  have hsorted : (n.behind c).Pairwise fun a b => a.1 < b.1 :=
    List.Pairwise.sublist (List.drop_sublist _ _) hs
  have hbelow : ∀ x ∈ n.before c, x.1 < c := fun x hx => lt_of_mem_before hs c hx
  -- the binary search stops at the first child that is not smaller, which has the character or not
  cases hbehind : n.behind c with
  | nil =>
    have hchild : n.child? c = none := by
      rw [child?_eq_head?, hbehind]
      rfl
    refine ⟨n.before c, [], ?_, hbelow, by simp, ?_⟩
    · rw [hchild, ← hall, hbehind]
      simp
    · intro child
      rw [toList_setChild_of_none hs c hchild, hbehind]
  | cons first rest =>
    obtain ⟨key, old⟩ := first
    have hfirst : ¬key < c := not_lt_of_mem_behind hs c (x := (key, old)) (by simp [hbehind])
    rw [hbehind] at hsorted
    have hrest : ∀ x ∈ rest, key < x.1 := (List.pairwise_cons.1 hsorted).1
    by_cases hkey : key = c
    · subst hkey
      have hchild : n.child? key = some old := by
        rw [child?_eq_head?, hbehind]
        exact if_pos rfl
      refine ⟨n.before key, rest, ?_, hbelow, hrest, ?_⟩
      · rw [hchild, ← hall, hbehind]
        simp
      · intro child
        exact toList_setChild_of_some hs key hbehind child
    · have hchild : n.child? c = none := by
        rw [child?_eq_head?, hbehind]
        exact if_neg hkey
      have hless : c < key := lt_of_le_of_ne (not_lt.1 hfirst) (Ne.symm hkey)
      refine ⟨n.before c, (key, old) :: rest, ?_, hbelow, ?_, ?_⟩
      · rw [hchild, ← hall, hbehind]
        simp
      · intro x hx
        rcases List.mem_cons.1 hx with rfl | hx
        · exact hless
        · exact Char.lt_trans hless (hrest x hx)
      · intro child
        rw [toList_setChild_of_none hs c hchild, hbehind]

end Sides

/-! ## Finding and setting a child -/

section

variable {n : TrieNode α} (hs : Increasing n.children)
include hs

/-- Bisection finds a child exactly when it exists. -/
theorem child?_eq_some_iff (c : Char) (child : TrieNode α) :
    n.child? c = some child ↔ (c, child) ∈ n.children := by
  obtain ⟨below, above, hall, hbelow, habove, -⟩ := exists_split hs c
  rw [← Array.mem_toList_iff, hall]
  constructor
  · intro hchild
    simp [hchild]
  · intro hmem
    simp only [List.mem_append, List.mem_map, Option.mem_toList, Prod.mk.injEq, true_and,
      exists_eq_right] at hmem
    rcases hmem with (hmem | hmem) | hmem
    · exact absurd (hbelow _ hmem) (Char.lt_irrefl c)
    · exact hmem
    · exact absurd (habove _ hmem) (Char.lt_irrefl c)

/-- The children after one of them has been set are that one and the others. -/
theorem mem_children_setChild (c : Char) (child : TrieNode α) (x : Char × TrieNode α) :
    x ∈ (n.setChild c child).children ↔ x = (c, child) ∨ (x ∈ n.children ∧ x.1 ≠ c) := by
  obtain ⟨below, above, hall, hbelow, habove, hset⟩ := exists_split hs c
  rw [← Array.mem_toList_iff, ← Array.mem_toList_iff, hset, hall]
  have hold : x ∈ (n.child? c).toList.map (c, ·) → x.1 = c := by
    intro hx
    obtain ⟨old, -, rfl⟩ := List.mem_map.1 hx
    rfl
  constructor
  · intro hx
    rcases List.mem_append.1 hx with hx | hx
    · exact .inr ⟨by simp [hx], Char.ne_of_lt (hbelow x hx)⟩
    · rcases List.mem_cons.1 hx with hx | hx
      · exact .inl hx
      · exact .inr ⟨by simp [hx], (Char.ne_of_lt (habove x hx)).symm⟩
  · rintro (hx | ⟨hx, hne⟩)
    · simp [hx]
    · rw [List.mem_append, List.mem_append] at hx
      rcases hx with (hx | hx) | hx
      · simp [hx]
      · exact absurd (hold hx) hne
      · simp [hx]

/-- Setting a child keeps the children in increasing order. -/
theorem Increasing.setChild (c : Char) (child : TrieNode α) :
    Increasing (n.setChild c child).children := by
  obtain ⟨below, above, hall, hbelow, habove, hset⟩ := exists_split hs c
  unfold Increasing at hs ⊢
  rw [hset child]
  rw [hall, List.append_assoc, List.pairwise_append] at hs
  refine List.pairwise_append.2 ⟨hs.1, List.pairwise_cons.2 ⟨habove, ?_⟩, ?_⟩
  · exact (List.pairwise_append.1 hs.2.1).2.1
  · intro a ha b hb
    rcases List.mem_cons.1 hb with rfl | hb
    · exact hbelow a ha
    · exact Char.lt_trans (hbelow a ha) (habove b hb)

/-- The child that has been set is found, and every other one as before. -/
theorem child?_setChild (c d : Char) (child : TrieNode α) :
    (n.setChild c child).child? d = if d = c then some child else n.child? d := by
  refine Option.ext fun found => ?_
  rw [child?_eq_some_iff (Increasing.setChild hs c child), mem_children_setChild hs]
  by_cases hdc : d = c
  · rw [if_pos hdc, hdc]
    simp [eq_comm]
  · rw [if_neg hdc, child?_eq_some_iff hs]
    simp [hdc]

end

@[simp] lemma entry_setChild (n : TrieNode α) (c : Char) (child : TrieNode α) :
    (n.setChild c child).entry = n.entry := by
  unfold setChild
  dsimp only
  split <;> rfl

end TrieNode

end Highlight
