import Highlight.HighlightCache
import Mathlib.Data.List.InsertIdx

/-!
# Edits of single lines

An edit changes, inserts or removes one line. It is stated for lists of any items, so that one
script can run on the lines of a buffer and on labels that say where the lines come from:
`apply_map` and `applyAll_map` say that a script does the same to both.
-/

namespace Highlight

/-- An edit of one item of a list. -/
inductive LineEdit (α : Type) where
  | change (line : Nat) (item : α)
  | insert (line : Nat) (item : α)
  | remove (line : Nat)
deriving Repr, DecidableEq

namespace LineEdit

variable {α β : Type}

/-- The place of an edit. -/
def line : LineEdit α → Nat
  | change k _ => k
  | insert k _ => k
  | remove k => k

/-- The items after an edit; an edit at a place that the list does not have leaves it as it is. -/
def apply : LineEdit α → List α → List α
  | change k item, items => items.set k item
  | insert k item, items => items.insertIdx k item
  | remove k, items => items.eraseIdx k

/-- Whether an edit is an insertion or a removal. -/
def resizes : LineEdit α → Bool
  | change _ _ => false
  | insert _ _ => true
  | remove _ => true

/-- The edit with another item in the same place. -/
def map (f : α → β) : LineEdit α → LineEdit β
  | change k item => change k (f item)
  | insert k item => insert k (f item)
  | remove k => remove k

/-- The items after some edits, one after the other. -/
def applyAll (edits : List (LineEdit α)) (items : List α) : List α :=
  edits.foldl (fun items e => e.apply items) items

@[simp] lemma applyAll_nil (items : List α) : applyAll [] items = items := rfl

@[simp] lemma applyAll_cons (e : LineEdit α) (edits : List (LineEdit α)) (items : List α) :
    applyAll (e :: edits) items = applyAll edits (e.apply items) := rfl

@[simp] lemma line_map (f : α → β) (e : LineEdit α) : (e.map f).line = e.line := by
  cases e <;> rfl

lemma map_map {γ : Type} (f : α → β) (g : β → γ) (e : LineEdit α) :
    (e.map f).map g = e.map fun item => g (f item) := by
  cases e <;> rfl

/-! ## Where the items are -/

/-- Items before the place of an edit stay where they are. -/
theorem getElem?_apply_of_lt (e : LineEdit α) (items : List α) {k : Nat} (hk : k < e.line) :
    (e.apply items)[k]? = items[k]? := by
  cases e with
  | change line item => exact List.getElem?_set_ne (Nat.ne_of_gt hk)
  | insert line item => exact List.getElem?_insertIdx_of_lt hk
  | remove line => exact List.getElem?_eraseIdx_of_lt hk

/-- Items before the places of all edits stay where they are. -/
theorem getElem?_applyAll_of_lt {edits : List (LineEdit α)} {items : List α} {k : Nat}
    (hk : ∀ e ∈ edits, k < e.line) : (applyAll edits items)[k]? = items[k]? := by
  induction edits generalizing items with
  | nil => rfl
  | cons e edits ih =>
    rw [List.forall_mem_cons] at hk
    rw [applyAll_cons, ih hk.2, getElem?_apply_of_lt e items hk.1]

/-- Only an insertion and a removal give the list another length. -/
lemma length_apply_of_not_resizes {e : LineEdit α} (hsize : e.resizes = false) (items : List α) :
    (e.apply items).length = items.length := by
  cases e with
  | change line item => exact List.length_set
  | insert line item => cases hsize
  | remove line => cases hsize

/-- An edit that keeps the number of items keeps all of them but the one in its place. -/
theorem getElem?_apply_of_length_eq (e : LineEdit α) {items : List α}
    (hlen : (e.apply items).length = items.length) {k : Nat} (hk : k ≠ e.line) :
    (e.apply items)[k]? = items[k]? := by
  cases e with
  | change line item => exact List.getElem?_set_ne (Ne.symm hk)
  | insert line item =>
    -- only an insertion beyond the end adds nothing
    have hbeyond : items.length < line := by
      by_contra hle
      have hlonger := List.length_insertIdx_of_le_length (Nat.le_of_not_lt hle) item
      rw [apply, hlonger] at hlen
      omega
    rw [apply, List.insertIdx_of_length_lt hbeyond]
  | remove line =>
    have hbeyond : items.length ≤ line := by
      by_contra hlt
      have hshorter := List.length_eraseIdx_of_lt (Nat.lt_of_not_le hlt)
      rw [apply, hshorter] at hlen
      omega
    rw [apply, List.eraseIdx_of_length_le hbeyond]

/-! ## Scripts on labels -/

/-- An edit does to the labels of the items what it does to the items. -/
theorem apply_map (f : α → β) (e : LineEdit α) (items : List α) :
    (e.map f).apply (items.map f) = (e.apply items).map f := by
  cases e with
  | change line item => exact List.map_set.symm
  | insert line item => exact (List.map_insertIdx f items line item).symm
  | remove line => exact List.eraseIdx_map f items line

lemma applyAll_map (f : α → β) (edits : List (LineEdit α)) (items : List α) :
    applyAll (edits.map (map f)) (items.map f) = (applyAll edits items).map f := by
  induction edits generalizing items with
  | nil => rfl
  | cons e edits ih => rw [List.map_cons, applyAll_cons, applyAll_cons, apply_map, ih]

/-- What holds of all items and of every item that the edits bring holds of all items after them. -/
theorem forall_mem_applyAll_map {P : β → Prop} {f : α → β} (hf : ∀ item, P (f item))
    (edits : List (LineEdit α)) {items : List β} (hitems : ∀ item ∈ items, P item) :
    ∀ item ∈ applyAll (edits.map (map f)) items, P item := by
  induction edits generalizing items with
  | nil => exact hitems
  | cons e edits ih =>
    rw [List.map_cons, applyAll_cons]
    refine ih fun item hmem => ?_
    cases e with
    | change line new =>
      rcases List.mem_or_eq_of_mem_set hmem with hold | rfl
      · exact hitems item hold
      · exact hf new
    | insert line new =>
      rcases List.eq_or_mem_of_mem_insertIdx hmem with rfl | hold
      · exact hf new
      · exact hitems item hold
    | remove line => exact hitems item (List.mem_of_mem_eraseIdx hmem)

/-- Edits keep lists alike whose labels are alike. -/
theorem map_apply_congr (f : α → β) (e : LineEdit α) {items items' : List α}
    (heq : items.map f = items'.map f) : (e.apply items).map f = (e.apply items').map f := by
  rw [← apply_map, ← apply_map, heq]

end LineEdit

end Highlight
