import Highlight.Proofs.Cache.LineEdit

/-!
# Where lines come from

The places and kinds of the edits of a script, without the new lines, decide which line of the old
list stands in which place of the new one. `origins` runs the script on the places themselves, and
`getElem?_applyAll_of_origins` reads the lines off it. Lines never change their order
(`increasing_origins`). `Covered` compares the origins with the last place that the edits report.
-/

namespace Highlight

namespace LineEdit

variable {α β : Type}

/-- The kind and the place of an edit. -/
def shape (e : LineEdit α) : LineEdit Unit := e.map fun _ => ()

/-- For each place after some edits of `length` items, the place that its item had before them, or
none if the edits have brought it. -/
def origins (length : Nat) (shapes : List (LineEdit Unit)) : List (Option Nat) :=
  applyAll (shapes.map (map fun _ => none)) ((List.range length).map some)

/-- The first place behind all the places of some edits. -/
def reportedEnd : List (LineEdit α) → Nat
  | [] => 0
  | e :: edits => max (e.line + 1) (reportedEnd edits)

/-- Whether every item that some edits of `length` items move or bring stands in a place before the
end of the reported ones, unless the edits change the number of items. -/
def Covered (length : Nat) (shapes : List (LineEdit Unit)) : Prop :=
  (origins length shapes).length ≠ length ∨
    ∀ k, k < length → reportedEnd shapes ≤ k → (origins length shapes)[k]? = some (some k)

instance (length : Nat) (shapes : List (LineEdit Unit)) : Decidable (Covered length shapes) :=
  inferInstanceAs (Decidable (_ ∨ _))

-- one line replaced, in two steps, is covered; of two lines that are replaced the second is not
example : Covered 3 [remove 0, insert 0 ()] := by decide
example : ¬Covered 3 [remove 0, remove 0, insert 0 (), insert 0 ()] := by decide

@[simp] lemma reportedEnd_map_shape (edits : List (LineEdit α)) :
    reportedEnd (edits.map shape) = reportedEnd edits := by
  induction edits with
  | nil => rfl
  | cons e edits ih => rw [List.map_cons, reportedEnd, reportedEnd, ih, shape, line_map]

/-- The last reported place is that of an edit. -/
theorem exists_line_eq {edits : List (LineEdit α)} (hne : edits ≠ []) :
    ∃ e ∈ edits, e.line + 1 = reportedEnd edits := by
  induction edits with
  | nil => exact absurd rfl hne
  | cons e edits ih =>
    by_cases hlast : reportedEnd edits ≤ e.line + 1
    · exact ⟨e, List.mem_cons_self, (Nat.max_eq_left hlast).symm⟩
    · have hmore : edits ≠ [] := by
        rintro rfl
        exact hlast (Nat.zero_le _)
      obtain ⟨last, hmem, hline⟩ := ih hmore
      refine ⟨last, List.mem_cons_of_mem e hmem, ?_⟩
      rw [reportedEnd, Nat.max_eq_right (by omega), hline]

/-! ## Reading lines off the origins -/

/-- With new items that depend on the shape of the edits alone, the items are the origins relabeled.
-/
theorem applyAll_eq_map_origins (label : Option Nat → α) (length : Nat)
    (shapes : List (LineEdit Unit)) :
    applyAll (shapes.map (map fun _ => label none))
      ((List.range length).map fun k => label (some k)) = (origins length shapes).map label := by
  rw [origins, ← applyAll_map, List.map_map, List.map_map]
  congr 1
  exact List.map_congr_left fun e _ => (map_map (fun _ => none) label e).symm

private lemma eq_of_getElem?_range {length k i : Nat} (hi : (List.range length)[k]? = some i) :
    i = k := by
  obtain ⟨hlt, heq⟩ := List.getElem?_eq_some_iff.1 hi
  rw [← heq, List.getElem_range]

/-- The items paired with the places they have. -/
private def placed (items : List α) : List (α × Option Nat) :=
  items.zip ((List.range items.length).map some)

private lemma map_fst_placed (items : List α) : (placed items).map Prod.fst = items :=
  List.map_fst_zip (by simp only [List.length_map, List.length_range, Nat.le_refl])

private lemma map_snd_placed (items : List α) :
    (placed items).map Prod.snd = (List.range items.length).map some :=
  List.map_snd_zip (by simp only [List.length_map, List.length_range, Nat.le_refl])

private lemma getElem?_of_mem_placed {items : List α} {pair : α × Option Nat}
    (hmem : pair ∈ placed items) (o : Nat) (ho : pair.2 = some o) : items[o]? = some pair.1 := by
  obtain ⟨k, hk⟩ := List.mem_iff_getElem?.1 hmem
  obtain ⟨hitem, hplace⟩ := List.getElem?_zip_eq_some.1 hk
  rw [List.getElem?_map, Option.map_eq_some_iff] at hplace
  obtain ⟨i, hi, hsome⟩ := hplace
  rw [ho, Option.some.injEq] at hsome
  rw [← hsome, eq_of_getElem?_range hi, hitem]

section Script

variable (edits : List (LineEdit α)) (items : List α)

/-- The script on items that are paired with their places. -/
private def placedAfter : List (α × Option Nat) :=
  applyAll (edits.map (map fun item => (item, none))) (placed items)

/-- The items go through the edits with their places as without them. -/
private lemma map_fst_placedAfter :
    (placedAfter edits items).map Prod.fst = applyAll edits items := by
  rw [placedAfter, ← applyAll_map, List.map_map, map_fst_placed]
  congr 1
  exact List.map_id'' (fun e => by rw [Function.comp_apply, map_map]; cases e <;> rfl) edits

/-- The places go through the edits by the shapes of these alone. -/
private lemma map_snd_placedAfter :
    (placedAfter edits items).map Prod.snd = origins items.length (edits.map shape) := by
  rw [placedAfter, ← applyAll_map, List.map_map, map_snd_placed, origins, List.map_map]
  congr 1
  refine List.map_congr_left fun e _ => ?_
  rw [Function.comp_apply, Function.comp_apply, shape, map_map, map_map]

end Script

lemma length_applyAll_eq (edits : List (LineEdit α)) (items : List α) :
    (applyAll edits items).length = (origins items.length (edits.map shape)).length := by
  rw [← map_fst_placedAfter, ← map_snd_placedAfter, List.length_map, List.length_map]

/-- An item with an origin is the item that stood there. -/
theorem getElem?_applyAll_of_origins {edits : List (LineEdit α)} {items : List α} {k o : Nat}
    (ho : (origins items.length (edits.map shape))[k]? = some (some o)) :
    (applyAll edits items)[k]? = items[o]? := by
  rw [← map_snd_placedAfter, List.getElem?_map, Option.map_eq_some_iff] at ho
  obtain ⟨pair, hpair, hplace⟩ := ho
  have hkept : ∀ pair ∈ placedAfter edits items, ∀ o, pair.2 = some o → items[o]? = some pair.1 :=
    forall_mem_applyAll_map (P := fun pair => ∀ o, pair.2 = some o → items[o]? = some pair.1)
      (fun item o hnone => by cases hnone) edits fun pair hmem => getElem?_of_mem_placed hmem
  rw [← map_fst_placedAfter, List.getElem?_map, hpair, Option.map_some]
  exact (hkept pair (List.mem_of_getElem? hpair) o hplace).symm

/-! ## The order of lines -/

/-- Whether the places in a list come in increasing order. -/
def Increasing (places : List (Option Nat)) : Prop :=
  ∀ p q a b : Nat, p < q → places[p]? = some (some a) → places[q]? = some (some b) → a < b

/-- Where an item with a place stood before an edit: a new item has no place, and those behind it,
or behind a removed one, have moved by one. -/
private theorem getElem?_of_apply_none {places : List (Option Nat)} {e : LineEdit Unit} {p a : Nat}
    (hp : ((e.map fun _ => none).apply places)[p]? = some (some a)) :
    match e with
    | change _ _ => places[p]? = some (some a)
    | insert k _ => p < k ∧ places[p]? = some (some a) ∨ k < p ∧ places[p - 1]? = some (some a)
    | remove k => p < k ∧ places[p]? = some (some a) ∨ k ≤ p ∧ places[p + 1]? = some (some a) := by
  cases e with
  | change k item =>
    simp only [map, apply, List.getElem?_set] at hp
    split at hp
    · split at hp <;> cases hp
    · exact hp
  | insert k item =>
    simp only [map, apply, List.getElem?_insertIdx] at hp
    by_cases hlt : p < k
    · rw [if_pos hlt] at hp
      exact .inl ⟨hlt, hp⟩
    · by_cases heq : p = k
      · rw [if_neg hlt, if_pos heq] at hp
        split at hp <;> cases hp
      · rw [if_neg hlt, if_neg heq] at hp
        exact .inr ⟨by omega, hp⟩
  | remove k =>
    simp only [map, apply, List.getElem?_eraseIdx] at hp
    by_cases hlt : p < k
    · rw [if_pos hlt] at hp
      exact .inl ⟨hlt, hp⟩
    · rw [if_neg hlt] at hp
      exact .inr ⟨by omega, hp⟩

/-- An edit that brings an item without a place keeps the places in order. -/
theorem Increasing.apply {places : List (Option Nat)} (hi : Increasing places)
    (e : LineEdit Unit) : Increasing ((e.map fun _ => none).apply places) := by
  intro p q a b hpq hp hq
  have hp' := getElem?_of_apply_none hp
  have hq' := getElem?_of_apply_none hq
  cases e with
  | change k item => exact hi p q a b hpq hp' hq'
  | insert k item =>
    -- both places are before the edited one, both are behind it, or one is on each side
    rcases hp' with ⟨hpk, hp'⟩ | ⟨hpk, hp'⟩ <;> rcases hq' with ⟨hqk, hq'⟩ | ⟨hqk, hq'⟩
    · exact hi p q a b hpq hp' hq'
    · exact hi p (q - 1) a b (by omega) hp' hq'
    · omega
    · exact hi (p - 1) (q - 1) a b (by omega) hp' hq'
  | remove k =>
    rcases hp' with ⟨hpk, hp'⟩ | ⟨hpk, hp'⟩ <;> rcases hq' with ⟨hqk, hq'⟩ | ⟨hqk, hq'⟩
    · exact hi p q a b hpq hp' hq'
    · exact hi p (q + 1) a b (by omega) hp' hq'
    · omega
    · exact hi (p + 1) (q + 1) a b (by omega) hp' hq'

/-- The items that are left keep their order. -/
theorem increasing_origins (length : Nat) (shapes : List (LineEdit Unit)) :
    Increasing (origins length shapes) := by
  have hstart : Increasing ((List.range length).map some) := by
    intro p q a b hpq hp hq
    rw [List.getElem?_map, Option.map_eq_some_iff] at hp hq
    obtain ⟨i, hi, hia⟩ := hp
    obtain ⟨j, hj, hjb⟩ := hq
    rw [Option.some.injEq] at hia hjb
    have hip := eq_of_getElem?_range hi
    have hjq := eq_of_getElem?_range hj
    omega
  unfold origins
  generalize (List.range length).map some = places at hstart ⊢
  induction shapes generalizing places with
  | nil => exact hstart
  | cons e shapes ih =>
    rw [List.map_cons, applyAll_cons]
    exact ih _ (hstart.apply e)

/-- The origins are places of the old list. -/
theorem lt_of_mem_origins {length : Nat} {shapes : List (LineEdit Unit)} {o : Nat}
    (ho : some o ∈ origins length shapes) : o < length := by
  have hall : ∀ place ∈ origins length shapes, ∀ o, place = some o → o < length := by
    refine forall_mem_applyAll_map (P := fun place => ∀ o, place = some o → o < length)
      (fun _ o hnone => by cases hnone) shapes fun place hmem o hplace => ?_
    obtain ⟨i, hi, heq⟩ := List.mem_map.1 hmem
    rw [hplace, Option.some.injEq] at heq
    rw [← heq]
    exact List.mem_range.1 hi
  exact hall _ ho o rfl

end LineEdit

end Highlight
