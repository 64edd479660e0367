import Highlight.Regex.Basic
import Mathlib.Tactic.Lemma

/-!
# Simplified expressions

A simplified expression is a run: its parts are no runs themselves, and no two texts stand next to
each other. So simplification changes nothing where such an expression follows a condition on the
place (`simplify_anchored`).
-/

namespace Highlight.Regex

/-! ## Runs -/

/-- Whether expressions are the parts of a run: none of them is empty or a run, and no two texts
stand next to each other. -/
inductive IsRun : List Regex → Prop where
  | nil : IsRun []
  | cons {r : Regex} {rs : List Regex} (hpart : r.parts = [r]) (hrs : IsRun rs)
    (hapart : consPart r rs = r :: rs) : IsRun (r :: rs)

variable {r : Regex} {rs : List Regex}

/-- A part has no parts but itself. -/
lemma parts_of_mem_parts {s : Regex} (h : s ∈ r.parts) : s.parts = [s] := by
  induction r with
  | empty => exact absurd h List.not_mem_nil
  | cat a b iha ihb =>
    rcases List.mem_append.1 h with h | h
    · exact iha h
    · exact ihb h
  | _ =>
    rw [List.mem_singleton.1 h]
    rfl

/-- Whether a text stands apart from what follows does not depend on the text. -/
theorem consPart_text_of_apart {c d : Char} {cs ds : List Char}
    (h : consPart (.text d ds) rs = .text d ds :: rs) :
    consPart (.text c cs) rs = .text c cs :: rs := by
  unfold consPart at h ⊢
  split at h
  case h_1 => simp at h
  case h_2 hnot =>
    split
    case h_1 => exact (hnot _ _ _ _ _ rfl rfl).elim
    case h_2 => rfl

/-- A part ahead of a run makes a run. -/
theorem IsRun.consPart (h : IsRun rs) (hpart : r.parts = [r]) : IsRun (consPart r rs) := by
  unfold Regex.consPart
  split
  case h_1 =>
    cases h with
    | cons _ hrest hapart => exact .cons rfl hrest (consPart_text_of_apart hapart)
  case h_2 hnot =>
    refine .cons hpart h ?_
    unfold Regex.consPart
    split
    case h_1 => exact (hnot _ _ _ _ _ rfl rfl).elim
    case h_2 => rfl

/-- Parts that are joined one by one are a run. -/
lemma isRun_foldr_consPart (h : ∀ r ∈ rs, r.parts = [r]) :
    IsRun (rs.foldr consPart []) := by
  induction rs with
  | nil => exact .nil
  | cons r rs ih =>
    exact (ih fun s hs => h s (List.mem_cons_of_mem r hs)).consPart (h r List.mem_cons_self)

/-- Joining the parts of a run changes nothing. -/
lemma IsRun.foldr_consPart (h : IsRun rs) : rs.foldr Regex.consPart [] = rs := by
  induction h with
  | nil => rfl
  | cons _ _ hapart ih => rw [List.foldr_cons, ih, hapart]

lemma IsRun.flatMap_parts (h : IsRun rs) : rs.flatMap parts = rs := by
  induction h with
  | nil => rfl
  | cons hpart _ _ ih => rw [List.flatMap_cons, hpart, ih, List.singleton_append]

/-- A run has the parts that it is made of. -/
lemma IsRun.parts_ofParts (h : IsRun rs) : (ofParts rs).parts = rs := by
  induction h with
  | nil => rfl
  | @cons r rs hpart hrs _ ih =>
    cases rs with
    | nil => exact hpart
    | cons s rs =>
      show r.parts ++ (ofParts (s :: rs)).parts = _
      rw [hpart, ih, List.singleton_append]

/-! ## Simplified expressions -/

/-- Whether an expression is a run, which may have one part or none. -/
def IsRunOf (r : Regex) : Prop := ∃ rs, IsRun rs ∧ r = ofParts rs

/-- A run is made of any expressions. -/
lemma isRunOf_run (rs : List Regex) : IsRunOf (run rs) := by
  refine ⟨_, isRun_foldr_consPart fun r hr => ?_, rfl⟩
  obtain ⟨s, -, hmem⟩ := List.mem_flatMap.1 hr
  exact parts_of_mem_parts hmem

lemma isRunOf_of_parts (h : r.parts = [r]) : IsRunOf r :=
  ⟨[r], .cons h .nil (by unfold consPart; split <;> simp_all), rfl⟩

lemma isRunOf_ofClass (unicode : Bool) (s : CharClass) : IsRunOf (ofClass unicode s) := by
  unfold ofClass
  split
  · exact isRunOf_of_parts rfl
  · exact isRunOf_of_parts rfl

/-- What alternatives are joined to is a run, if there is not just one of them. -/
lemma isRunOf_joined {rs : List Regex} (h : rs.length ≠ 1) : IsRunOf (joined rs) := by
  unfold joined
  split
  · exact isRunOf_ofClass _ _
  · match rs, h with
    | [], _ => exact ⟨[], .nil, rfl⟩
    | [_], h => exact absurd rfl h
    | _ :: _ :: _, _ => exact isRunOf_of_parts rfl

/-- A choice is a run if it is one where it leaves no choice. -/
theorem isRunOf_choice (h : ∀ r, rs = [r] → IsRunOf r) : IsRunOf (choice rs) := by
  unfold choice
  split
  case h_1 r => exact h r rfl
  case h_2 hmany =>
    have hlength : rs.length ≠ 1 := by
      intro hone
      obtain ⟨r, rfl⟩ := List.length_eq_one_iff.1 hone
      exact hmany r rfl
    simp only
    split
    · exact isRunOf_joined hlength
    · exact isRunOf_run _

lemma alternatives_ne_nil (r : Regex) : r.alternatives ≠ [] := by
  induction r with
  | alt a b iha _ => exact fun h => iha (List.append_eq_nil_iff.1 h).1
  | _ => exact List.cons_ne_nil _ _

/-- An expression with one alternative is that alternative. -/
lemma eq_of_alternatives_eq_singleton {s : Regex} (h : r.alternatives = [s]) : r = s := by
  cases r with
  | alt a b =>
    have hlength := congrArg List.length h
    have ha := List.length_pos_iff.2 (alternatives_ne_nil a)
    have hb := List.length_pos_iff.2 (alternatives_ne_nil b)
    rw [alternatives, List.length_append, List.length_singleton] at hlength
    omega
  | _ => exact (List.cons.inj h).1

/-- An only alternative is an only expression. -/
theorem mem_of_flatMap_alternatives {s : Regex} (h : rs.flatMap alternatives = [s]) :
    s ∈ rs := by
  cases rs with
  | nil => cases h
  | cons r rs =>
    have hlength := congrArg List.length h
    have hr := List.length_pos_iff.2 (alternatives_ne_nil r)
    rw [List.flatMap_cons, List.length_append, List.length_singleton] at hlength
    have hrest : rs.flatMap alternatives = [] := List.length_eq_zero_iff.1 (by omega)
    rw [List.flatMap_cons, hrest, List.append_nil] at h
    rw [eq_of_alternatives_eq_singleton h]
    exact List.mem_cons_self

/-- A simplified expression is a run. -/
lemma isRunOf_simplify (r : Regex) : IsRunOf r.simplify := by
  refine isRunOf_choice fun s hs => ?_
  obtain ⟨branch, -, rfl⟩ := List.mem_map.1 (mem_of_flatMap_alternatives hs)
  exact isRunOf_run _

/-- Behind the condition that the text starts, a simplified expression is simplified already. -/
theorem simplify_anchored (r : Regex) :
    r.simplify = .empty ∧ (cat (.look .textStart) r.simplify).simplify = .look .textStart ∨
      (cat (.look .textStart) r.simplify).simplify = cat (.look .textStart) r.simplify := by
  obtain ⟨rs, hrs, hsimplify⟩ := isRunOf_simplify r
  rw [hsimplify]
  -- the look in front is a part of its own, and the parts behind it are a run already
  have hrun :
      run (cat (.look .textStart) (ofParts rs)).parts = ofParts (.look .textStart :: rs) := by
    rw [parts, hrs.parts_ofParts]
    show ofParts ((parts (.look .textStart) ++ rs.flatMap parts).foldr consPart []) = _
    rw [hrs.flatMap_parts]
    show ofParts (consPart (.look .textStart) (rs.foldr consPart [])) = _
    rw [hrs.foldr_consPart]
    rfl
  have hsimplify : (cat (.look .textStart) (ofParts rs)).simplify =
      choice (ofParts (.look .textStart :: rs)).alternatives := by
    show choice ([run (cat (.look .textStart) (ofParts rs)).parts].flatMap alternatives) = _
    rw [hrun, List.flatMap_singleton]
  rw [hsimplify]
  cases rs with
  | nil => exact .inl ⟨rfl, rfl⟩
  | cons r rs => exact .inr rfl

end Highlight.Regex
