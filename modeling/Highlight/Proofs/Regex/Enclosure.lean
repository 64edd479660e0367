import Highlight.Proofs.Regex.StepLocality

/-!
# Patterns in a group

A pattern is read in a group as it is read by itself: each state has one more group around it, until
the parenthesis behind the pattern closes that. Two things can come between them. A comment at the
end of the pattern may take the parenthesis; then the group stays open. And a parenthesis of the
pattern that closes nothing there (`ComesToUnopened`) closes the group.
-/

namespace Highlight.Regex

/-- Whether reading comes to a closing parenthesis where no group is open. -/
inductive ComesToUnopened : ReadState → List Char → Prop where
  | here {state : ReadState} {cs rest : List Char}
    (hskip : skipTrivia state.verbose cs = ')' :: rest) (hgroups : state.groups = []) :
    ComesToUnopened state cs
  | step {state state' : ReadState} {c : Char} {cs rest rest' : List Char}
    (hskip : skipTrivia state.verbose cs = c :: rest)
    (hstep : state.step c rest = some (state', rest')) (hcomes : ComesToUnopened state' rest') :
    ComesToUnopened state cs

/-- Whether a pattern has a closing parenthesis without its opening one. -/
def HasUnopened (pattern : List Char) : Prop := ComesToUnopened {} pattern

variable {state : ReadState} {cs : List Char} {c : Char} {fuel : Nat}

/-- A character that counts is a step, and the reading goes on behind it. -/
lemma readFrom_cons {rest : List Char} (hskip : skipTrivia state.verbose cs = c :: rest) :
    readFrom (fuel + 1) state cs =
      (state.step c rest).bind fun result => readFrom fuel result.1 result.2 := by
  rw [readFrom, hskip]
  rfl

/-- Where no character counts the pattern ends, with all groups closed or not at all. -/
lemma readFrom_nil (hskip : skipTrivia state.verbose cs = []) :
    readFrom (fuel + 1) state cs =
      if state.groups.isEmpty then some state.level.expr else none := by
  rw [readFrom, hskip]

/-- A pattern with such a parenthesis is not well formed. -/
theorem readFrom_of_comesToUnopened (h : ComesToUnopened state cs) :
    readFrom fuel state cs = none := by
  induction h generalizing fuel with
  | here hskip hgroups =>
    cases fuel with
    | zero => rfl
    | succ fuel =>
      rw [readFrom_cons hskip]
      show ((ReadState.closeGroup _).map _).bind _ = none
      rw [ReadState.closeGroup, hgroups]
      rfl
  | step hskip hstep _ ih =>
    cases fuel with
    | zero => rfl
    | succ fuel =>
      rw [readFrom_cons hskip, hstep]
      exact ih

/-! ## One more group around -/

namespace ReadState

/-- The state with one more group around all that are open. -/
def within (state : ReadState) (group : OpenGroup) : ReadState :=
  { state with groups := state.groups ++ [group] }

variable {group : OpenGroup}

lemma enterNamed_within (state : ReadState) (group : OpenGroup) (cs : List Char) :
    (state.within group).enterNamed cs =
      (state.enterNamed cs).map fun result => (result.1.within group, result.2) := by
  show (readName state.names cs).map _ = ((readName state.names cs).map _).map _
  rw [Option.map_map]
  rfl

lemma openFlags_within (state : ReadState) (group : OpenGroup) (cs : List Char) :
    (state.within group).openFlags cs =
      (state.openFlags cs).map fun result => (result.1.within group, result.2) := by
  unfold openFlags
  cases readFlags [] false false cs with
  | none => rfl
  | some result =>
    obtain ⟨change, last, rest⟩ := result
    simp only [Option.map_some, Option.bind_some, flagged?]
    split
    · rfl
    · split
      · rfl
      · rfl

/-- A group is opened in a group as without it. -/
lemma openGroup_within (state : ReadState) (group : OpenGroup) (cs : List Char) :
    (state.within group).openGroup cs =
      (state.openGroup cs).map fun result => (result.1.within group, result.2) := by
  rw [openGroup_eq, openGroup_eq]
  show (state.within group).openMarked (skipTrivia state.verbose cs)
    (groupMark (skipTrivia state.verbose cs)) = _
  cases groupMark (skipTrivia state.verbose cs) with
  | around => rfl
  | name length => exact enterNamed_within state group _
  | flags => exact openFlags_within state group _
  | none => rfl

lemma repeatLast_within (state : ReadState) (group : OpenGroup) (min : Nat) (max : Option Nat)
    (cs : List Char) :
    (state.within group).repeatLast min max cs =
      (state.repeatLast min max cs).map fun result => (result.1.within group, result.2) := by
  unfold repeatLast
  split
  show (state.level.repeatLast _ _ _).map _ = ((state.level.repeatLast _ _ _).map _).map _
  rw [Option.map_map]
  rfl

/-- Every step but that behind the last parenthesis is made within a group as without it. -/
theorem step_within (hopen : c = ')' → state.groups ≠ []) (group : OpenGroup) (cs : List Char) :
    (state.within group).step c cs =
      (state.step c cs).map fun result => (result.1.within group, result.2) := by
  unfold step
  split
  case h_1 => exact openGroup_within state group cs
  case h_2 =>
    -- a parenthesis closes a group of the state itself and not the one around it
    obtain ⟨inner, groups, hgroups⟩ := List.exists_cons_of_ne_nil (hopen rfl)
    unfold closeGroup within
    rw [hgroups]
    rfl
  case h_4 =>
    show (readClass state.verbose cs).map _ = ((readClass state.verbose cs).map _).map _
    rw [Option.map_map]
    rfl
  case h_5 => exact repeatLast_within state group 0 (some 1) cs
  case h_6 => exact repeatLast_within state group 0 none cs
  case h_7 => exact repeatLast_within state group 1 none cs
  case h_8 =>
    show ((readBraced state.verbose false cs).bind fun result =>
        (readCounts result.1).bind fun counts => (state.within group).repeatLast counts.1 counts.2
          (skipTrivia state.verbose result.2)) =
      ((readBraced state.verbose false cs).bind fun result =>
        (readCounts result.1).bind fun counts => state.repeatLast counts.1 counts.2
          (skipTrivia state.verbose result.2)).map _
    cases readBraced state.verbose false cs with
    | none => rfl
    | some result =>
      rw [Option.bind_some, Option.bind_some]
      cases readCounts result.1 with
      | none => rfl
      | some counts => exact repeatLast_within state group counts.1 counts.2 _
  case h_9 =>
    show (readEscape state.verbose cs).map _ = ((readEscape state.verbose cs).map _).map _
    rw [Option.map_map]
    refine Option.map_congr fun result _ => ?_
    obtain ⟨escape, rest⟩ := result
    cases escape <;> rfl
  all_goals rfl

end ReadState

/-! ## Reading in a group -/

/-- What a group is when it is closed around an expression and nothing follows. -/
def OpenGroup.enclose (group : OpenGroup) (e : Expr) : Expr :=
  (group.outer.push (.group group.number group.change e)).expr

/-- How a text is read by itself, then in a group with the parenthesis that closes it, then with
that parenthesis alone. -/
inductive Encloses (group : OpenGroup) : Option Expr → Option Expr → Option Expr → Prop where
  | closed (e : Expr) : Encloses group (some e) (some (group.enclose e)) none
  /-- A comment takes the parenthesis, and the group stays open. -/
  | lost (e : Expr) : Encloses group (some e) none (some e)
  | failed (behind : Option Expr) : Encloses group none none behind

variable {group : OpenGroup}

lemma skipTrivia_nil (verbose : Bool) : skipTrivia verbose [] = [] := by
  cases verbose <;> rfl

lemma readFrom_within_cons {rest : List Char} (hskip : skipTrivia state.verbose cs = c :: rest) :
    readFrom (fuel + 1) (state.within group) cs =
      ((state.within group).step c rest).bind fun result => readFrom fuel result.1 result.2 :=
  readFrom_cons hskip

/-- A group that is still open where the text ends makes the pattern ill-formed. -/
theorem readFrom_within_nil (hskip : skipTrivia state.verbose cs = []) :
    readFrom fuel (state.within group) cs = none := by
  cases fuel with
  | zero => rfl
  | succ fuel =>
    have hskip' : skipTrivia (state.within group).verbose cs = [] := hskip
    have hopen : (state.within group).groups.isEmpty = false := by simp [ReadState.within]
    rw [readFrom_nil hskip', hopen]
    rfl

/-- Where the parenthesis is lost nothing is left to read. -/
theorem encloses_of_nil {fuel' fuel'' : Nat} (hskip : skipTrivia state.verbose cs = [])
    (hskip' : skipTrivia state.verbose (cs ++ [')']) = []) :
    Encloses group (readFrom (fuel + 1) state cs)
      (readFrom fuel' (state.within group) (cs ++ [')']))
      (readFrom (fuel'' + 1) state (cs ++ [')'])) := by
  rw [readFrom_within_nil hskip', readFrom_nil hskip, readFrom_nil hskip']
  split
  · exact .lost _
  · exact .failed _

/-- At the end of the text the parenthesis closes the group around it. -/
theorem encloses_of_end {fuel' fuel'' : Nat} (hskip : skipTrivia state.verbose cs = [])
    (hskip' : skipTrivia state.verbose (cs ++ [')']) = [')']) :
    Encloses group (readFrom (fuel + 1) state cs)
      (readFrom (fuel' + 2) (state.within group) (cs ++ [')']))
      (readFrom (fuel'' + 2) state (cs ++ [')'])) := by
  rw [readFrom_nil hskip, readFrom_cons hskip', readFrom_within_cons hskip']
  show Encloses group _
    (((state.within group).closeGroup.map fun state => (state, [])).bind fun result =>
      readFrom (fuel' + 1) result.1 result.2)
    ((state.closeGroup.map fun state => (state, [])).bind fun result =>
      readFrom (fuel'' + 1) result.1 result.2)
  unfold ReadState.closeGroup ReadState.within
  cases hgroups : state.groups with
  | nil =>
    simp only [List.nil_append, Option.map_some, Option.bind_some]
    rw [readFrom_nil (skipTrivia_nil _)]
    exact .closed state.level.expr
  | cons inner groups =>
    simp only [List.cons_append, Option.map_some, Option.bind_some]
    rw [readFrom_nil (skipTrivia_nil _)]
    -- a group of the pattern itself is still open at the end
    have hopen : (groups ++ [group]).isEmpty = false := by simp
    rw [hopen]
    exact .failed _

/-! ### A brace behind the sign of a word boundary -/

lemma readBraced_of_dropTrivia {inComment : Bool} (h : dropTrivia inComment cs = []) :
    readBraced true inComment (cs ++ [')']) = none := by
  induction cs generalizing inComment with
  | nil => cases inComment <;> rfl
  | cons c cs ih =>
    rw [dropTrivia] at h
    rw [List.cons_append, readBraced]
    cases inComment with
    -- what a comment has begun to hide stays hidden
    | true => exact ih h
    | false =>
      simp only [Bool.false_eq_true, if_false] at h ⊢
      split at h
      case isTrue hblank =>
        rw [hblank]
        exact ih h
      case isFalse hblank =>
        split at h
        case isTrue hcomment =>
          rw [if_neg (by simp [hblank]), hcomment]
          exact ih h
        case isFalse => cases h

/-- Where only blanks and comments are left, a parenthesis does not complete a brace. -/
lemma readBraced_of_skipTrivia {verbose : Bool} (h : skipTrivia verbose cs = []) :
    readBraced verbose false (cs ++ [')']) = none := by
  cases verbose with
  | true => exact readBraced_of_dropTrivia h
  | false =>
    obtain rfl : cs = [] := h
    rfl

lemma skipTrivia_brace (verbose : Bool) (cs : List Char) :
    skipTrivia verbose ('\x7b' :: cs) = '\x7b' :: cs := by
  have hblank : Unicode.isBlank '\x7b' = false := by decide
  cases verbose with
  | true => simp [skipTrivia, dropTrivia, hblank]
  | false => rfl

/-- A brace that begins no counts cannot be read where it is not part of a word boundary. -/
theorem readFrom_of_isOpenBrace (h : IsOpenBrace state.verbose cs) :
    readFrom fuel state (cs ++ [')']) = none := by
  obtain ⟨rest, rfl, hnil⟩ := h
  cases fuel with
  | zero => rfl
  | succ fuel =>
    rw [List.cons_append, readFrom_cons (skipTrivia_brace _ _)]
    show (((readBraced state.verbose false (rest ++ [')'])).bind _).bind _) = none
    rw [readBraced_of_skipTrivia hnil]
    rfl

/-- A word boundary that a brace at the end may go on with cannot be read, in a group or without
one. -/
theorem encloses_of_isOpenBrace {fuel' fuel'' : Nat} (group : OpenGroup)
    (h : IsOpenBrace state.verbose cs) :
    Encloses group
      ((state.step '\\' ('b' :: cs)).bind fun result => readFrom fuel result.1 result.2)
      (((state.step '\\' ('b' :: cs ++ [')'])).map fun result =>
        (result.1.within group, result.2)).bind fun result => readFrom fuel' result.1 result.2)
      ((state.step '\\' ('b' :: cs ++ [')'])).bind fun result =>
        readFrom fuel'' result.1 result.2) := by
  obtain ⟨hnone, hboundary⟩ := readWordBoundary_of_isOpenBrace h
  rw [state.step_escape, readEscape_b, hnone, List.cons_append, state.step_escape, readEscape_b]
  -- a brace that nothing closes makes the pattern fail, in the group and out of it
  have hwithin : (((((readWordBoundary state.verbose (cs ++ [')'])).map fun result =>
      (Escape.assertion result.1, result.2)).map fun result =>
      (state.escaped result.1, result.2)).map fun result => (result.1.within group, result.2)).bind
      fun result => readFrom fuel' result.1 result.2) = none := by
    rcases hboundary with hboundary | hboundary
    · rw [hboundary]
      rfl
    · rw [hboundary]
      show readFrom fuel' ((state.push (.assertion .wordBoundary)).within group) (cs ++ [')']) =
        none
      exact readFrom_of_isOpenBrace h
  rw [hwithin]
  exact .failed _

/-- Outside a group and in one a text is read alike, as long as no parenthesis of the text closes
the group. -/
theorem encloses_readFrom {fuel' fuel'' : Nat} (group : OpenGroup) (hfuel : cs.length < fuel)
    (hfuel' : cs.length + 1 < fuel') (hfuel'' : cs.length + 1 < fuel'')
    (hno : ¬ ComesToUnopened state cs) :
    Encloses group (readFrom fuel state cs) (readFrom fuel' (state.within group) (cs ++ [')']))
      (readFrom fuel'' state (cs ++ [')'])) := by
  -- on the fuel, which exceeds the characters that are left: every step leaves fewer
  induction fuel generalizing fuel' fuel'' state cs with
  | zero => exact absurd hfuel (Nat.not_lt_zero _)
  | succ fuel ih =>
    obtain ⟨fuel', rfl⟩ : ∃ k, fuel' = k + 2 := ⟨fuel' - 2, by omega⟩
    obtain ⟨fuel'', rfl⟩ : ∃ k, fuel'' = k + 2 := ⟨fuel'' - 2, by omega⟩
    rcases skipTrivia_append state.verbose cs with hskip' | ⟨hskip, hskip'⟩
    · cases hskip : skipTrivia state.verbose cs with
      | nil =>
        rw [hskip, List.nil_append] at hskip'
        exact encloses_of_end hskip hskip'
      | cons c rest =>
        have hle := length_skipTrivia_le state.verbose cs
        rw [hskip, List.cons_append] at hskip'
        rw [hskip, List.length_cons] at hle
        have hopen : c = ')' → state.groups ≠ [] := by
          intro hc hgroups
          exact hno (.here (by rw [hskip, hc]) hgroups)
        rw [readFrom_cons hskip, readFrom_cons hskip', readFrom_within_cons hskip',
          ReadState.step_within hopen]
        by_cases hbrace : c = '\\' → ∀ tail, rest = 'b' :: tail → ¬ IsOpenBrace state.verbose tail
        · have hclose := state.closes_step c rest hbrace
          generalize hstep : state.step c rest = found at hclose
          generalize state.step c (rest ++ [')']) = found' at hclose
          cases hclose with
          | @kept state' rest' hrest =>
            have hshort : rest'.length < fuel := by omega
            have hshort' : rest'.length + 1 < fuel' + 1 := by omega
            have hshort'' : rest'.length + 1 < fuel'' + 1 := by omega
            exact ih hshort hshort' hshort'' fun hcomes => hno (.step hskip hstep hcomes)
          | swallowed state' =>
            -- the text ends alike for all three, and within the group that is too early
            obtain ⟨fuel, rfl⟩ : ∃ k, fuel = k + 1 := ⟨fuel - 1, by omega⟩
            simp only [Option.map_some, Option.bind_some]
            rw [readFrom_within_nil (skipTrivia_nil _), readFrom_nil (skipTrivia_nil _),
              readFrom_nil (skipTrivia_nil _)]
            split
            · exact .lost _
            · exact .failed _
          | failed => exact .failed _
          | taken state' =>
            -- what the parenthesis completes is not read by itself
            simp only [Option.map_some, Option.bind_some, Option.bind_none]
            rw [readFrom_within_nil (skipTrivia_nil _)]
            exact .failed _
        · -- the one part that is read in the group and not without it
          obtain ⟨rfl, tail, rfl, htail⟩ : c = '\\' ∧ ∃ tail, rest = 'b' :: tail ∧
              IsOpenBrace state.verbose tail := by
            simpa using hbrace
          exact encloses_of_isOpenBrace group htail
    · exact encloses_of_nil hskip hskip'

/-! ## The group that anchors a pattern -/

/-- The group at the beginning of a line. -/
def anchorGroup : OpenGroup where
  outer := { items := [.assertion .lineStart] }
  number := none
  change := []
  verbose := false

/-- The group of the anchor encloses an expression behind the anchor. -/
theorem enclose_anchorGroup (e : Expr) :
    anchorGroup.enclose e = .cat (.assertion .lineStart) (.group none [] e) := rfl

/-- Behind the anchor and its parenthesis the pattern is read in the group of the anchor. -/
lemma readFrom_anchored (pattern : List Char) :
    readFrom (fuel + 2) {} (['^', '(', '?', ':'] ++ pattern) =
      readFrom fuel (ReadState.within {} anchorGroup) pattern := rfl

/-- The three ways in which a pattern without an unopened parenthesis is read by itself, anchored
and with a parenthesis behind it. -/
theorem encloses_read (pattern : List Char) (h : ¬ HasUnopened pattern) :
    Encloses anchorGroup (readFrom (pattern.length + 1) {} pattern)
      (readFrom ((['^', '(', '?', ':'] ++ pattern ++ [')']).length + 1) {}
        (['^', '(', '?', ':'] ++ pattern ++ [')']))
      (readFrom ((pattern ++ [')']).length + 1) {} (pattern ++ [')'])) := by
  have hlength : (['^', '(', '?', ':'] ++ pattern ++ [')']).length + 1 =
      pattern.length + 4 + 2 := by
    simp only [List.length_append, List.length_cons, List.length_nil]
    omega
  rw [hlength, List.append_assoc, readFrom_anchored]
  refine encloses_readFrom anchorGroup (Nat.lt_succ_self _) (by omega) ?_ h
  rw [List.length_append]
  exact Nat.lt_succ_self _

end Highlight.Regex
