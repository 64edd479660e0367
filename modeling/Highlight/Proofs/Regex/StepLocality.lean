import Highlight.Proofs.Regex.ClassLocality

/-!
# Reading a part of a pattern, with a parenthesis behind the pattern

Behind an opening parenthesis stand flags or a name, and behind what is repeated a question mark may
stand. With the escapes and classes this makes every step of the reader (`ReadState.closes_step`).
-/

namespace Highlight.Regex

/-! ## Flags and names of groups -/

/-- The flags that are read, with the character that ends them. -/
theorem local_readFlags (change : FlagChange) (negated afterDash : Bool) :
    Local fun cs => (readFlags change negated afterDash cs).map fun result =>
      ((result.1, result.2.1), result.2.2) := by
  intro cs
  induction cs generalizing change negated afterDash with
  | nil => cases afterDash <;> first | exact .failed | exact .taken _
  | cons c cs ih =>
    have hle : cs.length ≤ (c :: cs).length := Nat.le_succ _
    simp only [List.cons_append, readFlags]
    split
    · split
      · exact .failed
      · exact .kept _ hle
    · split
      · split
        · exact .failed
        · exact (ih _ _ _).mono hle
      · cases flag? c with
        | none => exact .failed
        | some flag =>
          simp only [Option.bind_eq_bind, Option.bind_some]
          split
          · exact .failed
          · exact (ih _ _ _).mono hle

lemma local_readName (names : List (List Char)) : Local (readName names) := by
  intro cs
  have hle : (cs.span (· != '>')).2.length ≤ cs.length := by
    rw [List.span_eq_takeWhile_dropWhile]
    exact (List.dropWhile_suffix _).length_le
  unfold readName
  rw [span_append (by decide)]
  generalize cs.span (· != '>') = parts at hle
  obtain ⟨name, behind⟩ := parts
  cases behind with
  | nil =>
    rw [if_pos rfl]
    cases name <;> cases cs <;> exact .failed
  | cons d rest =>
    rw [if_neg (List.cons_ne_nil d rest)]
    cases name with
    | nil => exact .failed
    | cons first others =>
      simp only [List.cons_append]
      split
      · exact .kept _ (Nat.le_of_succ_le hle)
      · exact .failed

namespace ReadState

variable {state : ReadState}

lemma local_enterNamed (state : ReadState) : Local state.enterNamed :=
  Local.map (fun name => ({ state.enterCounted with names := name :: state.names } : ReadState))
    (local_readName state.names)

/-- What the flags behind a question mark make of a state. -/
def flagged? (state : ReadState) (change : FlagChange) (last : Char) : Option ReadState :=
  if last = ':' then some (state.enter change)
  else if change.isEmpty then none
  else some { state with
    level := state.level.push (.setFlags change)
    verbose := (change.lookup .verbose).getD state.verbose }

/-- Reads the flags behind a question mark. -/
def openFlags (state : ReadState) (cs : List Char) : Option (ReadState × List Char) :=
  ((readFlags [] false false cs).map fun result => ((result.1, result.2.1), result.2.2)).bind
    fun result => (state.flagged? result.1.1 result.1.2).bind fun state => some (state, result.2)

lemma local_openFlags (state : ReadState) : Local state.openFlags :=
  (local_readFlags [] false false).bind fun result =>
    local_bind (state.flagged? result.1 result.2) local_some

/-- Flags are read and then set for what follows, or for a group. -/
lemma openFlags_eq (state : ReadState) (cs : List Char) :
    state.openFlags cs = (do
      let (change, last, rest) ← readFlags [] false false cs
      if last == ':' then return (state.enter change, rest)
      else if change.isEmpty then none
      else
        return ({ state with
          level := state.level.push (.setFlags change)
          verbose := (change.lookup .verbose).getD state.verbose }, rest)) := by
  unfold openFlags
  cases readFlags [] false false cs with
  | none => rfl
  | some result =>
    obtain ⟨change, last, rest⟩ := result
    simp only [Option.map_some, Option.bind_some, Option.bind_eq_bind, flagged?, beq_iff_eq]
    split
    · rfl
    · split
      · rfl
      · rfl

/-! ## Where a group opens -/

/-- What the characters behind an opening parenthesis announce. -/
inductive GroupMark where
  /-- Looking ahead or behind, which is not supported. -/
  | around
  /-- A name, behind so many characters. -/
  | name (length : Nat)
  | flags
  | none

/-- What a text behind an opening parenthesis begins with. -/
def groupMark (cs : List Char) : GroupMark :=
  if cs[0]? = some '?' then
    if cs[1]? = some '=' ∨ cs[1]? = some '!' then .around
    else if cs[1]? = some '<' then
      if cs[2]? = some '=' ∨ cs[2]? = some '!' then .around else .name 2
    else if cs[1]? = some 'P' ∧ cs[2]? = some '<' then .name 3
    else .flags
  else .none

/-- A parenthesis behind a text adds no other character. -/
lemma getElem?_append_parenthesis {c : Char} (hc : c ≠ ')') (cs : List Char) (i : Nat) :
    (cs ++ [')'])[i]? = some c ↔ cs[i]? = some c := by
  by_cases hlt : i < cs.length
  · rw [List.getElem?_append_left hlt]
  · rw [List.getElem?_append_right (by omega), List.getElem?_eq_none (l := cs) (by omega)]
    cases i - cs.length <;> simp [hc.symm]

/-- Nothing is announced by a parenthesis. -/
theorem groupMark_append (cs : List Char) : groupMark (cs ++ [')']) = groupMark cs := by
  simp (disch := decide) only [groupMark, getElem?_append_parenthesis]

/-- The number of characters that announce what follows. -/
def GroupMark.length : GroupMark → Nat
  | .name length => length
  | .flags => 1
  | _ => 0

lemma length_groupMark_le (cs : List Char) : (groupMark cs).length ≤ cs.length := by
  unfold groupMark
  split
  case isFalse => exact Nat.zero_le _
  case isTrue hmark =>
    have hone := (List.getElem?_eq_some_iff.1 hmark).1
    split
    · exact Nat.zero_le _
    · split
      case isTrue hangle =>
        have htwo := (List.getElem?_eq_some_iff.1 hangle).1
        split
        · exact Nat.zero_le _
        · exact htwo
      case isFalse =>
        split
        case isTrue hnamed => exact (List.getElem?_eq_some_iff.1 hnamed.2).1
        case isFalse => exact hone

/-- Opens the group that a mark announces. -/
def openMarked (state : ReadState) (here : List Char) :
    GroupMark → Option (ReadState × List Char)
  | .around => none
  | .name length => state.enterNamed (here.drop length)
  | .flags => state.openFlags (here.drop 1)
  | .none => some (state.enterCounted, here)

/-- A group is opened by the mark in front of it, which decides how. -/
theorem openGroup_eq (state : ReadState) (cs : List Char) :
    state.openGroup cs =
      state.openMarked (skipTrivia state.verbose cs) (groupMark (skipTrivia state.verbose cs)) := by
  unfold openGroup
  simp only [← openFlags_eq]
  generalize skipTrivia state.verbose cs = here
  split
  case h_1 => rfl
  case h_2 => rfl
  case h_3 => rfl
  case h_4 => rfl
  case h_5 => rfl
  case h_6 rest _ _ => cases rest <;> simp_all [groupMark, openMarked]
  case h_7 rest hequals hexclaim _ _ hnamed hangle =>
    -- what is no mark of a named group or of a look around is a list of flags
    have hflags : groupMark ('?' :: rest) = .flags := by
      cases rest with
      | nil => rfl
      | cons c rest =>
        have hc : c ≠ '=' ∧ c ≠ '!' ∧ c ≠ '<' :=
          ⟨fun h => hequals rest (by rw [h]), fun h => hexclaim rest (by rw [h]),
            fun h => hangle rest (by rw [h])⟩
        have hname : ¬(c = 'P' ∧ rest[0]? = some '<') := by
          intro h
          obtain ⟨others, rfl⟩ := List.head?_eq_some_iff.1 (List.head?_eq_getElem?.trans h.2)
          exact hnamed others (by rw [h.1])
        simp only [groupMark, List.getElem?_cons_zero, List.getElem?_cons_succ, Option.some_inj,
          hc, hname, or_self, if_true, if_false]
    rw [hflags]
    rfl
  case h_8 => cases here <;> simp_all [groupMark, openMarked]

lemma local_openGroup (state : ReadState) : Local state.openGroup := by
  have hhere : Local fun here => state.openMarked here (groupMark here) := by
    intro here
    have hle := length_groupMark_le here
    simp only [groupMark_append]
    cases hmark : groupMark here with
    | around => exact .failed
    | name length =>
      rw [hmark] at hle
      exact (local_enterNamed state).drop hle
    | flags =>
      rw [hmark] at hle
      exact (local_openFlags state).drop hle
    | none => exact .kept _ (Nat.le_refl _)
  have heq : state.openGroup = _ := funext (openGroup_eq state)
  rw [heq]
  exact hhere.skipTrivia state.verbose

/-! ## Repetitions -/

lemma local_repeatLast (state : ReadState) (min : Nat) (max : Option Nat) :
    Local (state.repeatLast min max) := by
  -- only a question mark behind the repetition is looked at
  have hrepeated (greedy : Bool) : Local fun cs =>
      (state.level.repeatLast min max greedy).map fun level => ({ state with level }, cs) := by
    cases state.level.repeatLast min max greedy with
    | none => exact local_none
    | some level => exact local_some _
  intro cs
  cases cs with
  | nil => exact hrepeated true []
  | cons c cs =>
    by_cases hmark : c = '?'
    · rw [hmark]
      exact (hrepeated false cs).mono (Nat.le_succ _)
    · have hplain (cs : List Char) : state.repeatLast min max (c :: cs) =
          (state.level.repeatLast min max true).map fun level =>
            ({ state with level }, c :: cs) := by
        unfold repeatLast
        split
        rename_i hread
        split at hread
        case h_1 heq => exact absurd (List.cons.inj heq).1 hmark
        case h_2 =>
          cases hread
          rfl
      rw [List.cons_append, hplain, hplain]
      exact hrepeated true (c :: cs)

/-- The counts between braces and what they repeat. -/
theorem local_readRepetition (state : ReadState) : Local fun cs =>
    (readBraced state.verbose false cs).bind fun result =>
      (readCounts result.1).bind fun counts =>
        state.repeatLast counts.1 counts.2 (skipTrivia state.verbose result.2) := by
  refine (local_readBraced state.verbose false).bind fun inside => ?_
  refine local_bind (readCounts inside) fun counts => ?_
  exact (local_repeatLast state counts.1 counts.2).skipTrivia state.verbose

/-! ## A step of the reader -/

/-- What an escape adds to the current level. -/
def escaped (state : ReadState) : Escape → ReadState
  | .literal l => state.push (.literal l)
  | .assertion a => state.push (.assertion a)
  | .set s => state.push (.set s)

lemma step_escape (state : ReadState) (cs : List Char) :
    state.step '\\' cs =
      (readEscape state.verbose cs).map fun result => (state.escaped result.1, result.2) := by
  show (readEscape state.verbose cs).map _ = _
  refine Option.map_congr fun result _ => ?_
  obtain ⟨escape, rest⟩ := result
  cases escape <;> rfl

/-- Every part of a pattern is read whole, but for a word boundary that a brace at the end may go on
with. -/
theorem closes_step (state : ReadState) (c : Char) (cs : List Char)
    (h : c = '\\' → ∀ rest, cs = 'b' :: rest → ¬ IsOpenBrace state.verbose rest) :
    Closes cs.length (state.step c cs) (state.step c (cs ++ [')'])) := by
  by_cases hslash : c = '\\'
  · rw [hslash, step_escape, step_escape]
    -- only an escape may look beyond what it takes
    exact (closes_readEscape (h hslash)).map state.escaped
  · unfold step
    split
    case h_1 => exact local_openGroup state cs
    case h_2 =>
      cases state.closeGroup with
      | none => exact .failed
      | some state => exact .kept state (Nat.le_refl _)
    case h_4 => exact (local_readClass state.verbose cs).map fun s => state.push (.set s)
    case h_5 => exact local_repeatLast state 0 (some 1) cs
    case h_6 => exact local_repeatLast state 0 none cs
    case h_7 => exact local_repeatLast state 1 none cs
    case h_8 => exact local_readRepetition state cs
    case h_9 => exact absurd rfl hslash
    all_goals exact .kept _ (Nat.le_refl _)

end ReadState

end Highlight.Regex
