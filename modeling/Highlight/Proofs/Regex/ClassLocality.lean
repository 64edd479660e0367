import Highlight.Proofs.Regex.Locality

/-!
# Reading a class, with a parenthesis behind the pattern

A class in brackets ends with its own closing bracket, so a parenthesis behind the pattern does not
matter for it (`local_readClass`). The parts of a class are read one after another: names between
brackets, inner classes, operations between two sides, and members or ranges of them.
-/

namespace Highlight.Regex

variable {verbose : Bool} {cs : List Char}

/-! ## Names between brackets -/

/-- A part of a text that runs to a mark ends at the same mark with a parenthesis behind it, and
without a mark takes the parenthesis. -/
theorem span_append {p : Char → Bool} (hp : p ')' = true) (cs : List Char) :
    (cs ++ [')']).span p =
      if (cs.span p).2 = [] then (cs ++ [')'], [])
      else ((cs.span p).1, (cs.span p).2 ++ [')']) := by
  rw [List.span_eq_takeWhile_dropWhile, List.span_eq_takeWhile_dropWhile]
  induction cs with
  | nil => simp [hp]
  | cons c rest ih =>
    cases hc : p c with
    | false => simp [hc]
    | true =>
      simp only [List.cons_append, List.takeWhile_cons_of_pos hc, List.dropWhile_cons_of_pos hc]
      rw [Prod.ext_iff] at ih ⊢
      split at ih
      · rename_i hnil
        rw [if_pos hnil]
        exact ⟨congrArg (c :: ·) ih.1, ih.2⟩
      · rename_i hne
        rw [if_neg hne]
        exact ⟨congrArg (c :: ·) ih.1, ih.2⟩

/-- Whether a caret stands ahead of a class, and what stands behind it. -/
def caret : List Char → Bool × List Char
  | '^' :: rest => (true, rest)
  | cs => (false, cs)

lemma caret_append (cs : List Char) :
    caret (cs ++ [')']) = ((caret cs).1, (caret cs).2 ++ [')']) := by
  cases cs with
  | nil => rfl
  | cons c rest =>
    by_cases hcaret : c = '^'
    · rw [hcaret]
      rfl
    · have hnone (rest : List Char) : caret (c :: rest) = (false, c :: rest) := by
        unfold caret
        split
        case h_1 heq => exact absurd (List.cons.inj heq).1 hcaret
        case h_2 => rfl
      rw [List.cons_append, hnone, hnone]
      rfl

lemma length_caret_le (cs : List Char) : (caret cs).2.length ≤ cs.length := by
  unfold caret
  split
  · exact Nat.le_succ _
  · exact Nat.le_refl _

/-- A named class is read up to the next colon, which has to have a bracket behind it. -/
lemma readAsciiClass_colon (cs : List Char) :
    readAsciiClass (':' :: cs) =
      match (caret cs).2.span (· != ':') with
      | (name, ':' :: ']' :: rest) =>
        (asciiClass? (String.ofList name)).map fun ranges => (.ascii ranges (caret cs).1, rest)
      | _ => none := rfl

lemma readAsciiClass_eq_none {c : Char} (hcolon : c ≠ ':') (cs : List Char) :
    readAsciiClass (c :: cs) = none := by
  unfold readAsciiClass
  split
  case h_1 heq => exact absurd (List.cons.inj heq).1 hcolon
  case h_2 => rfl

/-- No name of a class has a parenthesis, and the brackets behind the name are read with it. -/
theorem readAsciiClass_append (cs : List Char) :
    readAsciiClass (cs ++ [')']) =
      (readAsciiClass cs).map fun result => (result.1, result.2 ++ [')']) := by
  cases cs with
  | nil => rfl
  | cons c cs =>
    by_cases hcolon : c = ':'
    · subst hcolon
      rw [List.cons_append, readAsciiClass_colon, readAsciiClass_colon, caret_append,
        span_append (by decide)]
      -- the name ends at the next colon, before the parenthesis that was added
      generalize (caret cs).2.span (· != ':') = parts
      obtain ⟨name, behind⟩ := parts
      cases behind with
      | nil => rfl
      | cons d behind =>
        simp only [reduceCtorEq, if_false, List.cons_append]
        by_cases hmark : d = ':'
        · subst hmark
          cases behind with
          | nil => rfl
          | cons e rest =>
            by_cases hbracket : e = ']'
            · subst hbracket
              simp only [List.cons_append]
              cases asciiClass? (String.ofList name) with
              | none => rfl
              | some ranges => rfl
            · simp [hbracket]
        · simp [hmark]
    · rw [List.cons_append, readAsciiClass_eq_none hcolon, readAsciiClass_eq_none hcolon]
      rfl

lemma length_readAsciiClass_le {item : ClassSet} {rest : List Char}
    (h : readAsciiClass cs = some (item, rest)) : rest.length ≤ cs.length := by
  cases cs with
  | nil => cases h
  | cons c cs =>
    by_cases hcolon : c = ':'
    · subst hcolon
      rw [readAsciiClass_colon, List.span_eq_takeWhile_dropWhile] at h
      have hbehind := (List.dropWhile_suffix (· != ':') (l := (caret cs).2)).length_le
      have hcaret := length_caret_le cs
      split at h
      case h_1 heq =>
        obtain ⟨ranges, -, heq'⟩ := Option.map_eq_some_iff.1 h
        obtain ⟨-, rfl⟩ := Prod.mk.inj heq'
        rw [(Prod.mk.inj heq).2, List.length_cons, List.length_cons] at hbehind
        rw [List.length_cons]
        omega
      case h_2 => cases h
    · rw [readAsciiClass_eq_none hcolon] at h
      cases h

/-! ## Where a class opens -/

lemma local_readDashes (verbose inComment : Bool) :
    Local fun cs => some (readDashes verbose inComment cs) := by
  intro cs
  simp only
  induction cs generalizing inComment with
  | nil =>
    cases inComment with
    | true => exact .swallowed []
    | false => cases verbose <;> exact .kept [] (Nat.le_refl 0)
  | cons c cs ih =>
    have hle : cs.length ≤ (c :: cs).length := Nat.le_succ _
    rw [List.cons_append, readDashes, readDashes]
    split
    · exact (ih _).mono hle
    · split
      · exact (ih _).mono hle
      · split
        · exact (ih _).mono hle
        · split
          · exact ((ih false).map (ClassSet.literal ⟨'-', false⟩ :: ·)).mono hle
          · exact .kept [] (Nat.le_refl _)

lemma local_caret : Local fun cs => some (caret cs) := by
  intro cs
  simp only [caret_append]
  exact .kept _ (length_caret_le cs)

/-- The bracket whose dashes have been read; a closing bracket directly behind the opening one
stands for itself. -/
def OpenBracket.begin (negated : Bool) : List ClassSet × List Char → OpenBracket × List Char
  | ([], ']' :: rest) => ({ negated, items := [.literal ⟨']', false⟩] }, rest)
  | (items, rest) => ({ negated, items }, rest)

lemma local_begin (negated : Bool) (items : List ClassSet) :
    Local fun cs => some (OpenBracket.begin negated (items, cs)) := by
  intro cs
  cases items with
  | cons item items => exact .kept _ (Nat.le_refl _)
  | nil =>
    cases cs with
    | nil => exact .kept _ (Nat.le_refl 0)
    | cons c cs =>
      by_cases hbracket : c = ']'
      · rw [hbracket]
        exact .kept _ (Nat.le_succ _)
      · have hplain (cs : List Char) :
            OpenBracket.begin negated ([], c :: cs) = ({ negated, items := [] }, c :: cs) := by
          unfold OpenBracket.begin
          split
          case h_1 heq => exact absurd (List.cons.inj (Prod.mk.inj heq).2).1 hbracket
          case h_2 heq =>
            obtain ⟨rfl, rfl⟩ := Prod.mk.inj heq
            rfl
        simp only [List.cons_append, hplain]
        exact .kept _ (Nat.le_refl _)

lemma local_openBracket (verbose : Bool) : Local fun cs => some (openBracket verbose cs) := by
  have hdashes (negated : Bool) : Local fun cs =>
      (some (readDashes verbose false cs)).bind fun result =>
        some (OpenBracket.begin negated result) :=
    (local_readDashes verbose false).bind (local_begin negated)
  have hcaret : Local fun cs => (some (caret cs)).bind fun result =>
      (some (readDashes verbose false result.2)).bind fun result' =>
        some (OpenBracket.begin result.1 result') :=
    local_caret.bind hdashes
  exact hcaret.skipTrivia verbose

/-! ## Members and ranges -/

/-- A member of a class that an escape stands for. -/
def Escape.member? : Escape → Option ClassSet
  | .literal l => some (.literal l)
  | .set s => some s
  | .assertion _ => none

/-- An escape is a member of a class if it stands for characters. -/
lemma readMember_escape (verbose : Bool) (cs : List Char) :
    readMember verbose ('\\' :: cs) =
      (readEscape verbose cs).bind fun result =>
        result.1.member?.bind fun item => some (item, result.2) := by
  unfold readMember
  simp only
  cases readEscape verbose cs with
  | none => rfl
  | some result =>
    obtain ⟨escape, rest⟩ := result
    cases escape <;> rfl

/-- A member takes a character, and nothing behind what it takes. -/
theorem closes_readMember (verbose : Bool) (c : Char) (cs : List Char) :
    Closes cs.length (readMember verbose (c :: cs)) (readMember verbose (c :: cs ++ [')'])) := by
  by_cases hslash : c = '\\'
  · subst hslash
    rw [List.cons_append, readMember_escape, readMember_escape]
    by_cases hb : ∃ rest, cs = 'b' :: rest
    · -- no boundary of a word is a member
      obtain ⟨rest, rfl⟩ := hb
      have hnone (rest : List Char) : ((readEscape verbose ('b' :: rest)).bind fun result =>
          result.1.member?.bind fun item => some (item, result.2)) = none := by
        rw [readEscape_b]
        cases readWordBoundary verbose rest <;> rfl
      rw [List.cons_append, hnone, hnone]
      exact .failed
    · have hescape : Closes cs.length (readEscape verbose cs) (readEscape verbose (cs ++ [')'])) :=
        closes_readEscape fun rest heq => absurd ⟨rest, heq⟩ hb
      have hmember (escape : Escape) :
          Local fun cs => escape.member?.bind fun item => some (item, cs) :=
        local_bind _ local_some
      exact hescape.bind (fun escape rest hle => (hmember escape rest).mono hle) (fun _ => rfl)
        fun escape => (hmember escape).nil
  · -- any other character is a member by itself
    have hplain (cs : List Char) :
        readMember verbose (c :: cs) = some (.literal ⟨c, false⟩, cs) := by
      unfold readMember
      split
      case h_1 heq => cases heq
      case h_2 heq => exact absurd (List.cons.inj heq).1 hslash
      case h_3 heq =>
        obtain ⟨rfl, rfl⟩ := List.cons.inj heq
        rfl
    rw [List.cons_append, hplain, hplain]
    exact .kept _ (Nat.le_refl _)

lemma local_readMember (verbose : Bool) : Local (readMember verbose) := by
  intro cs
  cases cs with
  | nil => exact .taken _
  | cons c cs => exact (closes_readMember verbose c cs).mono (Nat.le_succ _)

/-- A parenthesis counts where nothing before it does. -/
lemma peekPast_append (inComment : Bool) (cs : List Char) :
    peekPast inComment (cs ++ [')']) = (peekPast inComment cs).or (some ')') := by
  induction cs generalizing inComment with
  | nil => cases inComment <;> rfl
  | cons c cs ih =>
    rw [List.cons_append, peekPast, peekPast]
    split
    · exact ih _
    · split
      · exact ih _
      · rfl

/-- The character that decides whether a dash behind a member is part of a range. -/
def behindDash (verbose : Bool) (cs : List Char) : Option Char :=
  if verbose then peekPast false cs else cs.head?

/-- A parenthesis decides about a dash where nothing before it does. -/
lemma behindDash_append (verbose : Bool) (cs : List Char) :
    behindDash verbose (cs ++ [')']) = (behindDash verbose cs).or (some ')') := by
  unfold behindDash
  cases verbose with
  | true => exact peekPast_append false cs
  | false => cases cs <;> rfl

/-- The range between two members, if they are characters in their order. -/
def ClassSet.range? : ClassSet → ClassSet → Option ClassSet
  | .literal first, .literal last =>
    if first.char ≤ last.char then some (.range first last) else none
  | _, _ => none

/-- What is read of a range behind its first member and the blanks and comments there. -/
def readRangeEnd (verbose : Bool) (first : ClassSet) : List Char → Option (ClassSet × List Char)
  | '-' :: after =>
    if behindDash verbose after = some ']' ∨ behindDash verbose after = some '-' then
      some (first, '-' :: after)
    else (readMember verbose (skipTrivia verbose after)).bind fun result =>
      (first.range? result.1).bind fun item => some (item, result.2)
  | rest => some (first, rest)

/-- Behind a dash there is the end of a range, unless the dash stands for itself. -/
lemma readRangeEnd_dash (verbose : Bool) (first : ClassSet) (after : List Char) :
    readRangeEnd verbose first ('-' :: after) =
      if behindDash verbose after = some ']' ∨ behindDash verbose after = some '-' then
        some (first, '-' :: after)
      else (readMember verbose (skipTrivia verbose after)).bind fun result =>
        (first.range? result.1).bind fun item => some (item, result.2) := rfl

/-- Without a dash a member is no range. -/
lemma readRangeEnd_of_ne_dash (verbose : Bool) (first : ClassSet)
    (h : ∀ after, cs ≠ '-' :: after) : readRangeEnd verbose first cs = some (first, cs) := by
  unfold readRangeEnd
  split
  case h_1 after => exact absurd rfl (h after)
  case h_2 => rfl

/-- A range is a member and what its dash adds, blanks left out. -/
lemma readRange_eq (verbose : Bool) (cs : List Char) :
    readRange verbose cs = (readMember verbose cs).bind fun result =>
      readRangeEnd verbose result.1 (skipTrivia verbose result.2) := by
  unfold readRange
  cases readMember verbose cs with
  | none => rfl
  | some result =>
    obtain ⟨first, rest⟩ := result
    rw [Option.bind_eq_bind, Option.bind_some, Option.bind_some]
    dsimp only
    generalize skipTrivia verbose rest = here
    -- only a dash makes a range, and only between two characters
    by_cases hdash : ∃ after, here = '-' :: after
    · obtain ⟨after, rfl⟩ := hdash
      rw [readRangeEnd_dash]
      show (if behindDash verbose after = some ']' ∨ behindDash verbose after = some '-' then _
        else _) = _
      by_cases hnext : behindDash verbose after = some ']' ∨ behindDash verbose after = some '-'
      · rw [if_pos hnext, if_pos hnext]
        rfl
      · rw [if_neg hnext, if_neg hnext]
        cases readMember verbose (skipTrivia verbose after) with
        | none => rfl
        | some result =>
          obtain ⟨last, rest⟩ := result
          cases first with
          | literal first =>
            cases last with
            | literal last =>
              show ((if first.char ≤ last.char then some () else none).bind fun _ =>
                  some (ClassSet.range first last, rest)) =
                (if first.char ≤ last.char then some (ClassSet.range first last) else none).bind _
              split
              · rfl
              · rfl
            | _ => rfl
          | _ => rfl
    · rw [readRangeEnd_of_ne_dash verbose first fun after h => hdash ⟨after, h⟩]
      split
      case h_1 after => exact absurd ⟨after, rfl⟩ hdash
      case h_2 => rfl

lemma local_readRangeEnd (verbose : Bool) (first : ClassSet) :
    Local (readRangeEnd verbose first) := by
  have hlast : Local fun cs => (readMember verbose (skipTrivia verbose cs)).bind fun result =>
      (first.range? result.1).bind fun item => some (item, result.2) :=
    ((local_readMember verbose).skipTrivia verbose).bind fun last =>
      local_bind (first.range? last) local_some
  intro cs
  cases cs with
  | nil => exact .kept _ (Nat.le_refl 0)
  | cons c after =>
    by_cases hdash : c = '-'
    · subst hdash
      -- a parenthesis that follows the dash is none of the characters that are asked for
      have hnext : (behindDash verbose (after ++ [')']) = some ']' ∨
          behindDash verbose (after ++ [')']) = some '-') ↔
          (behindDash verbose after = some ']' ∨ behindDash verbose after = some '-') := by
        rw [behindDash_append]
        cases behindDash verbose after with
        | none => simp
        | some d => rfl
      rw [List.cons_append, readRangeEnd_dash, readRangeEnd_dash]
      simp only [hnext]
      split
      · exact .kept _ (Nat.le_refl _)
      · exact (hlast after).mono (Nat.le_succ _)
    · have hplain (after : List Char) :
          readRangeEnd verbose first (c :: after) = some (first, c :: after) :=
        readRangeEnd_of_ne_dash verbose first fun _ h => hdash (List.cons.inj h).1
      rw [List.cons_append, hplain, hplain]
      exact .kept _ (Nat.le_refl _)

/-- A range is read locally where a character is left to read. -/
lemma closes_readRange (verbose : Bool) (c : Char) (cs : List Char) :
    Closes cs.length (readRange verbose (c :: cs)) (readRange verbose (c :: cs ++ [')'])) := by
  have hend (first : ClassSet) :
      Local fun cs => readRangeEnd verbose first (skipTrivia verbose cs) :=
    (local_readRangeEnd verbose first).skipTrivia verbose
  rw [readRange_eq, readRange_eq]
  exact (closes_readMember verbose c cs).bind (fun first rest hle => (hend first rest).mono hle)
    (fun _ => rfl) fun first => (hend first).nil

/-! ## Operations between two sides -/

/-- The operation between two sides of a class that a text begins with. -/
def operation? : List Char → Option (ClassOp × List Char)
  | '&' :: '&' :: rest => some (.intersection, rest)
  | '-' :: '-' :: rest => some (.difference, rest)
  | '~' :: '~' :: rest => some (.symmetricDifference, rest)
  | _ => none

lemma operation?_append (c : Char) (cs : List Char) :
    operation? (c :: (cs ++ [')'])) =
      (operation? (c :: cs)).map fun result => (result.1, result.2 ++ [')']) := by
  cases cs with
  | nil =>
    have hnone : operation? [c] = none := by
      unfold operation?
      split
      case h_4 => rfl
      all_goals
        rename_i heq
        cases heq
    have hnone' : operation? [c, ')'] = none := by
      unfold operation?
      split
      case h_4 => rfl
      all_goals
        rename_i heq
        cases heq
    rw [hnone]
    exact hnone'
  | cons d cs =>
    -- an operation is a sign that stands twice
    by_cases hsame : c = d
    · subst hsame
      by_cases hand : c = '&'
      · rw [hand]
        rfl
      · by_cases hdash : c = '-'
        · rw [hdash]
          rfl
        · by_cases htilde : c = '~'
          · rw [htilde]
            rfl
          · simp [operation?, hand, hdash, htilde]
    · have hnone (cs : List Char) : operation? (c :: d :: cs) = none := by
        unfold operation?
        split
        case h_4 => rfl
        all_goals
          rename_i heq
          cases heq
          exact absurd rfl hsame
      rw [List.cons_append, hnone, hnone]
      rfl

lemma length_operation?_le {op : ClassOp} {cs rest : List Char}
    (h : operation? cs = some (op, rest)) : rest.length < cs.length := by
  unfold operation? at h
  split at h
  case h_4 => cases h
  all_goals
    cases h
    rw [List.length_cons, List.length_cons]
    omega

/-! ## The whole class -/

/-- Reading a class goes on by its next character. -/
theorem readClassFrom_cons {c : Char} {rest : List Char} {fuel : Nat} {current : OpenBracket}
    {outer : List OpenBracket} (hskip : skipTrivia verbose cs = c :: rest) :
    readClassFrom verbose (fuel + 1) current outer cs =
      if c = '[' then
        match readAsciiClass rest with
        | some result => readClassFrom verbose fuel (current.push result.1) outer result.2
        | none => readClassFrom verbose fuel (openBracket verbose rest).1 (current :: outer)
          (openBracket verbose rest).2
      else if c = ']' then
        match outer with
        | [] => some (.bracket current.negated current.set, rest)
        | parent :: outer => readClassFrom verbose fuel
          (parent.push (.bracket current.negated current.set)) outer rest
      else
        match operation? (c :: rest) with
        | some result => readClassFrom verbose fuel (current.operate result.1) outer result.2
        | none => (readRange verbose (c :: rest)).bind fun result =>
          readClassFrom verbose fuel (current.push result.1) outer result.2 := by
  rw [readClassFrom, hskip]
  split
  case h_1 heq => cases heq
  case h_2 heq =>
    obtain ⟨rfl, rfl⟩ := List.cons.inj heq
    rw [if_pos rfl]
    cases readAsciiClass rest <;> rfl
  case h_3 heq =>
    obtain ⟨rfl, rfl⟩ := List.cons.inj heq
    have hopen : ¬ ']' = '[' := by decide
    exact ((if_neg hopen).trans (if_pos rfl)).symm
  case h_4 heq =>
    obtain ⟨rfl, rfl⟩ := List.cons.inj heq
    rfl
  case h_5 heq =>
    obtain ⟨rfl, rfl⟩ := List.cons.inj heq
    rfl
  case h_6 heq =>
    obtain ⟨rfl, rfl⟩ := List.cons.inj heq
    rfl
  case h_7 hopen hclose hand hdash htilde =>
    -- no operation begins here, for the cases before have taken all three
    have hnone : operation? (c :: rest) = none := by
      unfold operation?
      split
      case h_1 heq => exact absurd heq (hand _)
      case h_2 heq => exact absurd heq (hdash _)
      case h_3 heq => exact absurd heq (htilde _)
      case h_4 => rfl
    rw [if_neg fun h => hopen rest (by rw [h]), if_neg fun h => hclose rest (by rw [h]), hnone]
    rfl

lemma readClassFrom_nil (verbose : Bool) (fuel : Nat) (current : OpenBracket)
    (outer : List OpenBracket) : readClassFrom verbose fuel current outer [] = none := by
  cases fuel with
  | zero => rfl
  | succ fuel => cases verbose <;> rfl

/-- No class ends with the parenthesis. -/
theorem readClassFrom_parenthesis {fuel : Nat} {current : OpenBracket} {outer : List OpenBracket}
    (hskip : skipTrivia verbose cs = [')']) :
    readClassFrom verbose fuel current outer cs = none := by
  cases fuel with
  | zero => rfl
  | succ fuel =>
    have hrange : readRange verbose [')'] = some (.literal ⟨')', false⟩, []) := by
      cases verbose <;> rfl
    rw [readClassFrom_cons hskip, if_neg (by decide), if_neg (by decide)]
    show ((readRange verbose [')']).bind fun result =>
      readClassFrom verbose fuel (current.push result.1) outer result.2) = none
    rw [hrange]
    exact readClassFrom_nil _ _ _ _

/-- The members of a class are read locally, whatever fuel there is beyond the length of the text.
-/
lemma closes_readClassFrom {fuel fuel' : Nat} (current : OpenBracket) (outer : List OpenBracket)
    (hfuel : cs.length < fuel) (hfuel' : cs.length + 1 < fuel') :
    Closes cs.length (readClassFrom verbose fuel current outer cs)
      (readClassFrom verbose fuel' current outer (cs ++ [')'])) := by
  -- on the fuel, which exceeds the characters that are left in either text
  induction fuel generalizing fuel' current outer cs with
  | zero => exact absurd hfuel (Nat.not_lt_zero _)
  | succ fuel ih =>
    obtain ⟨fuel', rfl⟩ : ∃ k, fuel' = k + 1 := ⟨fuel' - 1, by omega⟩
    have hle := length_skipTrivia_le verbose cs
    rcases skipTrivia_append verbose cs with hskip' | ⟨hskip, hskip'⟩
    · cases hskip : skipTrivia verbose cs with
      | nil =>
        rw [hskip, List.nil_append] at hskip'
        rw [readClassFrom_parenthesis hskip', readClassFrom, hskip]
        exact .failed
      | cons c rest =>
        rw [hskip, List.cons_append] at hskip'
        rw [hskip, List.length_cons] at hle
        rw [readClassFrom_cons hskip, readClassFrom_cons hskip']
        -- what is left behind the part that is read next is shorter
        have hnext {rest' : List Char} (current : OpenBracket) (outer : List OpenBracket)
            (hshort : rest'.length ≤ rest.length) :
            Closes cs.length (readClassFrom verbose fuel current outer rest')
              (readClassFrom verbose fuel' current outer (rest' ++ [')'])) :=
          (ih current outer (by omega) (by omega)).mono (by omega)
        split
        · -- a bracket opens, or a name between brackets is read
          rw [readAsciiClass_append]
          cases hname : readAsciiClass rest with
          | some result => exact hnext _ _ (length_readAsciiClass_le hname)
          | none =>
            show Closes cs.length
              ((some (openBracket verbose rest)).bind fun result =>
                readClassFrom verbose fuel result.1 (current :: outer) result.2)
              ((some (openBracket verbose (rest ++ [')']))).bind fun result =>
                readClassFrom verbose fuel' result.1 (current :: outer) result.2)
            exact (local_openBracket verbose rest).bind_of_nil_eq_none
              (fun inner rest' hshort => hnext inner (current :: outer) hshort)
              (fun inner => readClassFrom_nil _ _ _ _) fun inner => readClassFrom_nil _ _ _ _
        · split
          · cases outer with
            | nil => exact .kept _ (by omega)
            | cons parent outer => exact hnext _ _ (Nat.le_refl _)
          · rw [operation?_append]
            cases hop : operation? (c :: rest) with
            | some result =>
              obtain ⟨op, rest'⟩ := result
              exact hnext _ _ (Nat.le_of_lt_succ (length_operation?_le hop))
            | none =>
              exact (closes_readRange verbose c rest).bind_of_nil_eq_none
                (fun item rest' hshort => hnext (current.push item) outer hshort)
                (fun item => readClassFrom_nil _ _ _ _) fun item => readClassFrom_nil _ _ _ _
    · rw [readClassFrom, hskip, readClassFrom, hskip']
      exact .failed

/-- A class is read locally. -/
theorem local_readClass (verbose : Bool) : Local (readClass verbose) := by
  intro cs
  show Closes cs.length
    ((some (openBracket verbose cs)).bind fun result =>
      readClassFrom verbose (result.2.length + 1) result.1 [] result.2)
    ((some (openBracket verbose (cs ++ [')']))).bind fun result =>
      readClassFrom verbose (result.2.length + 1) result.1 [] result.2)
  refine (local_openBracket verbose cs).bind_of_nil_eq_none (fun bracket rest hle => ?_)
    (fun bracket => readClassFrom_nil _ _ _ _) fun bracket => readClassFrom_nil _ _ _ _
  refine (closes_readClassFrom bracket [] (Nat.lt_succ_self _) ?_).mono hle
  rw [List.length_append]
  exact Nat.lt_succ_self _

end Highlight.Regex
