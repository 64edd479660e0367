import Highlight.Builtin
import Highlight.PatternHighlighter
import Highlight.Proofs.Regex.Size

/-!
# Tables without faults

A table is accepted if its check passes and each of its rules compiles (`ofLanguage_eq_ok_iff`).
That is so if it has a name, its comment marks belong together and each of its patterns can be read,
means something and keeps to the bound of `Expr.cost`. That can be told of a closed table by
evaluation, so it is told here of the built-in ones (`Builtin.isSound_of_mem_all`).
-/

namespace Highlight

namespace Rule

/-- Whether the pattern of a rule is a text that can be read, has a meaning and is not too large. -/
def isSound (rule : Rule) (caseSensitive : Bool) : Bool :=
  rule.pattern ≠ "" &&
    (Regex.Expr.read? rule.anchoredPattern).any fun e =>
      (e.meaning? { ignoreCase := !caseSensitive }).isSome && e.cost < Regex.Program.maxSize

/-- A sound rule compiles. -/
theorem exists_compile {rule : Rule} {caseSensitive : Bool} (h : rule.isSound caseSensitive = true)
    (language : String) : ∃ compiled, rule.compile language caseSensitive = .ok compiled := by
  obtain ⟨hpattern, hread⟩ := Bool.and_eq_true_iff.1 h
  obtain ⟨e, he, hsound⟩ := (Option.any_eq_true _ _).1 hread
  obtain ⟨hmeaning, hcost⟩ := Bool.and_eq_true_iff.1 hsound
  obtain ⟨program, hprogram⟩ :=
    Regex.exists_ofPattern? he hmeaning (of_decide_eq_true hcost)
  refine ⟨⟨program, rule.category⟩, ?_⟩
  rw [compile, if_neg (of_decide_eq_true hpattern), hprogram]
  rfl

/-- A rule compiles exactly if its pattern does behind the anchor. -/
theorem compile_eq_ok_iff {rule : Rule} {language : String} {caseSensitive : Bool}
    {compiled : CompiledRule} (hpattern : rule.pattern ≠ "") :
    rule.compile language caseSensitive = .ok compiled ↔
      ∃ anchored, Regex.Program.ofPattern? rule.anchoredPattern (!caseSensitive) = some anchored ∧
        compiled = { program := anchored, category := rule.category } := by
  rw [compile, if_neg hpattern]
  cases Regex.Program.ofPattern? rule.anchoredPattern (!caseSensitive) with
  | none => simp [throw, throwThe, MonadExceptOf.throw]
  | some anchored => simp [pure, Except.pure, eq_comm]

end Rule

namespace Language

/-- Whether the check of a table passes and each of its rules is sound. -/
def isSound (language : Language) : Bool :=
  language.validate.toBool && language.rules.all (·.isSound language.caseSensitive)

end Language

/-- A computation over a list succeeds if it does on the first item and on those behind it. -/
theorem mapM_cons_eq_ok_iff {α β ε : Type} {f : α → Except ε β} {x : α} {xs : List α}
    {ys : List β} :
    (x :: xs).mapM f = .ok ys ↔ ∃ y rest, f x = .ok y ∧ xs.mapM f = .ok rest ∧ ys = y :: rest := by
  rw [List.mapM_cons]
  cases hx : f x with
  | error e =>
    constructor
    · intro h
      cases h
    · rintro ⟨y, rest, hy, -⟩
      cases hy
  | ok y =>
    cases hxs : xs.mapM f with
    | error e =>
      constructor
      · intro h
        cases h
      · rintro ⟨y, rest, -, hrest, -⟩
        cases hrest
    | ok rest =>
      constructor
      · intro h
        cases h
        exact ⟨y, rest, rfl, rfl, rfl⟩
      · rintro ⟨y', rest', hy, hrest, rfl⟩
        cases hy
        cases hrest
        rfl

/-- What succeeds for each item of a list and for one more succeeds for the longer list. -/
theorem mapM_insert {α β ε : Type} {f : α → Except ε β} {x : α} {y : β} {xs : List α} {ys : List β}
    (hxs : xs.mapM f = .ok ys) (hx : f x = .ok y) (k : Nat) :
    (xs.take k ++ x :: xs.drop k).mapM f = .ok (ys.take k ++ y :: ys.drop k) := by
  induction xs generalizing ys k with
  | nil =>
    obtain rfl : ys = [] := by
      cases hxs
      rfl
    rw [List.take_nil, List.drop_nil, List.take_nil, List.drop_nil]
    exact mapM_cons_eq_ok_iff.2 ⟨y, [], hx, rfl, rfl⟩
  | cons z xs ih =>
    cases k with
    | zero => exact mapM_cons_eq_ok_iff.2 ⟨y, ys, hx, hxs, rfl⟩
    | succ k =>
      obtain ⟨w, rest, hz, hrest, rfl⟩ := mapM_cons_eq_ok_iff.1 hxs
      exact mapM_cons_eq_ok_iff.2 ⟨w, _, hz, ih hrest k, rfl⟩

/-- A computation that succeeds on every item succeeds on the list. -/
theorem exists_mapM {α β ε : Type} {f : α → Except ε β} (xs : List α)
    (h : ∀ x ∈ xs, ∃ y, f x = .ok y) : ∃ ys, xs.mapM f = .ok ys := by
  induction xs with
  | nil => exact ⟨[], rfl⟩
  | cons x xs ih =>
    obtain ⟨y, hy⟩ := h x List.mem_cons_self
    obtain ⟨ys, hys⟩ := ih fun x hx => h x (List.mem_cons_of_mem _ hx)
    exact ⟨y :: ys, mapM_cons_eq_ok_iff.2 ⟨y, ys, hy, hys, rfl⟩⟩

/-- What a traversal gives, it gives for some item. -/
theorem exists_of_mem_mapM {α β ε : Type} {f : α → Except ε β} {xs : List α} {ys : List β}
    (h : xs.mapM f = .ok ys) {y : β} (hy : y ∈ ys) : ∃ x ∈ xs, f x = .ok y := by
  induction xs generalizing ys with
  | nil =>
    cases h
    cases hy
  | cons x xs ih =>
    obtain ⟨z, rest, hz, hrest, rfl⟩ := mapM_cons_eq_ok_iff.1 h
    rcases List.mem_cons.1 hy with rfl | hmem
    · exact ⟨x, List.mem_cons_self, hz⟩
    · obtain ⟨w, hw, hfw⟩ := ih hrest hmem
      exact ⟨w, List.mem_cons_of_mem x hw, hfw⟩

namespace PatternHighlighter

/-- A table is accepted if its check passes and its rules compile. -/
theorem ofLanguage_eq_ok_iff (language : Language) (h : PatternHighlighter) :
    ofLanguage language = .ok h ↔ language.validate = .ok () ∧ ∃ rules,
      language.rules.mapM (fun rule => rule.compile language.name language.caseSensitive) =
        .ok rules ∧ h = ⟨language, rules, Words.ofLanguage language declaration⟩ := by
  unfold ofLanguage
  cases hvalid : language.validate with
  | error fault =>
    constructor
    · intro h
      cases h
    · intro h
      cases h.1
  | ok =>
    cases hrules : language.rules.mapM
        fun rule => rule.compile language.name language.caseSensitive with
    | error fault =>
      constructor
      · intro h
        cases h
      · intro h
        obtain ⟨-, rules, hok, -⟩ := h
        cases hok
    | ok rules =>
      constructor
      · intro h
        cases h
        exact ⟨rfl, rules, rfl, rfl⟩
      · intro h
        obtain ⟨-, rules', hok, rfl⟩ := h
        cases hok
        rfl

/-- A sound table has a highlighter. -/
theorem exists_ofLanguage {language : Language} (h : language.isSound = true) :
    ∃ patterns, ofLanguage language = .ok patterns := by
  obtain ⟨hvalid, hrules⟩ := Bool.and_eq_true_iff.1 h
  obtain ⟨rules, hcompiled⟩ := exists_mapM language.rules fun rule hmem =>
    Rule.exists_compile (List.all_eq_true.1 hrules rule hmem) language.name
  cases hcheck : language.validate with
  | error e =>
    rw [hcheck] at hvalid
    cases hvalid
  | ok => exact ⟨_, (ofLanguage_eq_ok_iff language _).2 ⟨hcheck, rules, hcompiled, rfl⟩⟩

end PatternHighlighter

namespace Builtin

/-- Every language that is built in is sound. -/
theorem isSound_of_mem_all : ∀ language ∈ all, language.isSound = true := by
  decide +kernel

end Builtin

end Highlight
