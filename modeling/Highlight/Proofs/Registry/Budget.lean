import Highlight.Proofs.Registry.Calls

/-!
# Registries that differ in their budgets

The number of lines that a highlighter colors in one pass goes into every highlighter that a
registry makes and into nothing else. `SameLanguages` relates two registries that are filled alike
under two budgets, and `Alike` carries that through all that can fail on the way.
-/

namespace Highlight

/-- Whether two computations fail with the same fault or give related answers. -/
def Alike {ε α β : Type} (R : α → β → Prop) : Except ε α → Except ε β → Prop
  | .ok a, .ok b => R a b
  | .error fault, .error fault' => fault = fault'
  | _, _ => False

namespace Alike

variable {ε α β γ δ : Type} {R : α → β → Prop} {S : γ → δ → Prop}

/-- Two computations that are alike fail with the same fault or both succeed. -/
theorem cases {x : Except ε α} {y : Except ε β} (h : Alike R x y) :
    (∃ fault, x = .error fault ∧ y = .error fault) ∨ ∃ a b, x = .ok a ∧ y = .ok b ∧ R a b := by
  cases x with
  | ok a =>
    cases y with
    | ok b => exact .inr ⟨a, b, rfl, rfl, h⟩
    | error fault => exact absurd h id
  | error fault =>
    cases y with
    | ok b => exact absurd h id
    | error fault' => exact .inl ⟨fault, rfl, congrArg Except.error (Eq.symm h)⟩

/-- Computations that are alike, followed by such on related answers. -/
theorem bind {x : Except ε α} {y : Except ε β} (h : Alike R x y) {f : α → Except ε γ}
    {g : β → Except ε δ} (hnext : ∀ a b, R a b → Alike S (f a) (g b)) :
    Alike S (x >>= f) (y >>= g) := by
  rcases h.cases with ⟨fault, rfl, rfl⟩ | ⟨a, b, rfl, rfl, hab⟩
  · exact rfl
  · exact hnext a b hab

/-- Steps that keep answers related do so over a list. -/
theorem foldlM {f : α → γ → Except ε α} {g : β → γ → Except ε β}
    (hstep : ∀ a b item, R a b → Alike R (f a item) (g b item)) (items : List γ) {a : α} {b : β}
    (h : R a b) : Alike R (items.foldlM f a) (items.foldlM g b) := by
  induction items generalizing a b with
  | nil => exact h
  | cons item items ih => exact (hstep a b item h).bind fun a b hab => ih hab

end Alike

namespace Registry

/-- Whether the second of two registries knows the same languages under a budget of its own. -/
structure SameLanguages (budget : Nat) (a b : Registry) : Prop where
  maxLinesPerFrame_eq : b.maxLinesPerFrame = budget
  languageOf_eq : b.languageOf = a.languageOf
  get?_eq : ∀ name, b.get? name = (a.get? name).map (·.withMaxLines budget)

namespace SameLanguages

variable {budget : Nat} {a b : Registry}

/-- A highlighter is added to both registries with the budget of each. -/
theorem addHighlighter (h : SameLanguages budget a b) (name : String) (extensions : List String)
    (highlighter : Highlighter) :
    SameLanguages budget (a.addHighlighter name extensions highlighter)
      (b.addHighlighter name extensions (highlighter.withMaxLines budget)) := by
  constructor
  case maxLinesPerFrame_eq => exact h.maxLinesPerFrame_eq
  case languageOf_eq =>
    show extensions.foldl _ b.languageOf = extensions.foldl _ a.languageOf
    rw [h.languageOf_eq]
  case get?_eq =>
    intro other
    rw [get?_addHighlighter, get?_addHighlighter]
    by_cases hname : name = other
    · rw [if_pos hname, if_pos hname, Option.map_some]
    · rw [if_neg hname, if_neg hname, h.get?_eq other]

/-- A table is accepted under both budgets or fails under both in the same way. -/
theorem addLanguage (h : SameLanguages budget a b) (language : Language) :
    Alike (SameLanguages budget) (a.addLanguage language) (b.addLanguage language) := by
  unfold Registry.addLanguage
  cases PatternHighlighter.ofLanguage language with
  | error fault => exact rfl
  | ok patterns =>
    have hadded := h.addHighlighter language.name language.extensions
      (patterns.highlighter.withMaxLines a.maxLinesPerFrame)
    -- the second budget takes the place of the first
    rw [← h.maxLinesPerFrame_eq] at hadded ⊢
    exact hadded

/-- A language that is built in is added to both registries, or refused by both. -/
theorem addBuiltin (h : SameLanguages budget a b) (language : Language) :
    Alike (SameLanguages budget) (a.addBuiltin language) (b.addBuiltin language) := by
  unfold Registry.addBuiltin
  by_cases hname : language.name = Builtin.csharp.name
  · have hadded := h.addHighlighter language.name language.extensions
      ((CSharp.highlighter language).withMaxLines a.maxLinesPerFrame)
    rw [if_pos hname, if_pos hname]
    rw [← h.maxLinesPerFrame_eq] at hadded ⊢
    exact hadded
  · rw [if_neg hname, if_neg hname]
    exact h.addLanguage language

/-- A language that is there under one budget is there under the other, with its highlighter. -/
theorem require (h : SameLanguages budget a b) (name : String) :
    Alike (fun highlighter other => other = highlighter.withMaxLines budget)
      (a.require name) (b.require name) := by
  unfold Registry.require
  rw [h.get?_eq]
  cases a.get? name with
  | none => exact rfl
  | some highlighter => exact rfl

end SameLanguages

/-- The registries of the built-in languages. -/
theorem alike_withMaxLines (budget budget' : Nat) :
    Alike (SameLanguages budget') (withMaxLines budget) (withMaxLines budget') := by
  have hempty : SameLanguages budget' { maxLinesPerFrame := budget }
      { maxLinesPerFrame := budget' } := ⟨rfl, rfl, fun _ => rfl⟩
  exact Alike.foldlM (fun a b language h => h.addBuiltin language) Builtin.all hempty

end Registry

end Highlight
