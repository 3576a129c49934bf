import Signpost.Proofs.Template.Parts
import Signpost.Proofs.Template.Rule

namespace Signpost.Template

-- What a placeholder takes from a path.
structure Fill where
  slash : Bool
  value : List Char
  stray : Option Char
deriving DecidableEq, Repr

def slashText (slash : Bool) : List Char := if slash then ['/'] else []

def Fill.text (fill : Fill) : List Char :=
  slashText fill.slash ++ fill.value ++ fill.stray.toList

variable (rules : String → Rule)

-- `fills` has an entry for each placeholder, and none for one that is left out. `close` tells
-- whether a slash stands at the end.
inductive Splits : List Part → List (Option Fill) → Bool → List Char → Prop
  | done (close : Bool) : Splits [] [] close (slashText close)
  | literal {parts : List Part} {fills : List (Option Fill)} {close : Bool} {path : List Char}
      (c : Char) (hrest : Splits parts fills close path) :
      Splits (.literal c :: parts) fills close (c :: path)
  | filled {parts : List Part} {fills : List (Option Fill)} {close : Bool} {path : List Char}
      (slashed : Bool) (parameter : Parameter) (fill : Fill)
      (hvalue : (rules parameter.name).accepts fill.value = true)
      (hstray : fill.stray ≠ some '/') (hrest : Splits parts fills close path) :
      Splits (.slot slashed parameter :: parts) (some fill :: fills) close (fill.text ++ path)
  | omitted {parts : List Part} {fills : List (Option Fill)} {close : Bool} {path : List Char}
      (slashed : Bool) (parameter : Parameter) (hoptional : parameter.required = false)
      (hrest : Splits parts fills close path) :
      Splits (.slot slashed parameter :: parts) (none :: fills) close path

-- One placeholder filled in two ways: a slash is taken rather than not, then the value counts,
-- and a stray character is taken rather than not.
def Fill.Precedes (rule : Rule) (f g : Fill) : Prop :=
  (f.slash = true ∧ g.slash = false) ∨
    (f.slash = g.slash ∧ (rule.Prefers f.value g.value ∨
      (f.value = g.value ∧ f.stray.isSome = true ∧ g.stray = none)))

-- Two splits are compared at the first placeholder where they differ. There a placeholder is
-- filled rather than left out.
inductive Precedes : List Part → List (Option Fill) → List (Option Fill) → Prop
  | literal {parts : List Part} {fills fills' : List (Option Fill)} (c : Char)
      (hrest : Precedes parts fills fills') : Precedes (.literal c :: parts) fills fills'
  | present {parts : List Part} {fills fills' : List (Option Fill)} (slashed : Bool)
      (parameter : Parameter) (fill : Fill) :
      Precedes (.slot slashed parameter :: parts) (some fill :: fills) (none :: fills')
  | fill {parts : List Part} {fills fills' : List (Option Fill)} {f g : Fill} (slashed : Bool)
      (parameter : Parameter) (h : f.Precedes (rules parameter.name) g) :
      Precedes (.slot slashed parameter :: parts) (some f :: fills) (some g :: fills')
  | later {parts : List Part} {fills fills' : List (Option Fill)} (slashed : Bool)
      (parameter : Parameter) (fill : Option Fill) (hrest : Precedes parts fills fills') :
      Precedes (.slot slashed parameter :: parts) (fill :: fills) (fill :: fills')

-- The split of a path that precedes all its other splits.
def First (parts : List Part) (fills : List (Option Fill)) (path : List Char) : Prop :=
  (∃ close, Splits rules parts fills close path) ∧
    ∀ other close, Splits rules parts other close path →
      other = fills ∨ Precedes rules parts fills other

-- What the placeholders of a split are bound to.
def bound : List Part → List (Option Fill) → List (String × String)
  | .literal _ :: parts, fills => bound parts fills
  | .slot _ parameter :: parts, some fill :: fills =>
      (parameter.name, String.ofList fill.value) :: bound parts fills
  | .slot _ _ :: parts, none :: fills => bound parts fills
  | _, _ => []

variable {rules} {parts : List Part} {fills fills' : List (Option Fill)} {path : List Char}

theorem Fill.precedes_asymm {rule : Rule} {f g : Fill} (h : f.Precedes rule g) :
    ¬g.Precedes rule f := by
  intro hback
  rcases h with ⟨hf, hg⟩ | ⟨hslash, h⟩
  · rcases hback with ⟨hg', -⟩ | ⟨hslash, -⟩
    · simp [hg] at hg'
    · simp [hf, hg] at hslash
  rcases hback with ⟨hg, hf⟩ | ⟨-, hback⟩
  · simp [hf, hg] at hslash
  rcases h with hvalue | ⟨hvalue, hsome, hnone⟩
  · rcases hback with hvalue' | ⟨hvalue', -, -⟩
    · exact Rule.prefers_asymm hvalue hvalue'
    · rw [hvalue'] at hvalue
      exact Rule.prefers_asymm hvalue hvalue
  · rcases hback with hvalue' | ⟨-, hsome', -⟩
    · rw [hvalue] at hvalue'
      exact Rule.prefers_asymm hvalue' hvalue'
    · simp [hnone] at hsome'

theorem precedes_asymm (h : Precedes rules parts fills fills') :
    ¬Precedes rules parts fills' fills := by
  induction h with
  | literal c _ ih =>
      rintro (⟨_, hback⟩ | _)
      exact ih hback
  | present slashed parameter fill =>
      intro hback
      cases hback
  | fill slashed parameter h =>
      intro hback
      cases hback with
      | fill _ _ hback => exact Fill.precedes_asymm h hback
      | later => exact Fill.precedes_asymm h h
  | later slashed parameter fill _ ih =>
      intro hback
      cases hback with
      | fill _ _ hback => exact Fill.precedes_asymm hback hback
      | later _ _ _ hback => exact ih hback

-- A path has no two splits that precede all others.
theorem First.unique (h : First rules parts fills path) (h' : First rules parts fills' path) :
    fills = fills' := by
  obtain ⟨⟨close, hsplit⟩, hfirst⟩ := h
  obtain ⟨⟨close', hsplit'⟩, hfirst'⟩ := h'
  rcases hfirst fills' close' hsplit' with hsame | hbefore
  · exact hsame.symm
  · rcases hfirst' fills close hsplit with hsame | hbefore'
    · exact hsame
    · exact absurd hbefore' (precedes_asymm hbefore)

end Signpost.Template
