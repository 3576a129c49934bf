import Signpost.Proofs.Preference
import Signpost.Proofs.Regex.Simple
import Signpost.Route

namespace Signpost.Template

open Signpost.Regex (fits runs someRuns)

-- A placeholder without a constraint, or with one of those that a route can state by name.
inductive Rule
  | plain
  | number
  | alpha
  | alphaNumeric
  | uuid
  | among (choices : List String)
deriving DecidableEq, Repr

namespace Rule

-- The text of the constraint, if there is one.
def constraint? : Rule → Option String
  | plain => none
  | number => some Route.numberPattern
  | alpha => some Route.alphaPattern
  | alphaNumeric => some Route.alphaNumericPattern
  | uuid => some Route.uuidPattern
  | among choices => some (Route.choicePattern choices)

-- The text that a rule is compiled from.
def text (rule : Rule) : String := rule.constraint?.getD "[\\w-]+"

-- A choice is among one or more texts, and none of them is empty.
def Stated : Rule → Prop
  | among choices => choices ≠ [] ∧ "" ∉ choices
  | _ => True

def plainChar (c : Char) : Bool := Text.isWord c || c == '-'

def hexChar (c : Char) : Bool :=
  c.isDigit || ('a' ≤ c && c ≤ 'f') || ('A' ≤ c && c ≤ 'F')

-- The classes of the characters of a UUID, in five blocks between hyphens.
def uuidShape : List (Char → Bool) :=
  [8, 4, 4, 4, 12].map (List.replicate · hexChar) |>.intersperse [(· == '-')] |>.flatten

def someOf (p : Char → Bool) (value : List Char) : Bool := !value.isEmpty && value.all p

-- Whether a value is in the language of a rule.
def accepts : Rule → List Char → Bool
  | plain, value => someOf plainChar value
  | number, value => someOf Char.isDigit value
  | alpha, value => someOf Char.isAlpha value
  | alphaNumeric, value => someOf Char.isAlphanum value
  | uuid, value => fits uuidShape value
  | among choices, value => (choices.map String.toList).contains value

-- Of two values at one place a rule prefers the longer one. A choice prefers what was listed
-- earlier.
def Prefers : Rule → List Char → List Char → Prop
  | among choices, v, w =>
      (choices.map String.toList).idxOf v < (choices.map String.toList).idxOf w
  | _, v, w => w.length < v.length

-- The values that stand at the front of a path, in the order in which they are tried.
def prefixes : Rule → List Char → List (List Char)
  | plain, path => someRuns plainChar path
  | number, path => someRuns Char.isDigit path
  | alpha, path => someRuns Char.isAlpha path
  | alphaNumeric, path => someRuns Char.isAlphanum path
  | uuid, path =>
      if fits uuidShape (path.take uuidShape.length) then [path.take uuidShape.length] else []
  | among choices, path => (choices.map String.toList).filter (·.isPrefixOf path)

variable {rule : Rule} {path value : List Char}

theorem someOf_iff {p : Char → Bool} :
    someOf p value = true ↔ value ≠ [] ∧ ∀ c ∈ value, p c = true := by
  simp [someOf]

theorem mem_someRuns_iff {p : Char → Bool} :
    value ∈ someRuns p path ↔ value <+: path ∧ someOf p value = true := by
  rw [Regex.mem_someRuns, someOf_iff]
  exact and_left_comm

-- What is tried at a place is what stands there and is in the language.
theorem mem_prefixes : value ∈ rule.prefixes path ↔ value <+: path ∧ rule.accepts value = true := by
  cases rule with
  | plain => exact mem_someRuns_iff
  | number => exact mem_someRuns_iff
  | alpha => exact mem_someRuns_iff
  | alphaNumeric => exact mem_someRuns_iff
  | uuid =>
      simp only [prefixes, accepts]
      constructor
      · intro h
        split at h
        next hfits =>
          rw [List.mem_singleton] at h
          exact ⟨h ▸ List.take_prefix _ _, h ▸ hfits⟩
        · simp at h
      · rintro ⟨hfront, hfits⟩
        have htake : path.take uuidShape.length = value := by
          rw [← Regex.length_of_fits hfits]
          exact (List.prefix_iff_eq_take.mp hfront).symm
        rw [htake, if_pos hfits, List.mem_singleton]
  | among choices =>
      simp only [prefixes, accepts, List.mem_filter, List.isPrefixOf_iff_prefix,
        List.contains_iff_mem]
      exact and_comm

-- The rules that say what characters a value has. A choice may have any.
def Spelled : Rule → Prop
  | among _ => False
  | _ => True

theorem Spelled.stated (h : rule.Spelled) : rule.Stated := by
  cases rule with
  | among choices => exact h.elim
  | _ => trivial

theorem not_slash {p : Char → Bool} (hp : p '/' = false) (h : someOf p value = true) :
    value ≠ [] ∧ '/' ∉ value := by
  obtain ⟨hne, hall⟩ := someOf_iff.mp h
  refine ⟨hne, fun hin => ?_⟩
  have hslash := hall '/' hin
  simp [hp] at hslash

theorem uuidShape_slash : ∀ p ∈ uuidShape, p '/' = false := by
  have hall : uuidShape.all (fun p => !p '/') = true := by decide +kernel
  simpa using hall

-- A value is not empty and lies within one segment of a path.
theorem whole_of_accepts (hspelled : rule.Spelled) (h : rule.accepts value = true) :
    value ≠ [] ∧ '/' ∉ value := by
  cases rule with
  | plain => exact not_slash (by decide +kernel) h
  | number => exact not_slash rfl h
  | alpha => exact not_slash rfl h
  | alphaNumeric => exact not_slash rfl h
  | among choices => exact hspelled.elim
  | uuid =>
      constructor
      · rintro rfl
        exact absurd (Regex.length_of_fits h) (by decide)
      · intro hin
        obtain ⟨p, hp, hslash⟩ := Regex.exists_class_of_fits h '/' hin
        rw [uuidShape_slash p hp] at hslash
        exact absurd hslash (by decide)

-- A value that ends where the segment ends is tried first.
theorem head?_prefixes {rest : List Char} (hspelled : rule.Spelled)
    (h : rule.accepts value = true) (hrest : ∀ c ∈ rest.head?, c = '/') :
    (rule.prefixes (value ++ rest)).head? = some value := by
  have hruns {p : Char → Bool} (hp : p '/' = false) (h : someOf p value = true) :
      (someRuns p (value ++ rest)).head? = some value := by
    obtain ⟨hne, hall⟩ := someOf_iff.mp h
    exact Regex.head?_someRuns hne hall fun c hc => hrest c hc ▸ hp
  cases rule with
  | plain => exact hruns (by decide +kernel) h
  | number => exact hruns rfl h
  | alpha => exact hruns rfl h
  | alphaNumeric => exact hruns rfl h
  | among choices => exact hspelled.elim
  | uuid =>
      have hfits : fits uuidShape value = true := h
      have htake : (value ++ rest).take uuidShape.length = value :=
        List.take_left' (Regex.length_of_fits hfits)
      rw [prefixes, htake, if_pos hfits, List.head?_cons]

theorem prefers_asymm {v w : List Char} (h : rule.Prefers v w) : ¬rule.Prefers w v := by
  cases rule <;> exact Nat.lt_asymm h

theorem idxOf_lt_of_before {α : Type} [BEq α] [LawfulBEq α] {before after : List α} {a b : α}
    (hb : b ∉ before) (hne : b ≠ a) :
    (before ++ a :: after).idxOf a < (before ++ a :: after).idxOf b := by
  have ha : (before ++ a :: after).idxOf a ≤ before.length := by
    rw [List.idxOf_append]
    split
    · exact Nat.le_of_lt (List.idxOf_lt_length_iff.mpr ‹_›)
    · simp
  have hlt : before.length < (before ++ a :: after).idxOf b := by
    rw [List.idxOf_append, if_neg hb, List.idxOf_cons]
    have : (a == b) = false := by simpa using Ne.symm hne
    simp [this]
  omega

-- Values are tried in the order in which they are preferred.
theorem ranked_prefixes (rule : Rule) (path : List Char) :
    (rule.prefixes path).Ranked rule.Prefers := by
  cases rule with
  | plain => exact (Regex.pairwise_someRuns _ path).ranked
  | number => exact (Regex.pairwise_someRuns _ path).ranked
  | alpha => exact (Regex.pairwise_someRuns _ path).ranked
  | alphaNumeric => exact (Regex.pairwise_someRuns _ path).ranked
  | uuid =>
      refine List.Pairwise.ranked ?_
      rw [prefixes]
      split <;> simp
  | among choices =>
      intro before a after h b hb
      obtain ⟨listed, rest, hlisted, rfl, hrest⟩ := List.filter_eq_append_iff.mp h
      obtain ⟨skipped, rest, rfl, hskipped, -, rfl⟩ := List.filter_eq_cons_iff.mp hrest
      have hfront : b.isPrefixOf path = true := (List.mem_filter.mp hb).2
      by_cases hbefore : b ∈ listed
      · exact .inl (List.mem_filter.mpr ⟨hbefore, hfront⟩)
      by_cases hba : b = a
      · exact .inr (.inl hba)
      -- what was skipped does not stand at the front of the path, so `b` was not listed there
      have hout : b ∉ listed ++ skipped := by
        rw [List.mem_append]
        rintro (hin | hin)
        · exact hbefore hin
        · exact hskipped b hin hfront
      have hlt : (listed ++ skipped ++ a :: rest).idxOf a <
          (listed ++ skipped ++ a :: rest).idxOf b := idxOf_lt_of_before hout hba
      refine .inr (.inr ?_)
      simp only [Prefers, hlisted]
      simpa using hlt

end Rule

end Signpost.Template
