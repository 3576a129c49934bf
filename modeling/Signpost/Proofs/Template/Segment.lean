import Signpost.Proofs.Template.Fragment
import Signpost.Proofs.Template.Split

namespace Signpost.Template

inductive Segment
  | literal (text : List Char)
  | slot (parameter : Parameter)
deriving DecidableEq, Repr

-- A segment as it is written with the usual signs.
def Segment.chars : Segment → List Char
  | .literal text => text
  | .slot parameter =>
      '\x7b' :: (parameter.name.toList ++ if parameter.required then [] else ['?']) ++ ['\x7d']

def Segment.Plain : Segment → Prop
  | .literal text => '/' ∉ text ∧ '\x7b' ∉ text
  | .slot parameter => Text.isIdentifier parameter.name.toList

instance : DecidablePred Segment.Plain
  | .literal text => inferInstanceAs (Decidable ('/' ∉ text ∧ '\x7b' ∉ text))
  | .slot parameter => inferInstanceAs (Decidable (Text.isIdentifier parameter.name.toList = true))

-- `template` is made of `segments`.
structure Segmented (template : String) (segments : List Segment) : Prop where
  text : template.toList = ['/'].intercalate (segments.map Segment.chars)
  plain : ∀ segment ∈ segments, segment.Plain

-- The parts of a segment, which may have a slash before it.
def Segment.parts (slashed : Bool) : Segment → List Part
  | .literal text => (slashText slashed ++ text).map .literal
  | .slot parameter => [.slot slashed parameter]

def layout (slashed : Bool) : List Segment → List Part
  | [] => []
  | segment :: segments => segment.parts slashed ++ layout true segments

variable {config : Config} {rules : String → Rule} {parts : List Part} {slashed close : Bool}
  {segment : Segment} {segments : List Segment} {fills : List (Option Fill)}
  {path text rest : List Char}

theorem attach_of_ne {c : Char} (hc : c ≠ '/') (parts : List Part) :
    attach c parts = .literal c :: parts := by
  unfold attach
  split
  · rw [if_neg hc]
  · rfl

theorem parts?_literals (hslash : '/' ∉ text) (hopen : config.paramOpen ∉ text) :
    parts? config none (text ++ rest) =
      (parts? config none rest).map (text.map .literal ++ ·) := by
  induction text with
  | nil => simp
  | cons c text ih =>
      rw [List.mem_cons, not_or] at hslash hopen
      rw [List.cons_append, parts?, if_neg (Ne.symm hopen.1), ih hslash.2 hopen.2, Option.map_map]
      congr 1
      funext parts
      exact attach_of_ne (Ne.symm hslash.1) _

theorem parameterOf_body {parameter : Parameter}
    (hname : Text.isIdentifier parameter.name.toList) :
    parameterOf default (parameter.name.toList ++ if parameter.required then [] else ['?']) =
      parameter := by
  obtain ⟨name, required⟩ := parameter
  have hmark : '?' ∉ name.toList := not_mem_identifier hname (by decide +kernel) (by decide +kernel)
  unfold parameterOf
  cases required with
  | true =>
      have hlast : name.toList.getLast? ≠ some '?' := fun h => hmark (List.mem_of_getLast? h)
      simp only [if_true, List.append_nil]
      exact (if_neg hlast).trans (by rw [String.ofList_toList])
  | false =>
      simp only [Bool.false_eq_true, if_false, List.getLast?_concat, List.dropLast_concat]
      rw [String.ofList_toList]
      rfl

theorem parts?_segment (h : segment.Plain) :
    parts? default none (segment.chars ++ rest) =
      (parts? default none rest).map (segment.parts false ++ ·) := by
  cases segment with
  | literal text => exact parts?_literals h.1 h.2
  | slot parameter =>
      have hclose : (default : Config).paramClose ∉
          parameter.name.toList ++ if parameter.required then [] else ['?'] := by
        rw [List.mem_append, not_or]
        refine ⟨not_mem_identifier h (by decide +kernel) (by decide +kernel), ?_⟩
        split <;> decide
      have hbody := parts?_body hclose [] rest
      rw [List.nil_append, parameterOf_body h] at hbody
      have hopen : '\x7b' = (default : Config).paramOpen := rfl
      simp only [Segment.chars, List.append_assoc, List.cons_append, List.nil_append, parts?]
      rw [if_pos hopen, ← List.append_assoc]
      exact hbody

-- The slash before a segment is a part of its own, or belongs to the placeholder behind it.
theorem attach_slash (segment : Segment) (segments : List Segment) :
    attach '/' (layout false (segment :: segments)) = layout true (segment :: segments) := by
  cases segment with
  | slot parameter => rfl
  | literal text =>
      cases text with
      | cons c text => rfl
      | nil =>
          cases segments with
          | nil => rfl
          | cons next segments => cases next <;> rfl

theorem parts?_layout (h : ∀ segment ∈ segments, segment.Plain) :
    parts? default none (['/'].intercalate (segments.map Segment.chars)) =
      some (layout false segments) := by
  induction segments with
  | nil => rfl
  | cons segment segments ih =>
      rw [List.forall_mem_cons] at h
      cases segments with
      | nil =>
          have hlast : parts? default none (segment.chars ++ []) = _ := parts?_segment h.1
          simpa [layout, parts?] using hlast
      | cons next segments =>
          rw [List.map_cons, List.map_cons, List.intercalate_cons_cons, ← List.map_cons,
            List.append_assoc, parts?_segment h.1, List.singleton_append, parts?,
            if_neg (by decide), ih h.2, Option.map_some, Option.map_some, attach_slash]
          rfl

theorem rest_of_literals (h : Splits rules (text.map .literal ++ parts) fills close path) :
    ∃ rest, path = text ++ rest ∧ Splits rules parts fills close rest := by
  induction text generalizing path with
  | nil => exact ⟨path, rfl, h⟩
  | cons c text ih =>
      cases h with
      | literal _ hrest =>
          obtain ⟨rest, rfl, hsplit⟩ := ih hrest
          exact ⟨rest, rfl, hsplit⟩

@[simp] theorem bound_literals (text : List Char) (parts : List Part) (fills : List (Option Fill)) :
    bound (text.map .literal ++ parts) fills = bound parts fills := by
  induction text with
  | nil => rfl
  | cons c text ih => exact ih

@[simp] theorem slots_literals (text : List Char) (parts : List Part) :
    slots (text.map .literal ++ parts) = slots parts := by
  induction text with
  | nil => rfl
  | cons c text ih => exact ih

end Signpost.Template
