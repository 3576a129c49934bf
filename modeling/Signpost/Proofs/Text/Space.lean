import Mathlib.Data.List.DropRight
import Signpost.Text.Space

namespace Signpost.Text

variable {text core front back : List Char} {c : Char}

structure Tight (core : List Char) : Prop where
  head : ∀ c ∈ core.head?, isSpace c = false
  last : ∀ c ∈ core.getLast?, isSpace c = false

-- A text as it is without the white space at its ends.
structure Trims (text core : List Char) : Prop where
  within : ∃ front back, text = front ++ core ++ back ∧
    (∀ c ∈ front, isSpace c = true) ∧ ∀ c ∈ back, isSpace c = true
  tight : Tight core

theorem trim_eq_rdropWhile (text : List Char) :
    trim text = (text.dropWhile isSpace).rdropWhile isSpace := rfl

theorem tight_trim (text : List Char) : Tight (trim text) where
  head := by
    intro c hc
    obtain ⟨back, hback⟩ : trim text <+: text.dropWhile isSpace := List.rdropWhile_prefix ..
    have hhead := List.head?_dropWhile_not isSpace text
    rw [← hback, List.head?_append, hc] at hhead
    exact hhead
  last := by
    intro c hc
    obtain ⟨hne, rfl⟩ := List.mem_getLast?_eq_getLast hc
    exact Bool.eq_false_iff.mpr (List.rdropWhile_last_not isSpace _ hne)

theorem Tight.trim_eq (h : Tight core) : trim core = core := by
  have hfront : core.dropWhile isSpace = core := by
    cases core with
    | nil => rfl
    | cons c core => rw [List.dropWhile_cons_of_neg (by simp [h.head c rfl])]
  rw [trim_eq_rdropWhile, hfront, List.rdropWhile_eq_self_iff]
  intro hne
  simp [h.last _ (List.getLast?_eq_some_getLast hne)]

theorem trims_trim (text : List Char) : Trims text (trim text) where
  within := by
    refine ⟨text.takeWhile isSpace, (text.dropWhile isSpace).rtakeWhile isSpace, ?_, ?_, ?_⟩
    · rw [trim_eq_rdropWhile, List.append_assoc, List.rdropWhile_append_rtakeWhile,
        List.takeWhile_append_dropWhile]
    · exact fun c hmem => List.mem_takeWhile_imp hmem
    · exact fun c hmem => List.mem_rtakeWhile_imp hmem
  tight := tight_trim text

theorem trim_append_left (h : ∀ c ∈ front, isSpace c = true) (text : List Char) :
    trim (front ++ text) = trim text := by
  rw [trim, List.dropWhile_append_of_pos h]
  rfl

theorem trim_append_right (h : ∀ c ∈ back, isSpace c = true) (text : List Char) :
    trim (text ++ back) = trim text := by
  -- Where the whole text is white space, its front trimmed off leaves only what is behind it.
  rw [trim_eq_rdropWhile, trim_eq_rdropWhile, List.dropWhile_append]
  split
  next hblank =>
    have hback : back.dropWhile isSpace = [] := List.dropWhile_eq_nil_iff.mpr h
    rw [hback, List.isEmpty_iff.mp hblank]
  next =>
    have hreverse : ∀ c ∈ back.reverse, isSpace c = true := by simpa using h
    rw [List.rdropWhile, List.reverse_append, List.dropWhile_append_of_pos hreverse]
    rfl

theorem Trims.eq_trim (h : Trims text core) : core = trim text := by
  obtain ⟨front, back, rfl, hfront, hback⟩ := h.within
  rw [trim_append_right hback, trim_append_left hfront, h.tight.trim_eq]

theorem Trims.mem (h : Trims text core) (hmem : c ∈ core) : c ∈ text := by
  obtain ⟨front, back, rfl, -⟩ := h.within
  exact List.mem_append_left _ (List.mem_append_right _ hmem)

-- Something is left of a text that is not all white space.
theorem trim_ne_nil_iff : trim text ≠ [] ↔ ∃ c ∈ text, isSpace c = false := by
  obtain ⟨front, back, htext, hfront, hback⟩ := (trims_trim text).within
  constructor
  · intro hne
    have hlast := List.getLast?_eq_some_getLast hne
    exact ⟨_, (trims_trim text).mem (List.getLast_mem hne), (tight_trim text).last _ hlast⟩
  · rintro ⟨c, hmem, hc⟩ hnil
    rw [htext, hnil, List.append_nil, List.mem_append] at hmem
    rcases hmem with hmem | hmem
    · simp [hfront c hmem] at hc
    · simp [hback c hmem] at hc

end Signpost.Text
