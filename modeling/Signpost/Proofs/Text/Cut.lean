import Signpost.Text.Cut

namespace Signpost.Text

variable {c s d : Char} {cs before after part : List Char}

theorem replace_singleton (s d : Char) (cs : List Char) :
    replace [s] [d] cs = cs.map fun c => if c = s then d else c := by
  have hfrom : replaceFrom [s] [d] 0 cs = cs.map fun c => if c = s then d else c := by
    induction cs with
    | nil => rfl
    | cons c cs ih =>
        by_cases hc : c = s
        · subst hc
          simp [replaceFrom, ih]
        · simp [replaceFrom, hc, Ne.symm hc, ih]
  exact hfrom

theorem replace_of_not_mem (h : s ∉ cs) : replace [s] [d] cs = cs := by
  rw [replace_singleton]
  calc
    (cs.map fun c => if c = s then d else c) = cs.map id :=
      List.map_congr_left fun c hc => if_neg (ne_of_mem_of_not_mem hc h)
    _ = cs := List.map_id cs

theorem replace_intercalate {parts : List (List Char)} (h : ∀ part ∈ parts, s ∉ part) :
    replace [s] [d] ([s].intercalate parts) = [d].intercalate parts := by
  induction parts with
  | nil => rfl
  | cons part parts ih =>
      rw [List.forall_mem_cons] at h
      cases parts with
      | nil => rw [List.intercalate_singleton, List.intercalate_singleton, replace_of_not_mem h.1]
      | cons next parts =>
          have ih := ih h.2
          have hpart := replace_of_not_mem (d := d) h.1
          rw [replace_singleton] at ih hpart ⊢
          rw [List.intercalate_cons_cons, List.intercalate_cons_cons, List.map_append,
            List.map_append, ih, hpart]
          simp

theorem cut?_of_not_mem (h : c ∉ before) (after : List Char) :
    cut? [c] (before ++ c :: after) = some (before, after) := by
  induction before with
  | nil => simp [cut?]
  | cons d before ih =>
      rw [List.mem_cons, not_or] at h
      simp [cut?, h.1, ih h.2]

theorem cut?_eq_none_iff : cut? [c] cs = none ↔ c ∉ cs := by
  induction cs with
  | nil => simp [cut?]
  | cons d cs ih =>
      by_cases hd : c = d
      · simp [cut?, hd]
      · simp [cut?, hd, ih]

theorem not_mem_of_cut? (h : cut? [c] cs = some (before, after)) : c ∉ before := by
  induction cs generalizing before with
  | nil => simp [cut?] at h
  | cons d cs ih =>
      by_cases hd : c = d
      · have hfirst : before = [] := by simp_all [cut?]
        simp [hfirst]
      · simp only [cut?, List.isPrefixOf_cons_cons, beq_eq_false_iff_ne.mpr hd, Bool.false_and,
          Bool.false_eq_true, if_false] at h
        obtain ⟨⟨rest, _⟩, hrest, heq⟩ := Option.map_eq_some_iff.mp h
        obtain ⟨rfl, rfl⟩ := Prod.mk.inj heq
        exact List.not_mem_cons_of_ne_of_not_mem hd (ih hrest)

-- A separator of one character cuts where that character comes first.
theorem cut?_eq_some_iff :
    cut? [c] cs = some (before, after) ↔ cs = before ++ c :: after ∧ c ∉ before := by
  constructor
  · intro h
    exact ⟨by simpa using cut?_append h, not_mem_of_cut? h⟩
  · rintro ⟨rfl, hbefore⟩
    exact cut?_of_not_mem hbefore after

theorem cutLast?_eq_none_iff : cutLast? c cs = none ↔ c ∉ cs := by
  induction cs with
  | nil => simp [cutLast?]
  | cons d cs ih =>
      rw [cutLast?, List.mem_cons, not_or, ← ih]
      cases cutLast? c cs with
      | some cut => simp
      | none => simp [eq_comm]

theorem cutLast?_of_not_mem (h : c ∉ after) (before : List Char) :
    cutLast? c (before ++ c :: after) = some (before, after) := by
  induction before with
  | nil => simp [cutLast?, cutLast?_eq_none_iff.mpr h]
  | cons d before ih => rw [List.cons_append, cutLast?, ih]

theorem not_mem_of_cutLast? (h : cutLast? c cs = some (before, after)) : c ∉ after := by
  induction cs generalizing before with
  | nil => simp [cutLast?] at h
  | cons d cs ih =>
      rw [cutLast?] at h
      cases hcut : cutLast? c cs with
      | some cut =>
          rw [hcut] at h
          obtain ⟨rfl, rfl⟩ := Prod.mk.inj (Option.some.inj h)
          exact ih hcut
      | none =>
          rw [hcut] at h
          dsimp only at h
          split at h
          · obtain ⟨-, rfl⟩ := Prod.mk.inj (Option.some.inj h)
            exact cutLast?_eq_none_iff.mp hcut
          · cases h

-- There is one last separator.
theorem eq_of_last {before' after' : List Char}
    (h : before ++ c :: after = before' ++ c :: after') (hafter : c ∉ after)
    (hafter' : c ∉ after') : before = before' ∧ after = after' := by
  have hcut := cutLast?_of_not_mem hafter before
  rw [h, cutLast?_of_not_mem hafter'] at hcut
  obtain ⟨rfl, rfl⟩ := Prod.mk.inj (Option.some.inj hcut)
  exact ⟨rfl, rfl⟩

theorem split_of_not_mem (h : c ∉ part) : split c part = [part] := by
  induction part with
  | nil => rfl
  | cons d part ih =>
      rw [List.mem_cons, not_or] at h
      rw [split, if_neg (Ne.symm h.1), ih h.2]

theorem split_ne_nil (c : Char) (cs : List Char) : split c cs ≠ [] := by
  cases cs with
  | nil => simp [split]
  | cons d cs =>
      rw [split]
      split
      · simp
      · split <;> simp

theorem split_concat (h : c ∉ part) (cs : List Char) :
    split c (cs ++ c :: part) = split c cs ++ [part] := by
  induction cs with
  | nil => simp [split, split_of_not_mem h]
  | cons d cs ih =>
      rw [List.cons_append, split, split, ih]
      by_cases hd : d = c
      · rw [if_pos hd, if_pos hd, List.cons_append]
      · rw [if_neg hd, if_neg hd]
        cases hsplit : split c cs with
        | nil => exact absurd hsplit (split_ne_nil c cs)
        | cons first parts => rfl

end Signpost.Text
