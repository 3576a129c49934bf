import Signpost.Regex.Token

namespace Signpost.Regex

@[simp] theorem tokens_backslash (c : Char) (cs : List Char) :
    tokens ('\\' :: c :: cs) = .escaped c :: tokens cs := rfl

theorem tokens_cons {c : Char} (hc : c ≠ '\\') (cs : List Char) :
    tokens (c :: cs) = .plain c :: tokens cs := by
  rw [tokens.eq_def]
  simp [hc]

theorem dangles_cons {c : Char} (hc : c ≠ '\\') (cs : List Char) :
    dangles (c :: cs) = dangles cs := by
  rw [dangles.eq_def]
  simp [hc]

-- A backslash at the end of the first part would take a character of the second.
theorem tokens_append {cs : List Char} (h : dangles cs = false) (more : List Char) :
    tokens (cs ++ more) = tokens cs ++ tokens more := by
  fun_induction tokens cs with
  | case1 => rfl
  | case2 => simp [dangles] at h
  | case3 c rest ih =>
      have hrest : dangles rest = false := by simpa [dangles] using h
      simp [ih hrest]
  | case4 c cs hc ih =>
      rw [dangles_cons hc] at h
      simp only [List.cons_append, tokens_cons hc, ih h]

-- Text without a backslash is cut into its characters.
theorem tokens_plain {cs : List Char} (h : '\\' ∉ cs) (more : List Char) :
    tokens (cs ++ more) = cs.map Token.plain ++ tokens more := by
  induction cs with
  | nil => rfl
  | cons c cs ih =>
      simp only [List.mem_cons, not_or] at h
      simp only [List.cons_append, List.map_cons, tokens_cons (Ne.symm h.1), ih h.2]

theorem takePlain_suffix (p : Char → Bool) (count : Nat) (ts : List Token) :
    (takePlain p count ts).2 <:+ ts := by
  fun_induction takePlain p count ts with
  | case1 count c ts hc cs rest heq ih => exact (heq ▸ ih).trans (List.suffix_cons _ _)
  | case2 => exact List.suffix_refl _
  | case3 => exact List.suffix_refl _

theorem takePlain_append {p : Char → Bool} {c : Char} (hc : p c = false) (count : Nat)
    (ts more : List Token) :
    takePlain p count (ts ++ .plain c :: more) =
      ((takePlain p count ts).1, (takePlain p count ts).2 ++ .plain c :: more) := by
  fun_induction takePlain p count ts with
  | case1 count d ts hd cs rest heq ih => simp [takePlain, hd, ih, heq]
  | case2 count d ts hd => simp [takePlain, hd]
  | case3 count ts hts =>
      cases count with
      | zero => simp [takePlain]
      | succ count =>
          cases ts with
          | nil => simp [takePlain, hc]
          | cons t ts =>
              cases t with
              | plain d => exact absurd rfl (hts count d ts rfl)
              | escaped d => simp [takePlain]

-- A count that covers all tokens is as good as any larger one.
theorem takePlain_of_le {p : Char → Bool} {count : Nat} {ts : List Token}
    (h : ts.length ≤ count) : takePlain p count ts = takePlain p ts.length ts := by
  induction ts generalizing count with
  | nil => cases count <;> rfl
  | cons t ts ih =>
      obtain ⟨count, rfl⟩ : ∃ n, count = n + 1 := ⟨count - 1, by simp at h; omega⟩
      have hle : ts.length ≤ count := by simpa using h
      cases t with
      | plain c => simp [takePlain, ih hle]
      | escaped c => rfl

theorem cutAt_suffix {closer : Char} {ts rest : List Token} {name : List Char}
    (h : cutAt closer ts = (name, some rest)) : rest <:+ ts := by
  induction ts generalizing name with
  | nil => simp [cutAt] at h
  | cons t ts ih =>
      simp only [cutAt] at h
      split at h
      · simp only [Prod.mk.injEq, Option.some.injEq] at h
        exact h.2 ▸ List.suffix_cons _ _
      · simp only [Prod.mk.injEq] at h
        exact (ih (Prod.ext rfl h.2)).trans (List.suffix_cons _ _)

-- Text without a backslash was cut from plain tokens.
theorem eq_of_cutAt {closer : Char} {ts rest : List Token} {name : List Char}
    (h : cutAt closer ts = (name, some rest)) (hback : '\\' ∉ name) :
    ts = name.map Token.plain ++ .plain closer :: rest := by
  induction ts generalizing name with
  | nil => simp [cutAt] at h
  | cons t ts ih =>
      simp only [cutAt] at h
      split at h
      next hclose =>
        obtain ⟨rfl, hrest⟩ := Prod.mk.inj h
        rw [hclose, Option.some.inj hrest]
        rfl
      next =>
        obtain ⟨rfl, hrest⟩ := Prod.mk.inj h
        rw [List.mem_append, not_or] at hback
        have hts := ih (Prod.ext rfl hrest) hback.2
        cases t with
        | plain c => exact congrArg (Token.plain c :: ·) hts
        | escaped c => exact (hback.1 List.mem_cons_self).elim

theorem cutAt_append {closer : Char} {ts rest : List Token} {name : List Char}
    (h : cutAt closer ts = (name, some rest)) (more : List Token) :
    cutAt closer (ts ++ more) = (name, some (rest ++ more)) := by
  induction ts generalizing name with
  | nil => simp [cutAt] at h
  | cons t ts ih =>
      simp only [cutAt] at h
      split at h
      next hclose =>
        simp only [Prod.mk.injEq, Option.some.injEq] at h
        simp [cutAt, hclose, ← h.1, h.2]
      next hopen =>
        simp only [Prod.mk.injEq] at h
        simp [cutAt, hopen, ih (Prod.ext rfl h.2), ← h.1]

end Signpost.Regex
