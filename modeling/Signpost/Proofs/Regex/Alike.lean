import Signpost.Proofs.Regex.Ends

namespace List

variable {α β γ : Type} {l l' m m' : List α}

def Alike (l l' : List α) : Prop :=
  ∀ (β : Type) (f : α → Option β), l.findSome? f = l'.findSome? f

theorem Alike.refl (l : List α) : Alike l l := fun _ _ => rfl

theorem Alike.of_eq (h : l = l') : Alike l l' := h ▸ .refl l

theorem Alike.symm (h : Alike l l') : Alike l' l := fun β f => (h β f).symm

theorem Alike.append (h : Alike l l') (h' : Alike m m') : Alike (l ++ m) (l' ++ m') := by
  intro β f
  rw [findSome?_append, findSome?_append, h β f, h' β f]

theorem Alike.flatMap {f g : α → List β} (h : Alike l l') (hfg : ∀ a, Alike (f a) (g a)) :
    Alike (l.flatMap f) (l'.flatMap g) := by
  intro γ next
  rw [findSome?_flatMap, findSome?_flatMap, ← h]
  congr 1
  funext a
  exact hfg a γ next

theorem Alike.map (h : Alike l l') (f : α → β) : Alike (l.map f) (l'.map f) := by
  intro γ next
  rw [findSome?_map, findSome?_map, h]

theorem Alike.head?_eq (h : Alike l l') : l.head? = l'.head? := by
  rw [← findSome?_some_eq_head?, h, findSome?_some_eq_head?]

-- An end that was there already adds nothing.
theorem alike_cons_of_mem {a : α} (h : ∀ b ∈ l, b = a) : Alike (a :: l) [a] := by
  intro β f
  rw [findSome?_cons, findSome?_singleton]
  cases hf : f a with
  | some b => rfl
  | none =>
      dsimp only
      rw [findSome?_eq_none_iff]
      intro b hb
      rw [h b hb, hf]

end List
