namespace List

variable {α β : Type} {l l' : List α} {R : α → α → Prop}

-- Whatever stands behind `a` for the first time is less preferred.
def Ranked (R : α → α → Prop) (l : List α) : Prop :=
  ∀ before a after, l = before ++ a :: after → ∀ b ∈ after, b ∈ before ∨ b = a ∨ R a b

-- The first of a list is preferred to all others.
def Headed (R : α → α → Prop) (l : List α) : Prop :=
  ∀ a, l.head? = some a → ∀ b ∈ l, b = a ∨ R a b

theorem Pairwise.ranked (h : l.Pairwise R) : Ranked R l := by
  rintro before a after rfl b hb
  rw [pairwise_append, pairwise_cons] at h
  exact .inr (.inr (h.2.1.1 b hb))

theorem Pairwise.headed (h : l.Pairwise R) : Headed R l := by
  cases l with
  | nil => simp [Headed]
  | cons a l =>
      rintro _ ⟨rfl⟩ b hb
      rcases mem_cons.mp hb with rfl | hb
      · exact .inl rfl
      · exact .inr ((pairwise_cons.mp h).1 b hb)

theorem Headed.map {f : α → β} {S : β → β → Prop} (h : Headed R l)
    (hf : ∀ a b, R a b → S (f a) (f b)) : Headed S (l.map f) := by
  intro x hx y hy
  rw [head?_map, Option.map_eq_some_iff] at hx
  obtain ⟨a, ha, rfl⟩ := hx
  obtain ⟨b, hb, rfl⟩ := mem_map.mp hy
  rcases h a ha b hb with rfl | hR
  · exact .inl rfl
  · exact .inr (hf a b hR)

theorem Headed.append (h : Headed R l) (h' : Headed R l')
    (hacross : ∀ a ∈ l, ∀ b ∈ l', R a b) : Headed R (l ++ l') := by
  intro a ha b hb
  cases l with
  | nil => exact h' a ha b hb
  | cons first l =>
      obtain rfl : first = a := by simpa using ha
      rcases mem_append.mp hb with hb | hb
      · exact h first rfl b hb
      · exact .inr (hacross first mem_cons_self b hb)

-- Candidates tried in order, each with what may follow it in order.
theorem Ranked.flatMap {f : α → List β} {S : β → β → Prop} (h : Ranked R l)
    (hin : ∀ a ∈ l, Headed S (f a)) (hacross : ∀ a b, R a b → ∀ x ∈ f a, ∀ y ∈ f b, S x y) :
    Headed S (l.flatMap f) := by
  intro x hx y hy
  rw [head?_flatMap, findSome?_eq_some_iff] at hx
  obtain ⟨before, a, after, rfl, hhead, hnone⟩ := hx
  obtain ⟨b, hb, hyb⟩ := mem_flatMap.mp hy
  have hxa : x ∈ f a := mem_of_head? hhead
  have hown : y ∈ f a → y = x ∨ S x y := fun hya => hin a (by simp) x hhead y hya
  -- before `a` nothing follows any candidate
  have hempty : b ∉ before := fun hbefore => by
    have := head?_eq_none_iff.mp (hnone b hbefore)
    simp [this] at hyb
  rcases mem_append.mp hb with hb | hb
  · exact absurd hb hempty
  rcases mem_cons.mp hb with rfl | hb
  · exact hown hyb
  rcases h before a after rfl b hb with hbefore | rfl | hR
  · exact absurd hbefore hempty
  · exact hown hyb
  · exact .inr (hacross a b hR x hxa y hyb)

-- The first of all comes from the first.
theorem head?_flatMap_of_head? {f : α → List β} {a : α} {b : β} (h : l.head? = some a)
    (hb : (f a).head? = some b) : (l.flatMap f).head? = some b := by
  obtain ⟨rest, rfl⟩ := head?_eq_some_iff.mp h
  rw [flatMap_cons, head?_append, hb, Option.some_or]

end List
