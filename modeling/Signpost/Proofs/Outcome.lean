import Signpost.Log

namespace Except

theorem bind_eq_ok {ε α β : Type} {x : Except ε α} {f : α → Except ε β} {b : β} :
    x >>= f = .ok b ↔ ∃ a, x = .ok a ∧ f a = .ok b := by
  cases x with
  | error e => simp [bind, Except.bind]
  | ok a => simp [bind, Except.bind]

@[simp] theorem bind_ok {ε α β : Type} (a : α) (f : α → Except ε β) :
    (Except.ok a : Except ε α) >>= f = f a := rfl

@[simp] theorem throw_eq_error {ε α : Type} (e : ε) : (throw e : Except ε α) = .error e := rfl

@[simp] theorem error_bind {ε α β : Type} (e : ε) (f : α → Except ε β) :
    (Except.error e : Except ε α) >>= f = .error e := rfl

-- What goes on with a value and cannot fail succeeds and fails with what made the value.
theorem exists_bind_ok_iff {ε α β : Type} {x : Except ε α} {f : α → β} :
    (∃ b, (x >>= fun a => .ok (f a)) = .ok b) ↔ ∃ a, x = .ok a := by
  cases x with
  | error e => simp
  | ok a => simp

theorem bind_ok_eq_error_iff {ε α β : Type} {x : Except ε α} {f : α → β} {e : ε} :
    (x >>= fun a => .ok (f a)) = .error e ↔ x = .error e := by
  cases x with
  | error e' => simp
  | ok a => simp

-- Renaming an error does not touch what succeeds.
theorem eq_ok_of_mapError {ε ε' α : Type} {x : Except ε α} {f : ε → ε'} {a : α}
    (h : x.mapError f = .ok a) : x = .ok a := by
  cases x with
  | error e => cases h
  | ok b => exact congrArg Except.ok (Except.ok.inj h)

theorem exists_ok_of_isOk {ε α : Type} {x : Except ε α} (h : x.isOk = true) : ∃ a, x = .ok a := by
  cases x with
  | error e => cases h
  | ok a => exact ⟨a, rfl⟩

theorem eq_ok_of_toOption {ε α : Type} {x : Except ε α} {a : α} (h : x.toOption = some a) :
    x = .ok a := by
  cases x with
  | error e => cases h
  | ok b => exact congrArg Except.ok (Option.some.inj h)

-- What is seen of a result was seen of a value.
theorem exists_ok_of_bind {ε α β : Type} {x : Except ε α} {f : α → Option β} {b : β}
    (h : x.toOption.bind f = some b) : ∃ a, x = .ok a ∧ f a = some b := by
  obtain ⟨a, hx, hf⟩ := Option.bind_eq_some_iff.mp h
  exact ⟨a, eq_ok_of_toOption hx, hf⟩

-- Where no element fails, going through a list is mapping it.
theorem mapM_eq_ok {ε α β : Type} {f : α → Except ε β} {g : α → β} {l : List α}
    (h : ∀ a ∈ l, f a = .ok (g a)) : l.mapM f = .ok (l.map g) := by
  induction l with
  | nil => rfl
  | cons a l ih =>
      rw [List.forall_mem_cons] at h
      rw [List.mapM_cons, h.1, bind_ok, ih h.2]
      rfl

-- Where what an element gives tells the element, a list gives what it is made of.
theorem mapM_eq_ok_iff {ε α β : Type} {f : α → Except ε β} {g : β → α} {P : β → Prop}
    (h : ∀ a b, f a = .ok b ↔ a = g b ∧ P b) {l : List α} {bs : List β} :
    l.mapM f = .ok bs ↔ l = bs.map g ∧ ∀ b ∈ bs, P b := by
  induction l generalizing bs with
  | nil =>
      constructor
      · intro hread
        obtain rfl : [] = bs := Except.ok.inj hread
        simp
      · rintro ⟨hnil, -⟩
        rw [List.map_eq_nil_iff.mp hnil.symm]
        rfl
  | cons a l ih =>
      rw [List.mapM_cons]
      constructor
      · intro hread
        obtain ⟨b, hb, hread⟩ := bind_eq_ok.mp hread
        obtain ⟨others, hothers, hread⟩ := bind_eq_ok.mp hread
        obtain rfl : b :: others = bs := Except.ok.inj hread
        obtain ⟨rfl, hfirst⟩ := (h a b).mp hb
        obtain ⟨rfl, hrest⟩ := ih.mp hothers
        exact ⟨rfl, List.forall_mem_cons.mpr ⟨hfirst, hrest⟩⟩
      · rintro ⟨hlist, hall⟩
        obtain ⟨b, others, rfl, rfl, rfl⟩ := List.map_eq_cons_iff.mp hlist.symm
        rw [List.forall_mem_cons] at hall
        rw [(h _ b).mpr ⟨rfl, hall.1⟩, bind_ok, ih.mpr ⟨rfl, hall.2⟩]
        rfl

theorem exists_mapM_eq_ok_iff {ε α β : Type} {f : α → Except ε β} {l : List α} :
    (∃ bs, l.mapM f = .ok bs) ↔ ∀ a ∈ l, ∃ b, f a = .ok b := by
  induction l with
  | nil => exact ⟨fun _ a h => absurd h List.not_mem_nil, fun _ => ⟨[], rfl⟩⟩
  | cons a l ih =>
      rw [List.mapM_cons, List.forall_mem_cons, ← ih]
      constructor
      · rintro ⟨bs, h⟩
        obtain ⟨b, hb, h⟩ := bind_eq_ok.mp h
        obtain ⟨others, hothers, -⟩ := bind_eq_ok.mp h
        exact ⟨⟨b, hb⟩, others, hothers⟩
      · rintro ⟨⟨b, hb⟩, others, hothers⟩
        rw [hb, hothers]
        exact ⟨b :: others, rfl⟩

-- A list fails with what the first of its elements that fail does.
theorem exists_of_mapM_eq_error {ε α β : Type} {f : α → Except ε β} {l : List α} {e : ε}
    (h : l.mapM f = .error e) : ∃ front a back, l = front ++ a :: back ∧
      (∀ earlier ∈ front, ∃ b, f earlier = .ok b) ∧ f a = .error e := by
  induction l with
  | nil => cases h
  | cons a l ih =>
      rw [List.mapM_cons] at h
      cases hfirst : f a with
      | error other =>
          rw [hfirst] at h
          obtain rfl : other = e := Except.error.inj h
          exact ⟨[], a, l, rfl, by simp, hfirst⟩
      | ok b =>
          rw [hfirst, bind_ok] at h
          cases hrest : l.mapM f with
          | error other =>
              rw [hrest] at h
              obtain rfl : other = e := Except.error.inj h
              obtain ⟨front, later, back, rfl, hfront, hlater⟩ := ih hrest
              exact ⟨a :: front, later, back, rfl,
                List.forall_mem_cons.mpr ⟨⟨b, hfirst⟩, hfront⟩, hlater⟩
          | ok bs =>
              rw [hrest] at h
              cases h

-- Two computations side by side: both fail, or both succeed with results that are related.
inductive Rel {ε α β : Type} (R : α → β → Prop) : Except ε α → Except ε β → Prop
  | error (e e' : ε) : Rel R (.error e) (.error e')
  | ok {a : α} {b : β} (h : R a b) : Rel R (.ok a) (.ok b)

theorem Rel.refl {ε α : Type} {R : α → α → Prop} (hrefl : ∀ a, R a a) (x : Except ε α) :
    Rel R x x := by
  cases x with
  | error e => exact .error e e
  | ok a => exact .ok (hrefl a)

theorem Rel.bind {ε α β γ δ : Type} {R : α → β → Prop} {S : γ → δ → Prop} {x : Except ε α}
    {y : Except ε β} {f : α → Except ε γ} {g : β → Except ε δ} (h : Rel R x y)
    (hnext : ∀ a b, x = .ok a → R a b → Rel S (f a) (g b)) : Rel S (x >>= f) (y >>= g) := by
  cases h with
  | error e e' => exact .error e e'
  | ok hrel => exact hnext _ _ rfl hrel

theorem Rel.of_ok {ε α β : Type} {R : α → β → Prop} {x : Except ε α} {y : Except ε β}
    (hleft : ∀ a, x = .ok a → ∃ b, y = .ok b ∧ R a b)
    (hright : ∀ b, y = .ok b → ∃ a, x = .ok a) : Rel R x y := by
  cases x with
  | ok a =>
      obtain ⟨b, rfl, hrel⟩ := hleft a rfl
      exact .ok hrel
  | error e =>
      cases y with
      | ok b =>
          obtain ⟨a, ha⟩ := hright b rfl
          cases ha
      | error e' => exact .error e e'

-- Whatever a computation fails with, if it fails, has a property.
def Fails {ε α : Type} (P : ε → Prop) (x : Except ε α) : Prop := ∀ e, x = .error e → P e

theorem fails_ok {ε α : Type} {P : ε → Prop} (a : α) : Fails P (.ok a : Except ε α) :=
  fun _ h => nomatch h

theorem fails_error {ε α : Type} {P : ε → Prop} {e : ε} (h : P e) :
    Fails P (.error e : Except ε α) :=
  fun _ he => Except.error.inj he ▸ h

theorem Fails.bind {ε α β : Type} {P : ε → Prop} {x : Except ε α} {f : α → Except ε β}
    (hx : Fails P x) (hf : ∀ a, x = .ok a → Fails P (f a)) : Fails P (x >>= f) := by
  cases x with
  | error e => exact fails_error (hx e rfl)
  | ok a => exact hf a rfl

theorem Fails.map {ε α β : Type} {P : ε → Prop} {x : Except ε α} (hx : Fails P x) (f : α → β) :
    Fails P (f <$> x) := by
  cases x with
  | error e => exact fails_error (hx e rfl)
  | ok a => exact fails_ok (f a)

theorem Fails.mapM {ε α β : Type} {P : ε → Prop} {f : α → Except ε β} {l : List α}
    (h : ∀ a ∈ l, Fails P (f a)) : Fails P (l.mapM f) := by
  induction l with
  | nil => exact fails_ok []
  | cons a l ih =>
      rw [List.forall_mem_cons] at h
      rw [List.mapM_cons]
      exact h.1.bind fun b _ => (ih h.2).bind fun bs _ => fails_ok (b :: bs)

theorem Fails.mono {ε α : Type} {P Q : ε → Prop} {x : Except ε α} (hx : Fails P x)
    (h : ∀ e, P e → Q e) : Fails Q x :=
  fun e he => h e (hx e he)

end Except

namespace Signpost.Logged

-- What comes out of a computation does not depend on its log.
theorem result_bind {α β : Type} (x : Logged α) (f : α → Logged β) :
    (x >>= f).result = x.result >>= fun a => (f a).result := by
  cases h : x.result with
  | error e => rw [bind_of_error h, Except.error_bind]
  | ok a => rw [bind_of_ok h, Except.bind_ok]

end Signpost.Logged
