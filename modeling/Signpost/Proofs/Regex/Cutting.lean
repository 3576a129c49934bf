import Signpost.Proofs.Regex.Passage

namespace Signpost.Regex

-- Whether what a node takes depends on that text alone. `settled` says that the node is part of one
-- whose first way is the only one.
def Node.selfContained (settled : Bool) : Node → Bool
  | .empty | .one _ _ => true
  | .anchor _ _ | .backref _ _ _ | .look _ _ _ | .choose _ _ _ => false
  | .seq first second => first.selfContained settled && second.selfContained settled
  | .alt first second => first.selfContained settled && second.selfContained settled
  | .flagged body => body.selfContained settled
  | .capture _ body => body.selfContained settled
  | .atomic body => !settled && body.selfContained true
  | .repeats .possessive _ _ body => !settled && body.selfContained true
  | .repeats _ _ _ body => body.selfContained settled

theorem Node.Moved.selfContained_eq {shift count : Nat} {mode mode' : Flags} {node body : Node}
    (h : Node.Moved shift count mode mode' node body) (settled : Bool) :
    node.selfContained settled = body.selfContained settled := by
  induction h generalizing settled with
  | seq _ _ ih ih' => rw [Node.selfContained, Node.selfContained, ih, ih']
  | alt _ _ ih ih' => rw [Node.selfContained, Node.selfContained, ih, ih']
  | flagged _ _ _ ih => exact ih settled
  | capture _ _ _ _ ih => exact ih settled
  | atomic _ ih => rw [Node.selfContained, Node.selfContained, ih]
  | repeats greed _ _ _ ih =>
      cases greed with
      | greedy => exact ih settled
      | lazy => exact ih settled
      | possessive => rw [Node.selfContained, Node.selfContained, ih]
  | _ => rfl

-- Only what looks behind itself is refused after it was read.
theorem check_of_selfContained {node : Node} {settled : Bool}
    (h : node.selfContained settled = true) : node.check false = .ok () := by
  induction node generalizing settled with
  | empty => rfl
  | one => rfl
  | anchor => rfl
  | backref => rfl
  | seq first second ih ih' =>
      rw [Node.selfContained, Bool.and_eq_true] at h
      rw [Node.check, ih h.1, ih' h.2]
      rfl
  | alt first second ih ih' =>
      rw [Node.selfContained, Bool.and_eq_true] at h
      rw [Node.check, ih h.1, ih' h.2]
      rfl
  | flagged body ih => exact ih h
  | capture index body ih => exact ih h
  | atomic body ih =>
      rw [Node.selfContained, Bool.and_eq_true] at h
      exact ih h.2
  | repeats greed least most body ih =>
      rw [Node.check, if_neg (by decide)]
      cases greed with
      | greedy => exact ih h
      | lazy => exact ih h
      | possessive =>
          rw [Node.selfContained, Bool.and_eq_true] at h
          exact ih h.2
  | look => cases h
  | choose => cases h

-- The spots of the second list are those of the first that lie before `w`, in the same order.
inductive Cut (w : List Char) : List Spot → List Spot → Prop
  | nil : Cut w [] []
  | keep {s t : Spot} {l l' : List Spot} (hahead : s.ahead = t.ahead ++ w) (hrest : Cut w l l') :
      Cut w (s :: l) (t :: l')
  | drop {s : Spot} {l l' : List Spot} (hshort : s.ahead.length < w.length)
      (hrest : Cut w l l') : Cut w (s :: l) l'

variable {w p : List Char} {l l' m m' : List Spot} {s s' s₁ t t' t₁ : Spot} {groups : List Nat}
  {text : List Char}

theorem Spot.ahead_eq (hahead : s.ahead = t.ahead ++ w) (hkept : s.ahead = p ++ w) :
    t.ahead = p :=
  List.append_cancel_right (hahead.symm.trans hkept)

namespace Cut

theorem of_short (h : ∀ s ∈ m, s.ahead.length < w.length) (hrest : Cut w l l') :
    Cut w (m ++ l) l' := by
  induction m with
  | nil => exact hrest
  | cons s m ih =>
      rw [List.forall_mem_cons] at h
      exact .drop h.1 (ih h.2)

theorem append (h : Cut w l l') (h' : Cut w m m') : Cut w (l ++ m) (l' ++ m') := by
  induction h with
  | nil => exact h'
  | keep hahead _ ih => exact .keep hahead ih
  | drop hshort _ ih => exact .drop hshort ih

-- Past the beginning of `w` there is no way back.
theorem flatMap {f g : Ends} (h : Cut w l l')
    (hkeep : ∀ s ∈ l, ∀ t ∈ l', s.ahead = t.ahead ++ w → Cut w (f s) (g t))
    (hshort : ∀ s, ∀ s' ∈ f s, s'.ahead.length ≤ s.ahead.length) :
    Cut w (l.flatMap f) (l'.flatMap g) := by
  induction h with
  | nil => exact .nil
  | @keep s t l l' hahead _ ih =>
      have hhead : Cut w (f s) (g t) := hkeep s List.mem_cons_self t List.mem_cons_self hahead
      refine hhead.append (ih fun s₁ hs₁ t₁ ht₁ => ?_)
      exact hkeep s₁ (List.mem_cons_of_mem _ hs₁) t₁ (List.mem_cons_of_mem _ ht₁)
  | @drop s l l' hpast _ ih =>
      refine of_short (fun s' hs' => ?_) (ih fun s₁ hs₁ => hkeep s₁ (List.mem_cons_of_mem _ hs₁))
      exact Nat.lt_of_le_of_lt (hshort s s' hs') hpast

theorem map {f g : Spot → Spot} (h : Cut w l l') (hf : ∀ s, (f s).ahead = s.ahead)
    (hg : ∀ t, (g t).ahead = t.ahead) : Cut w (l.map f) (l'.map g) := by
  induction h with
  | nil => exact .nil
  | keep hahead _ ih => exact .keep (by rw [hf, hg, hahead]) ih
  | drop hshort _ ih => exact .drop (by rwa [hf]) ih

theorem exists_mem (h : Cut w l l') (hmem : s ∈ l) (hkept : s.ahead = p ++ w) :
    ∃ t ∈ l', t.ahead = p := by
  induction h with
  | nil => cases hmem
  | @keep s₁ t l l' hahead _ ih =>
      rcases List.mem_cons.mp hmem with rfl | hmem
      · exact ⟨t, List.mem_cons_self, Spot.ahead_eq hahead hkept⟩
      · obtain ⟨t', hmem', hend⟩ := ih hmem
        exact ⟨t', List.mem_cons_of_mem t hmem', hend⟩
  | @drop s₁ l l' hshort _ ih =>
      rcases List.mem_cons.mp hmem with rfl | hmem
      · rw [hkept, List.length_append] at hshort
        omega
      · exact ih hmem

-- A way that is the first on the longer text and does not reach into `w` is the first on both.
theorem exists_head? (h : Cut w l l') (hhead : l.head? = some s) (hkept : s.ahead = p ++ w) :
    ∃ t, l'.head? = some t ∧ t.ahead = p := by
  cases h with
  | nil => cases hhead
  | @keep s₁ t l l' hahead _ =>
      obtain rfl : s₁ = s := Option.some.inj hhead
      exact ⟨t, rfl, Spot.ahead_eq hahead hkept⟩
  | @drop s₁ l l' hshort _ =>
      obtain rfl : s₁ = s := Option.some.inj hhead
      rw [hkept, List.length_append] at hshort
      omega

theorem head?_eq_none (h : Cut w l l') (hnone : l.head? = none) : l'.head? = none := by
  cases h with
  | nil => rfl
  | keep => cases hnone
  | drop => cases hnone

end Cut

namespace Spot

theorem Passes.length_le (h : Passes groups s text s') : s'.ahead.length ≤ s.ahead.length := by
  rw [h.ahead, List.length_append]
  omega

-- What lies ahead was ahead before, so it is still followed by `w`.
theorem Passes.exists_kept (h : Passes groups s text s') (hkept : s'.ahead = p ++ w) :
    ∃ p₁, s.ahead = p₁ ++ w := by
  refine ⟨text ++ p, ?_⟩
  rw [h.ahead, hkept, List.append_assoc]

-- A round takes a character in the one text where it takes one in the other.
theorem round_cases {own own' : List Nat} {text' : List Char} (hpass : Passes own s text s₁)
    (hpass' : Passes own' t text' t₁) (hahead : s.ahead = t.ahead ++ w)
    (hahead₁ : s₁.ahead = t₁.ahead ++ w) :
    (s₁.offset = s.offset ∧ t₁.offset = t.offset) ∨
      (s₁.offset ≠ s.offset ∧ t₁.offset ≠ t.offset ∧ t₁.ahead.length < t.ahead.length) := by
  have hoffset : s₁.offset = s.offset + text.length := hpass.offset
  have hoffset' : t₁.offset = t.offset + text'.length := hpass'.offset
  have hlength := congrArg List.length hpass.ahead
  have hlength' := congrArg List.length hpass'.ahead
  rw [hahead, hahead₁] at hlength
  simp only [List.length_append] at hlength hlength'
  by_cases hstay : text'.length = 0
  · exact .inl ⟨by omega, by omega⟩
  · exact .inr ⟨by omega, by omega, by omega⟩

-- Fewer rounds are tried on the shorter text, but no fewer than could make a difference.
theorem rounds_of_cut (hahead : s.ahead = t.ahead ++ w) (least : Nat) (most : Option Nat) :
    rounds least most t ≤ rounds least most s ∧
      (rounds least most s = rounds least most t ∨ t.ahead.length < rounds least most t) := by
  have hlength : s.ahead.length = t.ahead.length + w.length := by
    rw [hahead, List.length_append]
  cases most with
  | none =>
      simp only [rounds]
      omega
  | some most =>
      simp only [rounds]
      omega

end Spot

section Repetition

variable {own own' : List Nat} {body body' : Ends}

section Ordered

variable (hcut : ∀ s t : Spot, s.ahead = t.ahead ++ w → Cut w (body s) (body' t))
  (hpass : ∀ s s', s' ∈ body s → ∃ text, s.Passes own text s')
  (hpass' : ∀ t t', t' ∈ body' t → ∃ text, t.Passes own' text t')

include hcut hpass in
theorem endsExactly_cut (count : Nat) (hahead : s.ahead = t.ahead ++ w) :
    Cut w (endsExactly body count s) (endsExactly body' count t) := by
  induction count generalizing s t with
  | zero => exact .keep hahead .nil
  | succ count ih =>
      refine (hcut s t hahead).flatMap (fun s₁ _ t₁ _ hahead₁ => ih hahead₁) ?_
      intro s₁ s' hmem
      obtain ⟨text, htext⟩ := endsExactly_passes hpass hmem
      exact htext.length_le

include hcut hpass hpass' in
theorem endsUpTo_cut (greedy : Bool) {count count' : Nat} (hahead : s.ahead = t.ahead ++ w)
    (hle : count' ≤ count) (hcount : count = count' ∨ t.ahead.length < count') :
    Cut w (endsUpTo greedy body count s) (endsUpTo greedy body' count' t) := by
  have hone (s t : Spot) (hahead : s.ahead = t.ahead ++ w) : Cut w [s] [t] := .keep hahead .nil
  induction count' generalizing count s t with
  | zero =>
      obtain rfl : count = 0 := by omega
      exact hone s t hahead
  | succ count' ih =>
      obtain ⟨count, rfl⟩ : ∃ more, count = more + 1 := ⟨count - 1, by omega⟩
      have hmore : Cut w
          ((body s).flatMap fun s₁ =>
            if s₁.offset = s.offset then [s₁] else endsUpTo greedy body count s₁)
          ((body' t).flatMap fun t₁ =>
            if t₁.offset = t.offset then [t₁] else endsUpTo greedy body' count' t₁) := by
        refine (hcut s t hahead).flatMap (fun s₁ hs₁ t₁ ht₁ hahead₁ => ?_) fun s₁ s' hmem => ?_
        · obtain ⟨text, htext⟩ := hpass s s₁ hs₁
          obtain ⟨text', htext'⟩ := hpass' t t₁ ht₁
          rcases Spot.round_cases htext htext' hahead hahead₁ with
            ⟨hstay, hstay'⟩ | ⟨hmoved, hmoved', htaken⟩
          · rw [if_pos hstay, if_pos hstay']
            exact hone s₁ t₁ hahead₁
          · rw [if_neg hmoved, if_neg hmoved']
            exact ih hahead₁ (by omega) (by omega)
        · split at hmem
          · exact Nat.le_of_eq (by rw [List.mem_singleton.mp hmem])
          · obtain ⟨text, htext⟩ := endsUpTo_passes hpass hmem
            exact htext.length_le
      simp only [endsUpTo]
      split
      · exact hmore.append (hone s t hahead)
      · exact (hone s t hahead).append hmore

include hcut hpass hpass' in
theorem repeats_cut (greedy : Bool) (least : Nat) (most : Option Nat)
    (hahead : s.ahead = t.ahead ++ w) :
    Cut w
      ((endsExactly body least s).flatMap fun s₁ =>
        endsUpTo greedy body (rounds least most s₁) s₁)
      ((endsExactly body' least t).flatMap fun t₁ =>
        endsUpTo greedy body' (rounds least most t₁) t₁) := by
  refine (endsExactly_cut hcut hpass least hahead).flatMap ?_ ?_
  · intro s₁ _ t₁ _ hahead₁
    obtain ⟨hle, hcount⟩ := Spot.rounds_of_cut hahead₁ least most
    exact endsUpTo_cut hcut hpass hpass' greedy hahead₁ hle hcount
  · intro s₁ s' hmem
    obtain ⟨text, htext⟩ := endsUpTo_passes hpass hmem
    exact htext.length_le

-- What is settled round by round is settled alike, if it ends before `w`.
include hcut hpass in
theorem firstExactly_cut (count : Nat) (hahead : s.ahead = t.ahead ++ w)
    (hfirst : firstExactly body count s = some s') (hkept : s'.ahead = p ++ w) :
    ∃ t', firstExactly body' count t = some t' ∧ t'.ahead = p := by
  induction count generalizing s t with
  | zero =>
      obtain rfl : s = s' := Option.some.inj hfirst
      exact ⟨t, rfl, Spot.ahead_eq hahead hkept⟩
  | succ count ih =>
      obtain ⟨s₁, hhead, hfirst⟩ := Option.bind_eq_some_iff.mp hfirst
      obtain ⟨text, htext⟩ := firstExactly_passes hpass hfirst
      obtain ⟨p₁, hkept₁⟩ := htext.exists_kept hkept
      obtain ⟨t₁, hhead', rfl⟩ := (hcut s t hahead).exists_head? hhead hkept₁
      obtain ⟨t', hfirst', hend⟩ := ih hkept₁ hfirst
      refine ⟨t', ?_, hend⟩
      rw [firstExactly, hhead', Option.bind_some, hfirst']

include hcut hpass hpass' in
theorem firstUpTo_cut {count count' : Nat} (hahead : s.ahead = t.ahead ++ w)
    (hle : count' ≤ count) (hcount : count = count' ∨ t.ahead.length < count')
    (hkept : (firstUpTo body count s).ahead = p ++ w) :
    (firstUpTo body' count' t).ahead = p := by
  induction count' generalizing count s t with
  | zero =>
      obtain rfl : count = 0 := by omega
      exact Spot.ahead_eq hahead hkept
  | succ count' ih =>
      obtain ⟨count, rfl⟩ : ∃ more, count = more + 1 := ⟨count - 1, by omega⟩
      simp only [firstUpTo] at hkept ⊢
      cases hhead : (body s).head? with
      | none =>
          have hhead' := (hcut s t hahead).head?_eq_none hhead
          simp only [hhead] at hkept
          simp only [hhead']
          exact Spot.ahead_eq hahead hkept
      | some s₁ =>
          simp only [hhead] at hkept
          obtain ⟨text, htext⟩ := hpass s s₁ (List.mem_of_head? hhead)
          obtain ⟨p₁, hkept₁⟩ : ∃ p₁, s₁.ahead = p₁ ++ w := by
            split at hkept
            · exact ⟨p, hkept⟩
            · obtain ⟨text', htext'⟩ := firstUpTo_passes hpass count s₁
              exact htext'.exists_kept hkept
          obtain ⟨t₁, hhead', rfl⟩ := (hcut s t hahead).exists_head? hhead hkept₁
          obtain ⟨text', htext'⟩ := hpass' t t₁ (List.mem_of_head? hhead')
          simp only [hhead']
          rcases Spot.round_cases htext htext' hahead hkept₁ with
            ⟨hstay, hstay'⟩ | ⟨hmoved, hmoved', htaken⟩
          · rw [if_pos hstay] at hkept
            rw [if_pos hstay']
            exact Spot.ahead_eq hkept₁ hkept
          · rw [if_neg hmoved] at hkept
            rw [if_neg hmoved']
            exact ih hkept₁ (by omega) (by omega) hkept

end Ordered

-- Each way of `ends` that does not reach into `w` is a way of `ends'` as well.
def Kept (w : List Char) (ends ends' : Ends) : Prop :=
  ∀ ⦃s t s' p⦄, s.ahead = t.ahead ++ w → s' ∈ ends s → s'.ahead = p ++ w →
    ∃ t' ∈ ends' t, t'.ahead = p

variable (hkeep : Kept w body body')
  (hpass : ∀ s s', s' ∈ body s → ∃ text, s.Passes own text s')
  (hpass' : ∀ t t', t' ∈ body' t → ∃ text, t.Passes own' text t')

include hkeep hpass in
theorem endsExactly_kept (count : Nat) :
    Kept w (endsExactly body count) (endsExactly body' count) := by
  induction count with
  | zero =>
      intro s t s' p hahead hmem hkept
      obtain rfl : s' = s := List.mem_singleton.mp hmem
      exact ⟨t, List.mem_singleton_self t, Spot.ahead_eq hahead hkept⟩
  | succ count ih =>
      intro s t s' p hahead hmem hkept
      obtain ⟨s₁, hfirst, hmem⟩ := List.mem_flatMap.mp hmem
      obtain ⟨text, htext⟩ := endsExactly_passes hpass hmem
      obtain ⟨p₁, hkept₁⟩ := htext.exists_kept hkept
      obtain ⟨t₁, hfirst', rfl⟩ := hkeep hahead hfirst hkept₁
      obtain ⟨t', hmem', hend⟩ := ih hkept₁ hmem hkept
      exact ⟨t', List.mem_flatMap.mpr ⟨t₁, hfirst', hmem'⟩, hend⟩

include hkeep hpass hpass' in
theorem exists_endsUpTo (greedy : Bool) {count count' : Nat} (hahead : s.ahead = t.ahead ++ w)
    (hle : count' ≤ count) (hcount : count = count' ∨ t.ahead.length < count')
    (hmem : s' ∈ endsUpTo greedy body count s) (hkept : s'.ahead = p ++ w) :
    ∃ t' ∈ endsUpTo greedy body' count' t, t'.ahead = p := by
  induction count' generalizing count s t with
  | zero =>
      obtain rfl : count = 0 := by omega
      obtain rfl : s' = s := List.mem_singleton.mp hmem
      exact ⟨t, List.mem_singleton_self t, Spot.ahead_eq hahead hkept⟩
  | succ count' ih =>
      obtain ⟨count, rfl⟩ : ∃ more, count = more + 1 := ⟨count - 1, by omega⟩
      rcases mem_endsUpTo_succ.mp hmem with rfl | ⟨s₁, hround, hmem⟩
      · refine ⟨t, mem_endsUpTo_succ.mpr (.inl rfl), ?_⟩
        exact Spot.ahead_eq hahead hkept
      · obtain ⟨text, htext⟩ := hpass s s₁ hround
        obtain ⟨p₁, hkept₁⟩ : ∃ p₁, s₁.ahead = p₁ ++ w := by
          split at hmem
          · exact ⟨p, hmem ▸ hkept⟩
          · obtain ⟨text', htext'⟩ := endsUpTo_passes hpass hmem
            exact htext'.exists_kept hkept
        obtain ⟨t₁, hround', rfl⟩ := hkeep hahead hround hkept₁
        obtain ⟨text', htext'⟩ := hpass' t t₁ hround'
        rcases Spot.round_cases htext htext' hahead hkept₁ with
          ⟨hstay, hstay'⟩ | ⟨hmoved, hmoved', htaken⟩
        · rw [if_pos hstay] at hmem
          refine ⟨t₁, mem_endsUpTo_succ.mpr (.inr ⟨t₁, hround', ?_⟩), ?_⟩
          · rw [if_pos hstay']
          · exact Spot.ahead_eq hkept₁ (hmem ▸ hkept)
        · rw [if_neg hmoved] at hmem
          obtain ⟨t', hmem', hend⟩ := ih hkept₁ (by omega) (by omega) hmem
          refine ⟨t', mem_endsUpTo_succ.mpr (.inr ⟨t₁, hround', ?_⟩), hend⟩
          rw [if_neg hmoved']
          exact hmem'

include hkeep hpass hpass' in
theorem repeats_kept (greedy : Bool) (least : Nat) (most : Option Nat) :
    Kept w
      (fun s => (endsExactly body least s).flatMap fun s₁ =>
        endsUpTo greedy body (rounds least most s₁) s₁)
      (fun t => (endsExactly body' least t).flatMap fun t₁ =>
        endsUpTo greedy body' (rounds least most t₁) t₁) := by
  intro s t s' p hahead hmem hkept
  obtain ⟨s₁, hleast, hmem⟩ := List.mem_flatMap.mp hmem
  obtain ⟨text, htext⟩ := endsUpTo_passes hpass hmem
  obtain ⟨p₁, hkept₁⟩ := htext.exists_kept hkept
  obtain ⟨t₁, hleast', rfl⟩ := endsExactly_kept hkeep hpass least hahead hleast hkept₁
  obtain ⟨hle, hcount⟩ := Spot.rounds_of_cut hkept₁ least most
  obtain ⟨t', hmem', hend⟩ := exists_endsUpTo hkeep hpass hpass' greedy hkept₁ hle hcount hmem hkept
  exact ⟨t', List.mem_flatMap.mpr ⟨t₁, hleast', hmem'⟩, hend⟩

end Repetition

namespace Node

variable {shift count : Nat} {mode mode' : Flags} {node body : Node}

-- What is left ahead by a pattern without parts that are settled by their first way.
theorem Moved.cut_ends (h : Moved shift count mode mode' node body) (hmode : mode = mode')
    (hself : node.selfContained true = true) (hahead : s.ahead = t.ahead ++ w) :
    Cut w (body.ends s) (node.ends t) := by
  induction h generalizing s t with
  | empty => exact .keep hahead .nil
  | @one m m' atom =>
      subst hmode
      simp only [ends, Spot.step?, hahead]
      cases t.ahead with
      | nil =>
          rw [List.nil_append]
          cases w with
          | nil => exact .nil
          | cons c w =>
              dsimp only
              split
              · exact .drop (Nat.lt_succ_self _) .nil
              · exact .nil
      | cons c cs =>
          rw [List.cons_append]
          dsimp only
          split
          · exact .keep rfl .nil
          · exact .nil
  | anchor kind => cases hself
  | backref index width width' => cases hself
  | @seq m m' first first' second second' _ _ ih ih' =>
      rw [selfContained, Bool.and_eq_true] at hself
      refine (ih hmode hself.1 hahead).flatMap ?_ fun s₁ s' hmem => ?_
      · intro s₁ _ t₁ _ hahead₁
        exact ih' hmode hself.2 hahead₁
      · obtain ⟨text, htext⟩ := ends_passes hmem
        exact htext.length_le
  | alt _ _ ih ih' =>
      rw [selfContained, Bool.and_eq_true] at hself
      exact (ih hmode hself.1 hahead).append (ih' hmode hself.2 hahead)
  | flagged added removed _ ih => exact ih (hmode ▸ rfl) hself hahead
  | capture index _ _ _ ih =>
      have hahead₀ : (s.begin (shift + index)).ahead = (t.begin index).ahead ++ w := hahead
      exact (ih hmode hself hahead₀).map (fun _ => rfl) fun _ => rfl
  | atomic => cases hself
  | @repeats m m' alone inner greed least most _ ih =>
      have hround (hinner : alone.selfContained true = true) (s t : Spot)
          (hahead : s.ahead = t.ahead ++ w) : Cut w (inner.ends s) (alone.ends t) :=
        ih hmode hinner hahead
      cases greed with
      | greedy =>
          exact repeats_cut (hround hself) (fun _ _ => ends_passes) (fun _ _ => ends_passes) true
            least most hahead
      | lazy =>
          exact repeats_cut (hround hself) (fun _ _ => ends_passes) (fun _ _ => ends_passes) false
            least most hahead
      | possessive => cases hself
  | look behind negated => cases hself
  | choose index => cases hself

-- A way of the pattern inside a longer text is a way of the pattern alone.
theorem Moved.kept_ends (h : Moved shift count mode mode' node body) (hmode : mode = mode')
    (hself : node.selfContained false = true) : Kept w body.ends node.ends := by
  induction h with
  | @empty m m' =>
      intro s t s' p hahead hmem hkept
      have hmoved : Moved shift count m m' .empty .empty := .empty
      exact (hmoved.cut_ends hmode rfl hahead).exists_mem hmem hkept
  | @one m m' atom =>
      intro s t s' p hahead hmem hkept
      have hmoved : Moved shift count m m' (.one m atom) (.one m' atom) := .one atom
      exact (hmoved.cut_ends hmode rfl hahead).exists_mem hmem hkept
  | anchor kind => cases hself
  | backref index width width' => cases hself
  | @seq m m' first first' second second' _ _ ih ih' =>
      rw [selfContained, Bool.and_eq_true] at hself
      intro s t s' p hahead hmem hkept
      obtain ⟨s₁, hfirst, hsecond⟩ := List.mem_flatMap.mp hmem
      obtain ⟨text, htext⟩ := ends_passes hsecond
      obtain ⟨p₁, hkept₁⟩ := htext.exists_kept hkept
      obtain ⟨t₁, hfirst', rfl⟩ := ih hmode hself.1 hahead hfirst hkept₁
      obtain ⟨t', hsecond', hend⟩ := ih' hmode hself.2 hkept₁ hsecond hkept
      exact ⟨t', List.mem_flatMap.mpr ⟨t₁, hfirst', hsecond'⟩, hend⟩
  | alt _ _ ih ih' =>
      rw [selfContained, Bool.and_eq_true] at hself
      intro s t s' p hahead hmem hkept
      rcases List.mem_append.mp hmem with hfirst | hsecond
      · obtain ⟨t', hfirst', hend⟩ := ih hmode hself.1 hahead hfirst hkept
        exact ⟨t', List.mem_append_left _ hfirst', hend⟩
      · obtain ⟨t', hsecond', hend⟩ := ih' hmode hself.2 hahead hsecond hkept
        exact ⟨t', List.mem_append_right _ hsecond', hend⟩
  | flagged added removed _ ih => exact ih (hmode ▸ rfl) hself
  | capture index _ _ _ ih =>
      intro s t s' p hahead hmem hkept
      obtain ⟨s₁, hbody, rfl⟩ := List.mem_map.mp hmem
      have hahead₀ : (s.begin (shift + index)).ahead = (t.begin index).ahead ++ w := hahead
      have hkept₁ : s₁.ahead = p ++ w := hkept
      obtain ⟨t₁, hbody', hend⟩ := ih hmode hself hahead₀ hbody hkept₁
      exact ⟨t₁.finish index, List.mem_map_of_mem hbody', hend⟩
  | atomic hbody _ =>
      intro s t s' p hahead hmem hkept
      have hhead := Option.mem_toList.mp hmem
      obtain ⟨t', hhead', hend⟩ := (hbody.cut_ends hmode hself hahead).exists_head? hhead hkept
      exact ⟨t', Option.mem_toList.mpr hhead', hend⟩
  | @repeats m m' alone inner greed least most hbody ih =>
      cases greed with
      | greedy =>
          exact repeats_kept (ih hmode hself) (fun _ _ => ends_passes) (fun _ _ => ends_passes)
            true least most
      | lazy =>
          exact repeats_kept (ih hmode hself) (fun _ _ => ends_passes) (fun _ _ => ends_passes)
            false least most
      | possessive =>
          intro s t s' p hahead hmem hkept
          have hround (s t : Spot) (hahead : s.ahead = t.ahead ++ w) :
              Cut w (inner.ends s) (alone.ends t) := hbody.cut_ends hmode hself hahead
          obtain ⟨s₁, hleast, rfl⟩ := Option.map_eq_some_iff.mp (Option.mem_toList.mp hmem)
          obtain ⟨text, htext⟩ := firstUpTo_passes (fun _ _ => ends_passes) _ s₁
          obtain ⟨p₁, hkept₁⟩ := htext.exists_kept hkept
          obtain ⟨t₁, hleast', rfl⟩ := firstExactly_cut hround (fun _ _ => ends_passes) least
            hahead hleast hkept₁
          obtain ⟨hle, hcount⟩ := Spot.rounds_of_cut hkept₁ least most
          have hend := firstUpTo_cut hround (fun _ _ => ends_passes) (fun _ _ => ends_passes)
            hkept₁ hle hcount hkept
          refine ⟨_, Option.mem_toList.mpr ?_, hend⟩
          simp only [hleast', Option.map_some]
  | look behind negated => cases hself
  | choose index => cases hself

end Node

end Signpost.Regex
