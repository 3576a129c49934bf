import Signpost.Proofs.Regex.Ends
import Signpost.Proofs.Regex.Moved

namespace Signpost.Regex

-- The groups that a node may mark.
def Node.groups : Node → List Nat
  | .empty | .one _ _ | .anchor _ _ | .backref _ _ _ => []
  | .seq first second => first.groups ++ second.groups
  | .alt first second => first.groups ++ second.groups
  | .flagged body => body.groups
  | .capture index body => index :: body.groups
  | .atomic body => body.groups
  | .repeats _ _ _ body => body.groups
  | .look _ _ body => body.groups
  | .choose _ present absent => present.groups ++ absent.groups

-- From `s` to `s'` by way of `text`, with marks for `groups` alone.
structure Spot.Passes (groups : List Nat) (s : Spot) (text : List Char) (s' : Spot) : Prop where
  behind : s'.behind = text.reverse ++ s.behind
  ahead : s.ahead = text ++ s'.ahead
  begun : ∀ index ∉ groups, s'.begun.lookup index = s.begun.lookup index
  ended : ∀ index ∉ groups, s'.ended.lookup index = s.ended.lookup index

namespace Spot

variable {groups more : List Nat} {s s' s'' : Spot} {text text' : List Char} {index : Nat}

theorem Passes.refl (groups : List Nat) (s : Spot) : Passes groups s [] s :=
  ⟨rfl, rfl, fun _ _ => rfl, fun _ _ => rfl⟩

theorem Passes.trans (h : Passes groups s text s') (h' : Passes groups s' text' s'') :
    Passes groups s (text ++ text') s'' where
  behind := by rw [h'.behind, h.behind, List.reverse_append, List.append_assoc]
  ahead := by rw [h.ahead, h'.ahead, List.append_assoc]
  begun index hindex := (h'.begun index hindex).trans (h.begun index hindex)
  ended index hindex := (h'.ended index hindex).trans (h.ended index hindex)

theorem Passes.mono (h : Passes groups s text s') (hsub : groups ⊆ more) :
    Passes more s text s' where
  behind := h.behind
  ahead := h.ahead
  begun index hindex := h.begun index fun hin => hindex (hsub hin)
  ended index hindex := h.ended index fun hin => hindex (hsub hin)

theorem Passes.offset (h : Passes groups s text s') : s'.offset = s.offset + text.length := by
  simp [Spot.offset, h.behind, Nat.add_comm]

theorem Passes.subject (h : Passes groups s text s') : s'.subject = s.subject := by
  simp [Spot.subject, h.behind, h.ahead]

theorem Passes.span? (h : Passes groups s text s') (hindex : index ∉ groups) :
    s'.span? index = s.span? index := by
  rw [Spot.span?, h.begun index hindex, h.ended index hindex, Spot.span?]

-- What a group took stays as it is while other groups are matched.
theorem Passes.captured? (h : Passes groups s text s') (hindex : index ∉ groups) :
    s'.captured? index = s.captured? index := by
  rw [Spot.captured?, h.span? hindex, h.subject, Spot.captured?]

theorem passes_begin (s : Spot) (index : Nat) : Passes [index] s [] (s.begin index) where
  behind := rfl
  ahead := rfl
  begun other hother := by
    have hne : (other == index) = false := by simpa using hother
    simp [Spot.begin, List.lookup_cons, hne]
  ended _ _ := rfl

theorem passes_finish (s : Spot) (index : Nat) : Passes [index] s [] (s.finish index) where
  behind := rfl
  ahead := rfl
  begun _ _ := rfl
  ended other hother := by
    have hne : (other == index) = false := by simpa using hother
    simp [Spot.finish, List.lookup_cons, hne]

theorem passes_capture (h : Passes groups (s.begin index) text s') :
    Passes (index :: groups) s text (s'.finish index) := by
  have hindex : [index] ⊆ index :: groups := by simp
  have hpass := ((s.passes_begin index).mono hindex).trans
    ((h.mono (List.subset_cons_self _ _)).trans ((s'.passes_finish index).mono hindex))
  rwa [List.nil_append, List.append_nil] at hpass

theorem passes_step? {accepts : Char → Bool} (h : s.step? accepts = some s') :
    ∃ c, accepts c = true ∧ Passes [] s [c] s' := by
  unfold Spot.step? at h
  split at h
  · simp at h
  next c ahead hahead =>
    split at h
    next hc =>
      rw [← Option.some.inj h]
      exact ⟨c, hc, rfl, hahead, fun _ _ => rfl, fun _ _ => rfl⟩
    · simp at h

theorem passes_follow? {mode : Flags} {cs : List Char} (h : s.follow? mode cs = some s') :
    ∃ text, Passes [] s text s' := by
  induction cs generalizing s with
  | nil => exact ⟨[], Option.some.inj h ▸ Passes.refl [] s⟩
  | cons c cs ih =>
      obtain ⟨s₁, hstep, h⟩ := Option.bind_eq_some_iff.mp h
      obtain ⟨c', _, hstep⟩ := passes_step? hstep
      obtain ⟨text, htext⟩ := ih h
      exact ⟨[c'] ++ text, hstep.trans htext⟩

theorem marks_of_back? {count : Nat} (h : s.back? count = some s') :
    s'.begun = s.begun ∧ s'.ended = s.ended := by
  unfold Spot.back? at h
  split at h
  · rw [← Option.some.inj h]
    exact ⟨rfl, rfl⟩
  · simp at h

-- A group took what lies between the spots where it began and where it ended.
theorem captured?_finish (h : Passes groups (s.begin index) text s') (hindex : index ∉ groups) :
    (s'.finish index).captured? index = some text := by
  have hbegun : s'.begun.lookup index = some s.offset := by
    rw [h.begun index hindex]
    simp [Spot.begin]
  have hoffset : s'.offset = s.offset + text.length := h.offset
  have hsubject : s'.subject = s.behind.reverse ++ (text ++ s'.ahead) := by
    rw [h.subject]
    exact congrArg (s.behind.reverse ++ ·) h.ahead
  have hspan : (s'.finish index).span? index = some (s.offset, s'.offset) := by
    simp [Spot.span?, Spot.finish, hbegun, hoffset]
  rw [Spot.captured?, hspan, Option.map_some, Option.some.injEq]
  change (s'.subject.drop s.offset).take (s'.offset - s.offset) = text
  have hdrop : s'.subject.drop s.offset = text ++ s'.ahead := by
    rw [hsubject]
    exact List.drop_left' List.length_reverse
  rw [hdrop, hoffset, Nat.add_sub_cancel_left]
  exact List.take_left' rfl

end Spot

section Repetition

variable {groups : List Nat} {body : Ends} {s s' : Spot}

theorem endsExactly_passes (h : ∀ s s', s' ∈ body s → ∃ text, s.Passes groups text s')
    {count : Nat} (hmem : s' ∈ endsExactly body count s) : ∃ text, s.Passes groups text s' := by
  induction count generalizing s with
  | zero => exact ⟨[], List.mem_singleton.mp hmem ▸ .refl groups s⟩
  | succ count ih =>
      obtain ⟨s₁, hfirst, hmem⟩ := List.mem_flatMap.mp hmem
      obtain ⟨text, htext⟩ := h s s₁ hfirst
      obtain ⟨text', htext'⟩ := ih hmem
      exact ⟨text ++ text', htext.trans htext'⟩

theorem endsUpTo_passes (h : ∀ s s', s' ∈ body s → ∃ text, s.Passes groups text s')
    {greedy : Bool} {count : Nat} (hmem : s' ∈ endsUpTo greedy body count s) :
    ∃ text, s.Passes groups text s' := by
  induction count generalizing s with
  | zero => exact ⟨[], List.mem_singleton.mp hmem ▸ .refl groups s⟩
  | succ count ih =>
      rcases mem_endsUpTo_succ.mp hmem with rfl | ⟨s₁, hfirst, hmem⟩
      · exact ⟨[], .refl groups s'⟩
      · obtain ⟨text, htext⟩ := h s s₁ hfirst
        split at hmem
        · exact ⟨text, hmem ▸ htext⟩
        · obtain ⟨text', htext'⟩ := ih hmem
          exact ⟨text ++ text', htext.trans htext'⟩

theorem firstExactly_passes (h : ∀ s s', s' ∈ body s → ∃ text, s.Passes groups text s')
    {count : Nat} (hfirst : firstExactly body count s = some s') :
    ∃ text, s.Passes groups text s' := by
  induction count generalizing s with
  | zero => exact ⟨[], Option.some.inj hfirst ▸ .refl groups s⟩
  | succ count ih =>
      obtain ⟨s₁, hhead, hfirst⟩ := Option.bind_eq_some_iff.mp hfirst
      obtain ⟨text, htext⟩ := h s s₁ (List.mem_of_head? hhead)
      obtain ⟨text', htext'⟩ := ih hfirst
      exact ⟨text ++ text', htext.trans htext'⟩

theorem firstUpTo_passes (h : ∀ s s', s' ∈ body s → ∃ text, s.Passes groups text s')
    (count : Nat) (s : Spot) : ∃ text, s.Passes groups text (firstUpTo body count s) := by
  induction count generalizing s with
  | zero => exact ⟨[], .refl groups s⟩
  | succ count ih =>
      simp only [firstUpTo]
      split
      · exact ⟨[], .refl groups s⟩
      next s₁ hhead =>
        obtain ⟨text, htext⟩ := h s s₁ (List.mem_of_head? hhead)
        split
        · exact ⟨text, htext⟩
        · obtain ⟨text', htext'⟩ := ih s₁
          exact ⟨text ++ text', htext.trans htext'⟩

end Repetition

namespace Node

-- Whatever a node does, it only moves on and marks its own groups.
theorem ends_passes {node : Node} {s s' : Spot} (h : s' ∈ node.ends s) :
    ∃ text, s.Passes node.groups text s' := by
  induction node generalizing s s' with
  | empty => exact ⟨[], List.mem_singleton.mp h ▸ .refl [] s⟩
  | one mode atom =>
      obtain ⟨c, _, hpass⟩ := Spot.passes_step? (Option.mem_toList.mp h)
      exact ⟨[c], hpass⟩
  | anchor mode kind =>
      simp only [ends] at h
      split at h
      · exact ⟨[], List.mem_singleton.mp h ▸ .refl [] s⟩
      · simp at h
  | backref mode index width =>
      obtain ⟨cs, _, hfollow⟩ := Option.bind_eq_some_iff.mp (Option.mem_toList.mp h)
      exact Spot.passes_follow? hfollow
  | seq first second ih ih' =>
      obtain ⟨s₁, hfirst, hsecond⟩ := List.mem_flatMap.mp h
      obtain ⟨text, htext⟩ := ih hfirst
      obtain ⟨text', htext'⟩ := ih' hsecond
      refine ⟨text ++ text', ?_⟩
      exact (htext.mono (List.subset_append_left _ _)).trans
        (htext'.mono (List.subset_append_right _ _))
  | alt first second ih ih' =>
      rcases List.mem_append.mp h with hfirst | hsecond
      · obtain ⟨text, htext⟩ := ih hfirst
        exact ⟨text, htext.mono (List.subset_append_left _ _)⟩
      · obtain ⟨text, htext⟩ := ih' hsecond
        exact ⟨text, htext.mono (List.subset_append_right _ _)⟩
  | flagged body ih => exact ih h
  | capture index body ih =>
      obtain ⟨s₁, hbody, rfl⟩ := List.mem_map.mp h
      obtain ⟨text, htext⟩ := ih hbody
      exact ⟨text, Spot.passes_capture htext⟩
  | atomic body ih => exact ih (List.mem_of_head? (Option.mem_toList.mp h))
  | repeats greed least most body ih =>
      have hbody : ∀ s s', s' ∈ body.ends s → ∃ text, s.Passes body.groups text s' :=
        fun _ _ => ih
      cases greed with
      | greedy =>
          obtain ⟨s₁, hleast, hrest⟩ := List.mem_flatMap.mp h
          obtain ⟨text, htext⟩ := endsExactly_passes hbody hleast
          obtain ⟨text', htext'⟩ := endsUpTo_passes hbody hrest
          exact ⟨text ++ text', htext.trans htext'⟩
      | lazy =>
          obtain ⟨s₁, hleast, hrest⟩ := List.mem_flatMap.mp h
          obtain ⟨text, htext⟩ := endsExactly_passes hbody hleast
          obtain ⟨text', htext'⟩ := endsUpTo_passes hbody hrest
          exact ⟨text ++ text', htext.trans htext'⟩
      | possessive =>
          obtain ⟨s₁, hleast, rfl⟩ := Option.map_eq_some_iff.mp (Option.mem_toList.mp h)
          obtain ⟨text, htext⟩ := firstExactly_passes hbody hleast
          obtain ⟨text', htext'⟩ := firstUpTo_passes hbody (rounds least most s₁) s₁
          exact ⟨text ++ text', htext.trans htext'⟩
  | look behind negated body ih =>
      simp only [ends] at h
      generalize hfound : (s.back? _).bind _ = found at h
      cases negated with
      | true =>
          cases found with
          | none =>
              obtain rfl : s' = s := List.mem_singleton.mp h
              exact ⟨[], .refl _ s'⟩
          | some _ => simp at h
      | false =>
          obtain ⟨s₁, rfl, rfl⟩ := Option.map_eq_some_iff.mp (Option.mem_toList.mp h)
          obtain ⟨s₂, hback, hfound⟩ := Option.bind_eq_some_iff.mp hfound
          obtain ⟨text, htext⟩ := ih (List.mem_of_head? hfound)
          -- looking back moves the spot but keeps its marks
          obtain ⟨hbegun, hended⟩ := Spot.marks_of_back? hback
          refine ⟨[], rfl, rfl, fun index hindex => ?_, fun index hindex => ?_⟩
          · exact hbegun ▸ htext.begun index hindex
          · exact hended ▸ htext.ended index hindex
  | choose index present absent ih ih' =>
      simp only [ends] at h
      split at h
      · obtain ⟨text, htext⟩ := ih h
        exact ⟨text, htext.mono (List.subset_append_left _ _)⟩
      · obtain ⟨text, htext⟩ := ih' h
        exact ⟨text, htext.mono (List.subset_append_right _ _)⟩

-- The groups of a moved node lie behind those that stand before it.
theorem Moved.groups {shift groups : Nat} {m m' : Flags} {node node' : Node}
    (h : Moved shift groups m m' node node') :
    ∀ index ∈ node'.groups, shift < index ∧ index ≤ shift + groups := by
  induction h with
  | empty => simp [Node.groups]
  | one => simp [Node.groups]
  | anchor => simp [Node.groups]
  | backref => simp [Node.groups]
  | seq _ _ ih ih' => exact fun index h => (List.mem_append.mp h).elim (ih index) (ih' index)
  | alt _ _ ih ih' => exact fun index h => (List.mem_append.mp h).elim (ih index) (ih' index)
  | flagged _ _ _ ih => exact ih
  | capture own hpos hle _ ih =>
      intro index hindex
      rcases List.mem_cons.mp hindex with rfl | hindex
      · omega
      · exact ih index hindex
  | atomic _ ih => exact ih
  | repeats _ _ _ _ ih => exact ih
  | look _ _ _ ih => exact ih
  | choose _ _ _ ih ih' => exact fun index h => (List.mem_append.mp h).elim (ih index) (ih' index)

end Node

end Signpost.Regex
