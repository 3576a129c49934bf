import Signpost.Proofs.Regex.Passage
import Signpost.Regex.Reading

namespace Signpost.Regex

-- Whether a node, however it matches, takes the group `index`.
def Node.binds (index : Nat) : Node → Bool
  | .seq first second =>
      second.binds index || (first.binds index && !second.groups.contains index)
  | .alt first second => first.binds index && second.binds index
  | .flagged body => body.binds index
  | .capture own body =>
      if own = index then !body.groups.contains index else body.binds index
  | .atomic body => body.binds index
  | .repeats _ least _ body => 0 < least && body.binds index
  | .look _ negated body => !negated && body.binds index
  | .choose _ present absent => present.binds index && absent.binds index
  | .empty | .one _ _ | .anchor _ _ | .backref _ _ _ => false

section Repetition

variable {p : Spot → Prop} {body : Ends} {s s' : Spot}

-- What every round brings about holds after one or more rounds.
theorem endsExactly_of_round (h : ∀ s s', s' ∈ body s → p s') {count : Nat} (hpos : 0 < count)
    (hmem : s' ∈ endsExactly body count s) : p s' := by
  induction count generalizing s with
  | zero => exact absurd hpos (Nat.lt_irrefl 0)
  | succ count ih =>
      obtain ⟨s₁, hfirst, hmem⟩ := List.mem_flatMap.mp hmem
      cases count with
      | zero =>
          obtain rfl : s' = s₁ := List.mem_singleton.mp hmem
          exact h s s' hfirst
      | succ count => exact ih (Nat.succ_pos count) hmem

theorem endsUpTo_of_round (h : ∀ s s', s' ∈ body s → p s') (hstart : p s) {greedy : Bool}
    {count : Nat} (hmem : s' ∈ endsUpTo greedy body count s) : p s' := by
  induction count generalizing s with
  | zero => exact List.mem_singleton.mp hmem ▸ hstart
  | succ count ih =>
      rcases mem_endsUpTo_succ.mp hmem with rfl | ⟨s₁, hfirst, hmem⟩
      · exact hstart
      · have hround : p s₁ := h s s₁ hfirst
        split at hmem
        · exact hmem ▸ hround
        · exact ih hround hmem

theorem firstExactly_of_round (h : ∀ s s', s' ∈ body s → p s') {count : Nat} (hpos : 0 < count)
    (hfirst : firstExactly body count s = some s') : p s' := by
  induction count generalizing s with
  | zero => exact absurd hpos (Nat.lt_irrefl 0)
  | succ count ih =>
      obtain ⟨s₁, hhead, hfirst⟩ := Option.bind_eq_some_iff.mp hfirst
      cases count with
      | zero =>
          obtain rfl : s₁ = s' := Option.some.inj hfirst
          exact h s s₁ (List.mem_of_head? hhead)
      | succ count => exact ih (Nat.succ_pos count) hfirst

theorem firstUpTo_of_round (h : ∀ s s', s' ∈ body s → p s') (hstart : p s) (count : Nat) :
    p (firstUpTo body count s) := by
  induction count generalizing s with
  | zero => exact hstart
  | succ count ih =>
      simp only [firstUpTo]
      split
      · exact hstart
      next s₁ hhead =>
        have hround : p s₁ := h s s₁ (List.mem_of_head? hhead)
        split
        · exact hround
        · exact ih hround

end Repetition

namespace Node

variable {index : Nat} {node : Node} {s s' : Spot}

theorem exists_span (h : node.binds index = true) (hend : s' ∈ node.ends s) :
    ∃ span, s'.span? index = some span := by
  induction node generalizing s s' with
  | empty => simp [binds] at h
  | one mode atom => simp [binds] at h
  | anchor mode kind => simp [binds] at h
  | backref mode own width => simp [binds] at h
  | seq first second ih ih' =>
      obtain ⟨s₁, hfirst, hsecond⟩ := List.mem_flatMap.mp hend
      rw [binds, Bool.or_eq_true, Bool.and_eq_true] at h
      rcases h with hbinds | ⟨hbinds, hfresh⟩
      · exact ih' hbinds hsecond
      · obtain ⟨span, hspan⟩ := ih hbinds hfirst
        obtain ⟨text, hpass⟩ := ends_passes hsecond
        have hnot : index ∉ second.groups := by simpa using hfresh
        exact ⟨span, (hpass.span? hnot).trans hspan⟩
  | alt first second ih ih' =>
      rw [binds, Bool.and_eq_true] at h
      rcases List.mem_append.mp hend with hfirst | hsecond
      · exact ih h.1 hfirst
      · exact ih' h.2 hsecond
  | flagged body ih => exact ih h hend
  | capture own body ih =>
      obtain ⟨s₁, hbody, rfl⟩ := List.mem_map.mp hend
      rw [binds] at h
      split at h
      next hown =>
        subst hown
        obtain ⟨text, hpass⟩ := ends_passes hbody
        have hnot : own ∉ body.groups := by simpa using h
        have hcaptured := Spot.captured?_finish hpass hnot
        rw [Spot.captured?, Option.map_eq_some_iff] at hcaptured
        obtain ⟨span, hspan, -⟩ := hcaptured
        exact ⟨span, hspan⟩
      next hown =>
        obtain ⟨span, hspan⟩ := ih h hbody
        have hnot : index ∉ [own] := by simpa using Ne.symm hown
        exact ⟨span, ((Spot.passes_finish s₁ own).span? hnot).trans hspan⟩
  | atomic body ih => exact ih h (List.mem_of_head? (Option.mem_toList.mp hend))
  | repeats greed least most body ih =>
      rw [binds, Bool.and_eq_true, decide_eq_true_eq] at h
      obtain ⟨hpos, hbinds⟩ := h
      have hround : ∀ s s', s' ∈ body.ends s → ∃ span, s'.span? index = some span :=
        fun _ _ => ih hbinds
      cases greed with
      | greedy =>
          obtain ⟨s₁, hleast, hrest⟩ := List.mem_flatMap.mp hend
          exact endsUpTo_of_round hround (endsExactly_of_round hround hpos hleast) hrest
      | lazy =>
          obtain ⟨s₁, hleast, hrest⟩ := List.mem_flatMap.mp hend
          exact endsUpTo_of_round hround (endsExactly_of_round hround hpos hleast) hrest
      | possessive =>
          obtain ⟨s₁, hleast, rfl⟩ := Option.map_eq_some_iff.mp (Option.mem_toList.mp hend)
          exact firstUpTo_of_round hround (firstExactly_of_round hround hpos hleast) _
  | look behind negated body ih =>
      cases negated with
      | true => simp [binds] at h
      | false =>
          -- the marks of what was looked at stay, though the spot does not move
          simp only [ends] at hend
          obtain ⟨s₁, hfound, rfl⟩ := Option.map_eq_some_iff.mp (Option.mem_toList.mp hend)
          obtain ⟨s₂, -, hbody⟩ := Option.bind_eq_some_iff.mp hfound
          obtain ⟨span, hspan⟩ := ih (by simpa [binds] using h) (List.mem_of_head? hbody)
          exact ⟨span, hspan⟩
  | choose own present absent ih ih' =>
      rw [binds, Bool.and_eq_true] at h
      simp only [ends] at hend
      split at hend
      · exact ih h.1 hend
      · exact ih' h.2 hend

theorem exists_captured (h : node.binds index = true) (hend : s' ∈ node.ends s) :
    ∃ value, s'.captured? index = some value := by
  obtain ⟨span, hspan⟩ := exists_span h hend
  rw [Spot.captured?, hspan]
  exact ⟨_, rfl⟩

theorem groups_ofRow (row : List Node) : (ofRow row).groups = row.flatMap Node.groups := by
  induction row with
  | nil => rfl
  | cons node row ih => rw [ofRow, Node.groups, ih, List.flatMap_cons]

-- A row takes a group that one of its nodes takes and no later one begins again.
theorem binds_ofRow {before after : List Node} (hnode : node.binds index = true)
    (hafter : ∀ later ∈ after, index ∉ later.groups) :
    (ofRow (before ++ node :: after)).binds index = true := by
  induction before with
  | nil =>
      have hnot : index ∉ (ofRow after).groups := by
        rw [groups_ofRow, List.mem_flatMap]
        rintro ⟨later, hlater, hin⟩
        exact hafter later hlater hin
      rw [List.nil_append, ofRow, binds, hnode]
      simp [hnot]
  | cons first before ih => rw [List.cons_append, ofRow, binds, ih, Bool.true_or]

end Node

-- Nodes of which one takes the group `index` and no later one begins it again.
def Keeps (index : Nat) (nodes : List Node) : Prop :=
  ∃ before node after, nodes = before ++ node :: after ∧ node.binds index = true ∧
    ∀ later ∈ after, index ∉ later.groups

-- A row keeps a group if a quantifier behind the row could not undo it.
structure Row.Keeps (row : Row) (index : Nat) : Prop where
  done : Regex.Keeps index row.done
  last : ∀ node ∈ (row.last.map Piece.nodes).getD [], index ∉ node.groups

section Keeping

variable {index : Nat} {own more : List Node} {row : Row} {piece : Piece}

theorem Keeps.append (h : Keeps index own) (hmore : ∀ node ∈ more, index ∉ node.groups) :
    Keeps index (own ++ more) := by
  obtain ⟨before, node, after, rfl, hbinds, hafter⟩ := h
  refine ⟨before, node, after ++ more, by simp, hbinds, fun later hlater => ?_⟩
  rcases List.mem_append.mp hlater with hin | hin
  · exact hafter later hin
  · exact hmore later hin

theorem Keeps.binds (h : Keeps index own) : (Node.ofRow own).binds index = true := by
  obtain ⟨before, node, after, rfl, hbinds, hafter⟩ := h
  exact Node.binds_ofRow hbinds hafter

theorem Row.Keeps.nodes (h : row.Keeps index) : Regex.Keeps index row.nodes :=
  h.done.append h.last

theorem Row.Keeps.push (h : row.Keeps index) (hpiece : ∀ node ∈ piece.nodes, index ∉ node.groups) :
    (row.push piece).Keeps index :=
  ⟨h.nodes, hpiece⟩

end Keeping

end Signpost.Regex
