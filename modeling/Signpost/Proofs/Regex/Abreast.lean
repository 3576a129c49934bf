import Signpost.Proofs.Regex.Reading

namespace Signpost.Regex.Reading

variable {r r' r₁ r₁' : Reading} {lexeme : Lexeme} {before after : Nat}

-- The same groups are open and the same are closed, and the same is known of them.
structure Abreast (r r' : Reading) : Prop where
  scope : r.level.scope = r'.level.scope
  outer : r.outer.map Level.scope = r'.outer.map Level.scope
  widths : r.widths.map Option.isSome = r'.widths.map Option.isSome
  names : r.names = r'.names
  behind : r.behind = r'.behind
  asked : r.asked = r'.asked

theorem abreast_start (flags flags' : Flags) : Abreast (start flags) (start flags') :=
  ⟨rfl, rfl, rfl, rfl, rfl, rfl⟩

namespace Abreast

theorem length_widths (h : Abreast r r') : r.widths.length = r'.widths.length := by
  have hlength := congrArg List.length h.widths
  rwa [List.length_map, List.length_map] at hlength

theorem push (h : Abreast r r') (piece piece' : Piece) :
    Abreast (r.push piece) (r'.push piece') :=
  ⟨h.scope, h.outer, h.widths, h.names, h.behind, h.asked⟩

theorem enter (h : Abreast r r') (scope : Scope) (mode mode' : Flags) (mark mark' : Nat) :
    Abreast (r.enter scope mode mark) (r'.enter scope mode' mark') := by
  refine ⟨rfl, ?_, h.widths, h.names, h.behind, h.asked⟩
  simp only [Reading.enter, List.map_cons, h.scope, h.outer]

theorem index? (h : Abreast r r') (name : String) : r.index? name = r'.index? name := by
  rw [Reading.index?, h.names, Reading.index?]

theorem width? (h : Abreast r r') (index : Nat) :
    (r.width? index).map Option.isSome = (r'.width? index).map Option.isSome := by
  unfold Reading.width?
  split
  · rfl
  · rw [← List.getElem?_map, ← List.getElem?_map, h.widths]

-- A width that is known on one side is known on the other.
theorem exists_width (h : Abreast r r') {index : Nat} {width : Width}
    (hwidth : r.width? index = some (some width)) :
    ∃ width', r'.width? index = some (some width') := by
  have hsome := h.width? index
  rw [hwidth] at hsome
  obtain ⟨known, hknown, hsome⟩ := Option.map_eq_some_iff.mp hsome.symm
  obtain ⟨width', rfl⟩ := Option.isSome_iff_exists.mp hsome
  exact ⟨width', hknown⟩

theorem checkBehind (h : Abreast r r') {index : Nat}
    (hcheck : r.checkBehind index after = .ok ()) : r'.checkBehind index after = .ok () := by
  unfold Reading.checkBehind at hcheck ⊢
  rw [← h.behind]
  cases hbehind : r.behind with
  | none => rfl
  | some first =>
      rw [hbehind] at hcheck
      dsimp only at hcheck ⊢
      split at hcheck
      next width hwidth =>
        obtain ⟨width', hwidth'⟩ := h.exists_width hwidth
        rw [hwidth']
        exact hcheck
      · cases hcheck

theorem pushBackref (h : Abreast r r') {index offset : Nat}
    (hstep : r.pushBackref index after offset = .ok r₁) :
    ∃ r₁', r'.pushBackref index after offset = .ok r₁' ∧ Abreast r₁ r₁' := by
  unfold Reading.pushBackref at hstep ⊢
  split at hstep
  next width hwidth =>
    obtain ⟨width', hwidth'⟩ := h.exists_width hwidth
    obtain ⟨⟨⟩, hcheck, hstep⟩ := Except.bind_eq_ok.mp hstep
    rw [hwidth']
    dsimp only
    rw [h.checkBehind hcheck, Except.bind_ok, ← Except.ok.inj hstep]
    exact ⟨_, rfl, h.push _ _⟩
  · cases hstep

-- A quantifier asks for something to repeat, and not what it is.
theorem pushQuantifier (h : Abreast r r')
    (hlast : r.level.row.last.map (·.repeatable?.isSome) =
      r'.level.row.last.map (·.repeatable?.isSome))
    {greed : Greed} {least : Nat} {most : Option Nat}
    (hstep : r.pushQuantifier greed least most before after = .ok r₁) :
    ∃ r₁', r'.pushQuantifier greed least most before after = .ok r₁' ∧ Abreast r₁ r₁' := by
  cases step_of_pushQuantifier hstep with
  | quantifier _ _ _ node found =>
      obtain ⟨piece, hpiece, hnode⟩ := Option.bind_eq_some_iff.mp found
      rw [hpiece, Option.map_some, hnode] at hlast
      obtain ⟨piece', hpiece', hsome⟩ := Option.map_eq_some_iff.mp hlast.symm
      have hrepeated (body : Node) : Abreast (r.repeatLast (.repeats greed least most node))
          (r'.repeatLast (.repeats greed least most body)) :=
        ⟨h.scope, h.outer, h.widths, h.names, h.behind, h.asked⟩
      unfold Reading.pushQuantifier
      rw [hpiece']
      cases piece' with
      | fixed node' => cases hsome
      | counted node' => cases hsome
      | part node' => exact ⟨_, rfl, hrepeated node'⟩
      | bare row => exact ⟨_, rfl, hrepeated (Node.ofRow row)⟩

theorem openCapture (h : Abreast r r') {name : Option String}
    (hstep : r.openCapture name before after = .ok r₁) :
    ∃ r₁', r'.openCapture name before after = .ok r₁' ∧ Abreast r₁ r₁' := by
  have hwidths : (r.widths ++ [none]).map Option.isSome =
      (r'.widths ++ [none]).map Option.isSome := by
    rw [List.map_append, List.map_append, h.widths]
  have hopened : Abreast { r with widths := r.widths ++ [none] }
      { r' with widths := r'.widths ++ [none] } :=
    ⟨h.scope, h.outer, hwidths, h.names, h.behind, h.asked⟩
  unfold Reading.openCapture at hstep ⊢
  rw [h.length_widths] at hstep
  cases name with
  | none =>
      rw [← Except.ok.inj hstep]
      exact ⟨_, rfl, hopened.enter _ _ _ _ _⟩
  | some name =>
      dsimp only at hstep ⊢
      rw [h.index? name] at hstep
      split at hstep
      · cases hstep
      · rw [← Except.ok.inj hstep, h.names]
        have hentered := hopened.enter (.capture (r'.widths.length + 1)) r.level.mode
          r'.level.mode before before
        exact ⟨_, rfl, hentered.scope, hentered.outer, hwidths, rfl, h.behind, h.asked⟩

theorem openChoice (h : Abreast r r') {condition : Condition}
    (hstep : r.openChoice condition before after = .ok r₁) :
    ∃ r₁', r'.openChoice condition before after = .ok r₁' ∧ Abreast r₁ r₁' := by
  unfold Reading.openChoice at hstep ⊢
  cases condition with
  | named name =>
      dsimp only at hstep ⊢
      rw [h.index? name] at hstep
      split at hstep
      · cases hstep
      · obtain ⟨⟨⟩, hcheck, hstep⟩ := Except.bind_eq_ok.mp hstep
        rw [h.checkBehind hcheck, Except.bind_ok, ← Except.ok.inj hstep]
        exact ⟨_, rfl, h.enter _ _ _ _ _⟩
  | numbered index length =>
      obtain ⟨⟨⟩, hcheck, hstep⟩ := Except.bind_eq_ok.mp hstep
      dsimp only at hstep ⊢
      rw [h.checkBehind hcheck, Except.bind_ok, ← Except.ok.inj hstep, h.asked]
      generalize (if r'.asked.any (·.1 == index) then r'.asked
        else r'.asked ++ [(index, after + length + 1)]) = asked
      have hasked : Abreast { r with asked } { r' with asked } :=
        ⟨h.scope, h.outer, h.widths, h.names, h.behind, rfl⟩
      exact ⟨_, rfl, hasked.enter _ _ _ _ _⟩

theorem openGroup (h : Abreast r r') {opening : Opening}
    (hstep : r.openGroup opening before after = .ok r₁) :
    ∃ r₁', r'.openGroup opening before after = .ok r₁' ∧ Abreast r₁ r₁' := by
  cases opening with
  | capture name => exact h.openCapture hstep
  | choose condition => exact h.openChoice hstep
  | bare => exact Except.ok.inj hstep ▸ ⟨_, rfl, h.enter _ _ _ _ _⟩
  | flagged added removed => exact Except.ok.inj hstep ▸ ⟨_, rfl, h.enter _ _ _ _ _⟩
  | atomic => exact Except.ok.inj hstep ▸ ⟨_, rfl, h.enter _ _ _ _ _⟩
  | look behind negated =>
      have hstep := Except.ok.inj hstep
      rw [h.behind, h.length_widths] at hstep
      refine ⟨_, rfl, ?_⟩
      rw [← hstep]
      split
      · have hbehind : Abreast { r with behind := some r'.widths.length }
            { r' with behind := some r'.widths.length } :=
          ⟨h.scope, h.outer, h.widths, h.names, rfl, h.asked⟩
        exact hbehind.enter _ _ _ _ _
      · exact h.enter _ _ _ _ _

theorem bar (h : Abreast r r')
    (hchoices : r.level.choices.isEmpty = r'.level.choices.isEmpty)
    (hstep : r.bar before = .ok r₁) :
    ∃ r₁', r'.bar before = .ok r₁' ∧ Abreast r₁ r₁' := by
  unfold Reading.bar at hstep ⊢
  rw [h.scope] at hstep
  split at hstep
  · cases hstep
  next hfree =>
    have hstep := Except.ok.inj hstep
    split
    next index row rows hscope hrows =>
      -- only a second bar of a condition is refused, and this is not one
      rw [hrows, List.isEmpty_cons] at hchoices
      obtain ⟨row', rows', hrows'⟩ := List.exists_cons_of_ne_nil
        (fun hnil => by simp [hnil] at hchoices : r.level.choices ≠ [])
      exact (hfree index row' rows' hscope hrows').elim
    · refine ⟨_, rfl, ?_⟩
      rw [← hstep]
      exact ⟨h.scope, h.outer, h.widths, h.names, h.behind, h.asked⟩

theorem close (h : Abreast r r') (hstep : r.close before = .ok r₁) :
    ∃ r₁', r'.close before = .ok r₁' ∧ Abreast r₁ r₁' := by
  unfold Reading.close at hstep ⊢
  split at hstep
  · obtain ⟨_, _, hstep⟩ := Except.bind_eq_ok.mp hstep
    cases hstep
  next parent outer hopen =>
    have houter := h.outer
    rw [hopen, List.map_cons] at houter
    obtain ⟨parent', outer', hopen', hparent, houter⟩ := List.map_eq_cons_iff.mp houter.symm
    rw [hopen']
    dsimp only at hstep ⊢
    rw [h.scope] at hstep
    split at hstep
    · rw [← Except.ok.inj hstep]
      refine ⟨_, rfl, hparent.symm, houter.symm, ?_, h.names, h.behind, h.asked⟩
      rw [List.map_set, List.map_set, h.widths]
      rfl
    · rw [← Except.ok.inj hstep]
      exact ⟨_, rfl, hparent.symm, houter.symm, h.widths, h.names, rfl, h.asked⟩
    · rw [← Except.ok.inj hstep]
      exact ⟨_, rfl, hparent.symm, houter.symm, h.widths, h.names, h.behind, h.asked⟩

-- Flags for the whole pattern are left aside: they change what is read after them.
theorem step (h : Abreast r r')
    (hchoices : r.level.choices.isEmpty = r'.level.choices.isEmpty)
    (hlast : r.level.row.last.map (·.repeatable?.isSome) =
      r'.level.row.last.map (·.repeatable?.isSome))
    (hflags : ∀ added, lexeme ≠ .flags added) (hstep : r.step lexeme before after = .ok r₁) :
    ∃ r₁', r'.step lexeme before after = .ok r₁' ∧ Abreast r₁ r₁' := by
  cases lexeme with
  | blank => exact Except.ok.inj hstep ▸ ⟨_, rfl, h⟩
  | atom atom => exact Except.ok.inj hstep ▸ ⟨_, rfl, h.push _ _⟩
  | anchor kind => exact Except.ok.inj hstep ▸ ⟨_, rfl, h.push _ _⟩
  | backref index digits =>
      simp only [Reading.step, h.length_widths] at hstep ⊢
      split at hstep
      next hle =>
        rw [if_pos hle]
        exact h.pushBackref hstep
      · cases hstep
  | namedBackref name =>
      simp only [Reading.step, h.index? name] at hstep ⊢
      split at hstep
      · exact h.pushBackref hstep
      · cases hstep
  | quantifier greed least most => exact h.pushQuantifier hlast hstep
  | opening opening => exact h.openGroup hstep
  | bar => exact h.bar hchoices hstep
  | closing => exact h.close hstep
  | flags added => exact (hflags added rfl).elim

end Abreast

end Signpost.Regex.Reading
