import Signpost.Proofs.Regex.Abreast
import Signpost.Proofs.Regex.Moved
import Signpost.Regex

namespace Signpost.Regex

variable {shift groups : Nat} {m m' : Flags}

inductive Piece.Moved (shift groups : Nat) (m m' : Flags) : Piece → Piece → Prop
  | fixed {node node' : Node} (h : Node.Moved shift groups m m' node node') :
      Moved shift groups m m' (.fixed node) (.fixed node')
  | part {node node' : Node} (h : Node.Moved shift groups m m' node node') :
      Moved shift groups m m' (.part node) (.part node')
  | counted {node node' : Node} (h : Node.Moved shift groups m m' node node') :
      Moved shift groups m m' (.counted node) (.counted node')
  | bare {row row' : List Node} (h : List.Forall₂ (Node.Moved shift groups m m') row row') :
      Moved shift groups m m' (.bare row) (.bare row')

structure Row.Moved (shift groups : Nat) (m m' : Flags) (row row' : Row) : Prop where
  done : List.Forall₂ (Node.Moved shift groups m m') row.done row'.done
  last : Option.Rel (Piece.Moved shift groups m m') row.last row'.last

-- The two levels are read the same way, and what was read on them so far is the same.
structure Level.Moved (shift groups : Nat) (level level' : Level) : Prop where
  verbose : level.mode.verbose = level'.mode.verbose
  choices : List.Forall₂ (List.Forall₂ (Node.Moved shift groups level.mode level'.mode))
    level.choices level'.choices
  row : Row.Moved shift groups level.mode level'.mode level.row level'.row

-- What a group makes of the flags `m` and `m'` around it.
inductive Scope.Moved (shift groups : Nat) (m m' : Flags) :
    Scope → Flags → Scope → Flags → Prop
  | capture (index : Nat) (hpos : 0 < index) (hle : index ≤ groups) :
      Moved shift groups m m' (.capture index) m (.capture (shift + index)) m'
  | bare : Moved shift groups m m' .bare m .bare m'
  | flagged (added removed : Flags) :
      Moved shift groups m m' .flagged (m.adjust added removed)
        .flagged (m'.adjust added removed)
  | atomic : Moved shift groups m m' .atomic m .atomic m'
  | look (behind negated outermost outermost' : Bool) :
      Moved shift groups m m' (.look behind negated outermost) m
        (.look behind negated outermost') m'
  | choose (index : Nat) : Moved shift groups m m' (.choose index) m (.choose index) m'

-- The levels of a pattern that is read alone, from the innermost to the whole, and the levels
-- of the same pattern inside the group `shift`, which go on with `base`.
inductive Stacked (shift groups : Nat) (m m' : Flags) (base : List Level) :
    Level → List Level → Level → List Level → Prop
  | whole {level level' : Level} (hmode : level.mode = m) (hmode' : level'.mode = m')
      (hscope' : level'.scope = .capture shift) (h : Level.Moved shift groups level level') :
      Stacked shift groups m m' base level [] level' base
  | nested {level level' parent parent' : Level} {outer outer' : List Level}
      (hbelow : Stacked shift groups m m' base parent outer parent' outer')
      (hscope : Scope.Moved shift groups parent.mode parent'.mode level.scope level.mode
        level'.scope level'.mode) (h : Level.Moved shift groups level level') :
      Stacked shift groups m m' base level (parent :: outer) level' (parent' :: outer')

-- The readings of a pattern without names, alone and inside the group.
structure Reading.Inside (shift groups : Nat) (m m' : Flags) (base : List Level)
    (names : List (String × Nat)) (r r' : Reading) : Prop where
  stacked : Stacked shift groups m m' base r.level r.outer r'.level r'.outer
  widths : r'.widths.length = shift + r.widths.length
  names : r'.names = names

theorem Row.Moved.nodes {row row' : Row} (h : Row.Moved shift groups m m' row row') :
    List.Forall₂ (Node.Moved shift groups m m') row.nodes row'.nodes := by
  obtain ⟨done, last⟩ := row
  obtain ⟨done', last'⟩ := row'
  obtain ⟨hdone, hlast⟩ := h
  refine List.rel_append hdone ?_
  cases hlast with
  | none => exact .nil
  | some hpiece =>
      cases hpiece with
      | fixed h => exact .cons h .nil
      | part h => exact .cons h .nil
      | counted h => exact .cons h .nil
      | bare h => exact h

theorem Row.moved_empty : Row.Moved shift groups m m' {} {} := ⟨.nil, .none⟩

theorem Row.Moved.push {row row' : Row} {piece piece' : Piece}
    (h : Row.Moved shift groups m m' row row')
    (hpiece : Piece.Moved shift groups m m' piece piece') :
    Row.Moved shift groups m m' (row.push piece) (row'.push piece') :=
  ⟨h.nodes, .some hpiece⟩

theorem Level.Moved.rows {level level' : Level} (h : Level.Moved shift groups level level') :
    List.Forall₂ (List.Forall₂ (Node.Moved shift groups level.mode level'.mode))
      level.rows level'.rows :=
  List.rel_append h.choices (.cons h.row.nodes .nil)

theorem Level.Moved.isEmpty_choices {level level' : Level}
    (h : Level.Moved shift groups level level') :
    level.choices.isEmpty = level'.choices.isEmpty := by
  rw [Bool.eq_iff_iff, List.isEmpty_iff_length_eq_zero, List.isEmpty_iff_length_eq_zero,
    h.choices.length_eq]

-- A quantifier may follow on both levels or on none.
theorem Level.Moved.last_repeatable? {level level' : Level}
    (h : Level.Moved shift groups level level') :
    level.row.last.map (·.repeatable?.isSome) = level'.row.last.map (·.repeatable?.isSome) := by
  have hlast := h.row.last
  generalize level.row.last = last at hlast ⊢
  generalize level'.row.last = last' at hlast ⊢
  cases hlast with
  | none => rfl
  | some hpiece => cases hpiece <;> rfl

-- A group that closes is moved as a part of the level around it.
theorem Level.Moved.piece {level level' : Level} (h : Level.Moved shift groups level level')
    (hscope : Scope.Moved shift groups m m' level.scope level.mode level'.scope level'.mode) :
    Piece.Moved shift groups m m' level.piece level'.piece := by
  obtain ⟨scope, mode, mark, choices, row⟩ := level
  obtain ⟨scope', mode', mark', choices', row'⟩ := level'
  have hrows := h.rows
  have hnodes := Node.moved_ofRows hrows
  cases hscope with
  | capture index hpos hle => exact .part (.capture index hpos hle (Node.moved_ofRow hnodes))
  | bare => exact .bare hnodes
  | flagged added removed =>
      exact .part (.flagged added removed (Node.moved_ofRow hnodes))
  | atomic => exact .part (.atomic (Node.moved_ofRow hnodes))
  | look behind negated _ _ => exact .part (.look behind negated (Node.moved_ofRow hnodes))
  | choose index =>
      unfold Level.piece
      dsimp only at hrows ⊢
      generalize Level.rows _ = rows at hrows ⊢
      generalize Level.rows _ = rows' at hrows ⊢
      cases hrows with
      | nil => exact .part (.choose index .empty .empty)
      | cons hpresent hrows =>
          cases hrows with
          | nil =>
              refine .part (.choose index (Node.moved_ofRow ?_) .empty)
              exact List.rel_flatten (.cons hpresent .nil)
          | cons habsent _ =>
              exact .part (.choose index (Node.moved_ofRow hpresent) (Node.moved_ofRow habsent))

theorem verbose_adjust (flags added removed : Flags) :
    (flags.adjust added removed).verbose =
      ((flags.verbose || added.verbose) && !removed.verbose) := by
  unfold Flags.adjust
  split <;> simp [Flags.union, Flags.diff, Flags.alphabet, Flags.inter, Flags.zipWith]

section Stacked

variable {base outer outer' : List Level} {level level' : Level}

theorem Stacked.moved (h : Stacked shift groups m m' base level outer level' outer') :
    Level.Moved shift groups level level' := by
  cases h with
  | whole _ _ _ h => exact h
  | nested _ _ h => exact h

theorem Stacked.outer_ne_nil (h : Stacked shift groups m m' base level outer level' outer')
    (hbase : base ≠ []) : outer' ≠ [] := by
  cases h with
  | whole => exact hbase
  | nested => exact List.cons_ne_nil _ _

-- What is read on the innermost level does not touch the levels around it.
theorem Stacked.rewrite {choices choices' : List (List Node)} {row row' : Row}
    (h : Stacked shift groups m m' base level outer level' outer')
    (hchoices : List.Forall₂ (List.Forall₂ (Node.Moved shift groups level.mode level'.mode))
      choices choices')
    (hrow : Row.Moved shift groups level.mode level'.mode row row') :
    Stacked shift groups m m' base { level with choices, row } outer
      { level' with choices := choices', row := row' } outer' := by
  have hmoved : Level.Moved shift groups { level with choices, row }
      { level' with choices := choices', row := row' } := ⟨h.moved.verbose, hchoices, hrow⟩
  cases h with
  | whole hmode hmode' hscope' _ => exact .whole hmode hmode' hscope' hmoved
  | nested hbelow hscope _ => exact .nested hbelow hscope hmoved

theorem Stacked.push {piece piece' : Piece}
    (h : Stacked shift groups m m' base level outer level' outer')
    (hpiece : Piece.Moved shift groups level.mode level'.mode piece piece') :
    Stacked shift groups m m' base (level.push piece) outer (level'.push piece') outer' :=
  h.rewrite h.moved.choices (h.moved.row.push hpiece)

theorem Stacked.enter {scope scope' : Scope} {mode mode' : Flags} (mark mark' : Nat)
    (h : Stacked shift groups m m' base level outer level' outer')
    (hscope : Scope.Moved shift groups level.mode level'.mode scope mode scope' mode') :
    Stacked shift groups m m' base { scope, mode, mark } (level :: outer)
      { scope := scope', mode := mode', mark := mark' } (level' :: outer') := by
  have hverbose : mode.verbose = mode'.verbose := by
    cases hscope with
    | flagged added removed => rw [verbose_adjust, verbose_adjust, h.moved.verbose]
    | _ => exact h.moved.verbose
  exact .nested h hscope ⟨hverbose, .nil, Row.moved_empty⟩

-- What closes a group alone closes the same group inside, and never the one around the pattern.
theorem Stacked.close {parent : Level} {parents : List Level}
    (h : Stacked shift groups m m' base level (parent :: parents) level' outer') :
    ∃ parent' parents', outer' = parent' :: parents' ∧
      Stacked shift groups m m' base (parent.push level.piece) parents
        (parent'.push level'.piece) parents' := by
  cases h with
  | nested hbelow hscope hmoved =>
      exact ⟨_, _, rfl, hbelow.push (hmoved.piece hscope)⟩

end Stacked

namespace Reading

variable {base : List Level} {names : List (String × Nat)} {lexeme : Lexeme}
  {r r' r₁ r₁' : Reading}

theorem repeatable?_moved {last last' : Option Piece} {node node' : Node}
    (h : Option.Rel (Piece.Moved shift groups m m') last last')
    (hnode : last.bind Piece.repeatable? = some node)
    (hnode' : last'.bind Piece.repeatable? = some node') :
    Node.Moved shift groups m m' node node' := by
  cases h with
  | none => simp at hnode
  | some hpiece =>
      cases hpiece with
      | fixed => simp [Piece.repeatable?] at hnode
      | counted => simp [Piece.repeatable?] at hnode
      | part h =>
          simp only [Option.bind_some, Piece.repeatable?, Option.some.injEq] at hnode hnode'
          exact hnode ▸ hnode' ▸ h
      | bare h =>
          simp only [Option.bind_some, Piece.repeatable?, Option.some.injEq] at hnode hnode'
          exact hnode ▸ hnode' ▸ Node.moved_ofRow h

-- One lexeme keeps the two readings together, if the pattern has no names and its groups are
-- counted.
theorem Inside.step (h : Inside shift groups m m' base names r r') (hbase : base ≠ [])
    (hstep : Step r lexeme r₁) (hstep' : Step r' lexeme r₁') (hnames : r₁.names = [])
    (hgroups : r₁.widths.length ≤ groups) : Inside shift groups m m' base names r₁ r₁' := by
  obtain ⟨hstacked, hwidths, hnames'⟩ := h
  have hmoved := hstacked.moved
  cases hstep with
  | blank =>
      cases hstep'
      exact ⟨hstacked, hwidths, hnames'⟩
  | atom atom =>
      cases hstep'
      exact ⟨hstacked.push (.part (.one atom)), hwidths, hnames'⟩
  | anchor kind =>
      cases hstep'
      exact ⟨hstacked.push (.fixed (.anchor kind)), hwidths, hnames'⟩
  | backref index digits width =>
      cases hstep' with
      | backref _ _ width' =>
          exact ⟨hstacked.push (.part (.backref index width width')), hwidths, hnames'⟩
  | namedBackref name index width found => simp [index?, show r.names = [] from hnames] at found
  | quantifier greed least most node found =>
      cases hstep' with
      | quantifier _ _ _ node' found' =>
          have hnode := repeatable?_moved hmoved.row.last found found'
          refine ⟨hstacked.rewrite hmoved.choices ?_, hwidths, hnames'⟩
          exact ⟨hmoved.row.done, .some (.counted (.repeats greed least most hnode))⟩
  | capture name mark =>
      cases hstep' with
      | capture _ mark' =>
          cases name with
          | some name => simp [enter] at hnames
          | none =>
              have hle : r.widths.length + 1 ≤ groups := by simpa [enter] using hgroups
              have hindex : r'.widths.length + 1 = shift + (r.widths.length + 1) := by omega
              have hscope : Scope.Moved shift groups r.level.mode r'.level.mode
                  (.capture (r.widths.length + 1)) r.level.mode
                  (.capture (r'.widths.length + 1)) r'.level.mode :=
                hindex ▸ .capture _ (Nat.succ_pos _) hle
              refine ⟨hstacked.enter mark mark' hscope, ?_, ?_⟩
              · simp only [enter, List.length_append, List.length_singleton]
                omega
              · simpa [enter] using hnames'
  | bare mark =>
      cases hstep' with
      | bare mark' => exact ⟨hstacked.enter mark mark' .bare, hwidths, hnames'⟩
  | flagged added removed mark =>
      cases hstep' with
      | flagged _ _ mark' =>
          exact ⟨hstacked.enter mark mark' (.flagged added removed), hwidths, hnames'⟩
  | atomic mark =>
      cases hstep' with
      | atomic mark' => exact ⟨hstacked.enter mark mark' .atomic, hwidths, hnames'⟩
  | look behind negated outermost before mark =>
      cases hstep' with
      | look _ _ outermost' before' mark' =>
          exact ⟨hstacked.enter mark mark' (.look behind negated outermost outermost'), hwidths,
            hnames'⟩
  | chooseNamed name index mark found =>
      simp [index?, show r.names = [] from hnames] at found
  | chooseNumbered index length asked mark =>
      cases hstep' with
      | chooseNumbered _ _ asked' mark' =>
          exact ⟨hstacked.enter mark mark' (.choose index), hwidths, hnames'⟩
  | bar =>
      cases hstep'
      exact ⟨hstacked.rewrite hmoved.rows Row.moved_empty, hwidths, hnames'⟩
  | closing parent outer widths before hopen hlength =>
      cases hstep' with
      | closing parent' outer' widths' before' hopen' hlength' =>
          rw [hopen] at hstacked
          obtain ⟨parent'', outer'', houter, hclosed⟩ := hstacked.close
          rw [hopen', List.cons.injEq] at houter
          obtain ⟨rfl, rfl⟩ := houter
          exact ⟨hclosed, by simp only [hlength, hlength', hwidths], hnames'⟩
  | flags added hwhole =>
      cases hstep' with
      | flags _ hwhole' => exact absurd hwhole' (hstacked.outer_ne_nil hbase)

-- A comment that runs to the end of a line could run past the group, but a pattern that ends in
-- one is read with the flags of a group that is still open.
theorem Inside.rest_ne_nil {final : Reading} {rest : List Token} {before after : Nat}
    (h : Inside shift groups m m' base names r r') (hplain : m.verbose = false)
    (hclosed : final.outer = []) (hstep : r.step lexeme before after = .ok r₁)
    (hrest : r₁.read 0 rest = .ok final) :
    lexeme = .blank → r.level.mode.verbose = true → rest ≠ [] := by
  rintro rfl hverbose rfl
  rw [read_nil] at hrest
  have hr : r = final := (Except.ok.inj hstep).trans (Except.ok.inj hrest)
  have hstacked := h.stacked
  rw [hr, hclosed] at hstacked
  cases hstacked with
  | whole hmode _ _ _ => simp [hr, hmode, hplain] at hverbose

-- The whole pattern. What is inside the group could also have been read alone under other flags.
theorem Inside.read {final found other : Reading} {ts more : List Token} {own : Flags}
    (h : Inside shift groups m m' base names r r') (hbase : base ≠ [])
    (hother : Inside shift groups own m' base names other r') (habreast : Abreast r other)
    (hplain : m.verbose = false) (halone : r.read 0 ts = .ok final) (hclosed : final.outer = [])
    (hnames : final.names = []) (hgroups : final.widths.length ≤ groups)
    (hread : r'.read 0 (ts ++ .plain ')' :: more) = .ok found) :
    ∃ r₁' final', Inside shift groups m m' base names final r₁' ∧
      r₁'.read 0 (.plain ')' :: more) = .ok found ∧ other.read 0 ts = .ok final' ∧
      Inside shift groups own m' base names final' r₁' ∧ Abreast final final' ∧
      final'.flags = other.flags := by
  induction halone using read_induction generalizing r' other with
  | done => exact ⟨r', other, h, hread, read_nil other 0, hother, habreast, rfl⟩
  | step r t ts lexeme rest r₁ _ halone₁ hscan hstep ih =>
      obtain ⟨hwidths₁, hfront⟩ := grown_of_read halone₁
      have hnames₁ : r₁.names = [] := List.prefix_nil.mp (hnames ▸ hfront)
      have hgroups₁ : r₁.widths.length ≤ groups := Nat.le_trans hwidths₁ hgroups
      have hline := h.rest_ne_nil hplain hclosed hstep halone₁
      rw [List.cons_append] at hread
      obtain ⟨lexeme', rest', r₁', hscan', hstep', hread'⟩ := read_cons_eq_ok.mp hread
      have hmoved := h.stacked.moved
      rw [← hmoved.verbose, (takes_scan hscan hline).closed] at hscan'
      simp only [Except.ok.injEq, Prod.mk.injEq] at hscan'
      obtain ⟨rfl, rfl⟩ := hscan'
      have hlexeme := (step_of_step hstep').ne_flags (h.stacked.outer_ne_nil hbase)
      have h₁ := h.step hbase (step_of_step hstep) (step_of_step hstep') hnames₁ hgroups₁
      -- the same lexeme under the other flags
      have hmovedOther := hother.stacked.moved
      have hscanOther : scan other.level.mode.verbose t ts = .ok (lexeme, rest) := by
        rw [hmovedOther.verbose, ← hmoved.verbose, hscan]
      obtain ⟨other₁, hstepOther, habreast₁⟩ := habreast.step
        (hmoved.isEmpty_choices.trans hmovedOther.isEmpty_choices.symm)
        (hmoved.last_repeatable?.trans hmovedOther.last_repeatable?.symm) hlexeme hstep
      have hother₁ := hother.step hbase (step_of_step hstepOther) (step_of_step hstep')
        (habreast₁.names.symm.trans hnames₁) (habreast₁.length_widths ▸ hgroups₁)
      obtain ⟨r₂', final', hfinal, hread', hreadOther, hinside, hlast, hflags⟩ :=
        ih h₁ hother₁ habreast₁ hread'
      refine ⟨r₂', final', hfinal, hread', ?_, hinside, hlast, ?_⟩
      · rw [read_cons hscanOther, hstepOther, Except.bind_ok, hreadOther]
      · rw [hflags, (step_of_step hstepOther).flags_eq hlexeme]

-- With no group of its own left open, the pattern is all that the group holds so far.
theorem Inside.whole (h : Inside shift groups m m' base names r r') (hclosed : r.outer = []) :
    r'.level.mode = m' ∧ r'.level.scope = .capture shift ∧ r'.outer = base ∧
      Node.Moved shift groups m m' (Node.ofRow (Node.ofRows r.level.mode r.level.rows))
        (Node.ofRow (Node.ofRows r'.level.mode r'.level.rows)) := by
  obtain ⟨hstacked, -, -⟩ := h
  have hrows := Node.moved_ofRow (Node.moved_ofRows hstacked.moved.rows)
  rw [hclosed] at hstacked
  generalize r'.level = level' at hstacked hrows ⊢
  generalize r'.outer = outer' at hstacked ⊢
  cases hstacked with
  | whole hmode hmode' hscope _ => exact ⟨hmode', hscope, rfl, by rwa [hmode, hmode'] at hrows ⊢⟩

-- A reading that has come to its end gives the rows of the whole pattern.
theorem finish_eq_ok (houter : r.outer = []) (hascii : r.flags.ascii = false)
    (hasked : r.asked.find? (r.widths.length < ·.1) = none) :
    r.finish = .ok (Node.ofRows r.level.mode r.level.rows) := by
  have halphabet : r.checkAlphabet 0 = .ok () := by simp [checkAlphabet, hascii]
  simp only [finish, houter, halphabet, Except.bind_ok, hasked]
  rfl

end Reading

-- What a pattern that compiles was read as.
theorem read_of_compile {text : String} {flags : Flags} {regex : Regex}
    (h : compile text flags = .ok regex) :
    dangles text.toList = false ∧ ∃ final,
      (Reading.start flags).read 0 (tokens text.toList) = .ok final ∧ final.outer = [] ∧
      final.asked.find? (final.widths.length < ·.1) = none ∧
      regex.node = Node.ofRow (Node.ofRows final.level.mode final.level.rows) ∧
      regex.groups = final.widths.length ∧ regex.names = final.names := by
  obtain ⟨⟨final, nodes⟩, hread, h⟩ := Except.bind_eq_ok.mp h
  have hregex : regex.node = Node.ofRow nodes ∧ regex.groups = final.widths.length ∧
      regex.names = final.names := by
    dsimp only at h
    split at h
    · simp at h
    · simp only [pure, Except.pure, Except.ok.injEq] at h
      exact h ▸ ⟨rfl, rfl, rfl⟩
  unfold readTokens at hread
  dsimp only at hread
  split at hread
  · split at hread <;> simp at hread
  next found hfound =>
    split at hread
    · simp at hread
    next hdangles =>
      rw [Except.ok.injEq] at hread
      obtain ⟨r, hr, hfound⟩ := Except.bind_eq_ok.mp hfound
      obtain ⟨nodes', hfinish, hfound⟩ := Except.bind_eq_ok.mp hfound
      simp only [pure, Except.pure, Except.ok.injEq] at hfound
      rw [← hfound, Prod.mk.injEq] at hread
      obtain ⟨rfl, rfl⟩ := hread
      refine ⟨by simpa using hdangles, r, hr, ?_⟩
      unfold Reading.finish at hfinish
      split at hfinish
      · simp at hfinish
      next houter =>
        obtain ⟨_, _, hfinish⟩ := Except.bind_eq_ok.mp hfinish
        split at hfinish
        · simp at hfinish
        next hasked =>
          simp only [pure, Except.pure, Except.ok.injEq] at hfinish
          rw [← hfinish] at hregex
          exact ⟨houter, hasked, hregex⟩

-- No two groups of a pattern have one name.
theorem nodup_names_of_compile {text : String} {flags : Flags} {regex : Regex}
    (h : compile text flags = .ok regex) : (regex.names.map Prod.fst).Nodup := by
  obtain ⟨-, final, hread, -, -, -, -, hnames⟩ := read_of_compile h
  have hstart : ((Reading.start flags).names.map Prod.fst).Nodup := List.nodup_nil
  rw [hnames]
  exact Reading.nodup_names_of_read hstart hread

-- And what was read to its end compiles, unless a look behind or a repetition forbids it.
theorem compile_of_finish {text : String} {flags : Flags} {final : Reading} {nodes : List Node}
    (hdangles : dangles text.toList = false)
    (hread : (Reading.start flags).read 0 (tokens text.toList) = .ok final)
    (hfinish : final.finish = .ok nodes)
    (hcheck : (Node.ofRow nodes).check final.flags.template = .ok ()) :
    ∃ regex, compile text flags = .ok regex ∧ regex.node = Node.ofRow nodes ∧
      regex.names = final.names := by
  have htokens : readTokens text.toList flags = .ok (final, nodes) := by
    simp [readTokens, hread, hfinish, hdangles, pure, Except.pure]
  simp only [compile, htokens, Except.bind_ok, hcheck]
  exact ⟨_, rfl, rfl, rfl⟩

-- The pattern `text`, which compiles to `regex`, is the body of the group `shift`. The flags
-- around the group would have let it be read alone as well, to the same node but for the numbers
-- of its groups.
structure Embeds (text : String) (regex : Regex) (shift : Nat) (mode : Flags) (body : Node) :
    Prop where
  moved : Node.Moved shift regex.groups {} mode regex.node body
  alone : ∃ final, (Reading.start mode).read 0 (tokens text.toList) = .ok final ∧
    final.outer = [] ∧ final.flags = mode ∧
    final.asked.find? (final.widths.length < ·.1) = none ∧
    Node.Moved shift regex.groups mode mode
      (Node.ofRow (Node.ofRows final.level.mode final.level.rows)) body

-- A pattern without names that compiles alone is, inside a capturing group, that group's body.
-- The group ends at the parenthesis after the pattern and has the groups of the pattern in it.
theorem read_group {text : String} {regex : Regex} {r found : Reading} {parent : Level}
    {outer : List Level} {mark : Nat} {more : List Token} (h : compile text {} = .ok regex)
    (hnames : regex.names = []) (hlevel : r.level = { scope := .capture shift, mode := m', mark })
    (hplain : m'.verbose = false) (houter : r.outer = parent :: outer)
    (hwidths : r.widths.length = shift)
    (hread : r.read 0 (tokens text.toList ++ .plain ')' :: more) = .ok found) :
    ∃ (body : Node) (r₁ : Reading), Embeds text regex shift m' body ∧
      r₁.read 0 more = .ok found ∧ r₁.level = parent.push (.part (.capture shift body)) ∧
      r₁.outer = outer ∧ r₁.widths.length = shift + regex.groups ∧ r₁.names = r.names := by
  obtain ⟨-, final, halone, hclosed, hasked, hnode, hgroups, hfinal⟩ := read_of_compile h
  have hstart (own : Flags) (hown : own.verbose = false) : Reading.Inside shift regex.groups own
      m' (parent :: outer) r.names (Reading.start own) r := by
    refine ⟨?_, by simp [hwidths, Reading.start], rfl⟩
    rw [hlevel, houter]
    exact .whole rfl rfl rfl ⟨hown.trans hplain.symm, .nil, Row.moved_empty⟩
  obtain ⟨r₁, final', hinside, hread₁, halone', hinside', habreast, hflags⟩ :=
    (hstart {} rfl).read (List.cons_ne_nil _ _) (hstart m' hplain) (Reading.abreast_start _ _) rfl
      halone hclosed (hfinal ▸ hnames) (Nat.le_of_eq hgroups.symm) hread
  have hclosed' : final'.outer = [] := by
    have houters := habreast.outer
    rw [hclosed] at houters
    exact List.map_eq_nil_iff.mp houters.symm
  have hasked' : final'.asked.find? (final'.widths.length < ·.1) = none := by
    rw [← habreast.asked, ← habreast.length_widths]
    exact hasked
  obtain ⟨hmode, hscope, hbase, hmoved⟩ := hinside.whole hclosed
  obtain ⟨-, -, -, hmoved'⟩ := hinside'.whole hclosed'
  obtain ⟨lexeme, rest, r₂, hscan, hstep, hread₂⟩ := Reading.read_cons_eq_ok.mp hread₁
  have hlexeme : (Lexeme.closing, more) = (lexeme, rest) := by
    rw [hmode] at hscan
    simpa [scan, scanPlain, hplain] using hscan
  rw [Prod.mk.injEq] at hlexeme
  obtain ⟨rfl, rfl⟩ := hlexeme
  cases Reading.step_of_step hstep with
  | closing parent' outer' widths before hopen hlength =>
      rw [hbase, List.cons.injEq] at hopen
      obtain ⟨rfl, rfl⟩ := hopen
      refine ⟨Node.ofRow (Node.ofRows r₁.level.mode r₁.level.rows), _, ⟨hnode ▸ hmoved, ?_⟩,
        hread₂, ?_, rfl, ?_, hinside.names⟩
      · exact ⟨final', halone', hclosed', hflags, hasked', hmoved'⟩
      · simp [Level.piece, hscope]
      · rw [hgroups, ← hinside.widths, hlength]

end Signpost.Regex
