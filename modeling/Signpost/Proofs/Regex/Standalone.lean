import Signpost.Proofs.Regex.Embedding
import Signpost.Proofs.Regex.Limit

namespace Signpost.Regex

-- Whether a node refers to a group, by what the group took or by whether it took part.
def Node.refers : Node → Bool
  | .empty | .one _ _ | .anchor _ _ => false
  | .backref _ _ _ | .choose _ _ _ => true
  | .seq first second => first.refers || second.refers
  | .alt first second => first.refers || second.refers
  | .flagged body => body.refers
  | .capture _ body => body.refers
  | .atomic body => body.refers
  | .repeats _ _ _ body => body.refers
  | .look _ _ body => body.refers

def Lexeme.refers : Lexeme → Bool
  | .backref _ _ | .namedBackref _ | .opening (.choose _) => true
  | _ => false

-- The same for all that was read so far. A condition that is still open counts as well.
def Level.Refers (level : Level) : Prop :=
  (∃ index, level.scope = .choose index) ∨
    ∃ row ∈ level.rows, ∃ node ∈ row, node.refers = true

def Reading.Refers (r : Reading) : Prop := ∃ level ∈ r.level :: r.outer, level.Refers

-- The text is a pattern that can be read wherever a group may stand.
structure Standalone (text : String) : Prop where
  compiles : ∃ regex, compile text {} = .ok regex ∧ regex.names = [] ∧ regex.node.refers = false
  flags : ∀ letters, ¬HoldsFlags (tokens text.toList) letters

namespace Node

variable {a b : Node} {nodes row : List Node} {rows : List (List Node)}

theorem refers_ofRow : (ofRow row).refers = true ↔ ∃ node ∈ row, node.refers = true := by
  induction row with
  | nil => simp [ofRow, refers]
  | cons node row ih => simp [ofRow, refers, ih]

theorem refers_ofChoices :
    (ofChoices nodes).refers = true ↔ ∃ node ∈ nodes, node.refers = true := by
  induction nodes with
  | nil => simp [ofChoices, refers]
  | cons node nodes ih =>
      cases nodes with
      | nil => simp [ofChoices]
      | cons second nodes =>
          simp only [ofChoices, refers, Bool.or_eq_true, ih, List.mem_cons, exists_eq_or_imp]

theorem refers_of_sameStep (h : sameStep a b = true) : a.refers = b.refers := by
  cases a <;> cases b <;> first | rfl | cases h

-- What refers is among the steps that all rows share, or it is left in one of the rows.
theorem refers_commonSteps (h : ∃ other ∈ row :: rows, ∃ node ∈ other, node.refers = true) :
    (∃ node ∈ (commonSteps row rows).1, node.refers = true) ∨
      ∃ other ∈ (commonSteps row rows).2, ∃ node ∈ other, node.refers = true := by
  induction row generalizing rows with
  | nil => exact .inr h
  | cons first row ih =>
      rw [commonSteps]
      split
      next hall =>
        have hrest : first.refers = true ∨
            ∃ other ∈ row :: rows.map List.tail, ∃ node ∈ other, node.refers = true := by
          obtain ⟨other, hmem, node, hin, hrefers⟩ := h
          rcases List.mem_cons.mp hmem with rfl | hmem
          · rcases List.mem_cons.mp hin with rfl | hin
            · exact .inl hrefers
            · exact .inr ⟨row, List.mem_cons_self, node, hin, hrefers⟩
          · have hsame := List.all_eq_true.mp hall other hmem
            cases other with
            | nil => cases hin
            | cons head tail =>
                rcases List.mem_cons.mp hin with rfl | hin
                · exact .inl ((refers_of_sameStep (by simpa using hsame)).trans hrefers)
                · refine .inr ⟨tail, List.mem_cons_of_mem _ ?_, node, hin, hrefers⟩
                  exact List.mem_map.mpr ⟨_, hmem, rfl⟩
        rcases hrest with hfirst | hrest
        · exact .inl ⟨first, List.mem_cons_self, hfirst⟩
        · refine (ih hrest).imp_left ?_
          rintro ⟨node, hin, hrefers⟩
          exact ⟨node, List.mem_cons_of_mem _ hin, hrefers⟩
      next => exact .inr h

theorem refers_of_setItems? {items : List SetItem} (h : setItems? row = some items) :
    ¬∃ node ∈ row, node.refers = true := by
  unfold setItems? at h
  split at h <;> simp [refers] at h ⊢

theorem refers_of_mapM {items : List (List SetItem)} (h : rows.mapM setItems? = some items) :
    ¬∃ row ∈ rows, ∃ node ∈ row, node.refers = true := by
  induction rows generalizing items with
  | nil => simp
  | cons row rows ih =>
      rw [List.mapM_cons] at h
      obtain ⟨first, hfirst, h⟩ := Option.bind_eq_some_iff.mp h
      obtain ⟨rest, hrest, -⟩ := Option.bind_eq_some_iff.mp h
      rintro ⟨other, hmem, hrefers⟩
      rcases List.mem_cons.mp hmem with rfl | hmem
      · exact refers_of_setItems? hfirst hrefers
      · exact ih hrest ⟨other, hmem, hrefers⟩

-- Putting rows together loses nothing that refers to a group.
theorem refers_ofRows (mode : Flags) (h : ∃ row ∈ rows, ∃ node ∈ row, node.refers = true) :
    ∃ node ∈ ofRows mode rows, node.refers = true := by
  cases rows with
  | nil => simp at h
  | cons row rows =>
      cases rows with
      | nil => simpa [ofRows] using h
      | cons second rows =>
          simp only [ofRows]
          rcases refers_commonSteps h with ⟨node, hin, hrefers⟩ | hrest
          · split
            · exact ⟨node, List.mem_append_left _ hin, hrefers⟩
            · exact ⟨node, List.mem_append_left _ hin, hrefers⟩
          · split
            next hitems => exact (refers_of_mapM hitems hrest).elim
            next =>
              refine ⟨_, List.mem_append_right _ (List.mem_singleton_self _), ?_⟩
              obtain ⟨other, hmem, hrefers⟩ := hrest
              exact refers_ofChoices.mpr
                ⟨ofRow other, List.mem_map_of_mem hmem, refers_ofRow.mpr hrefers⟩

-- A fault that shows in a pattern of a template alone is no fault elsewhere.
theorem check_false {node : Node} {template : Bool} (h : node.check template = .ok ()) :
    node.check false = .ok () := by
  cases template with
  | false => exact h
  | true =>
      induction node with
      | empty => rfl
      | one => rfl
      | anchor => rfl
      | backref => rfl
      | repeats => cases h
      | flagged body ih => exact ih h
      | capture index body ih => exact ih h
      | atomic body ih => exact ih h
      | seq first second ih ih' =>
          obtain ⟨⟨⟩, hfirst, hsecond⟩ := Except.bind_eq_ok.mp h
          rw [check, ih hfirst, ih' hsecond]
          rfl
      | alt first second ih ih' =>
          obtain ⟨⟨⟩, hfirst, hsecond⟩ := Except.bind_eq_ok.mp h
          rw [check, ih hfirst, ih' hsecond]
          rfl
      | choose index present absent ih ih' =>
          obtain ⟨⟨⟩, hpresent, habsent⟩ := Except.bind_eq_ok.mp h
          rw [check, ih hpresent, ih' habsent]
          rfl
      | look behind negated body ih =>
          rw [check] at h ⊢
          cases behind with
          | false => exact ih h
          | true =>
              dsimp only at h ⊢
              split at h
              · split at h
                · cases h
                next hnear =>
                  split at h
                  · cases h
                  next hfixed => simp [hnear, hfixed, ih h]
              · simp at *

variable {shift groups : Nat} {m m' : Flags} {a' : Node}

-- Only a node that refers to a group has a width that depends on where it stands.
theorem width_moved (h : Moved shift groups m m' a a') (hrefers : a.refers = false) :
    a'.width = a.width := by
  induction h with
  | empty => rfl
  | one => rfl
  | anchor => rfl
  | backref => cases hrefers
  | choose => cases hrefers
  | look => rfl
  | seq _ _ ih ih' =>
      rw [refers, Bool.or_eq_false_iff] at hrefers
      rw [width, width, ih hrefers.1, ih' hrefers.2]
  | alt _ _ ih ih' =>
      rw [refers, Bool.or_eq_false_iff] at hrefers
      rw [width, width, ih hrefers.1, ih' hrefers.2]
  | flagged _ _ _ ih => exact ih hrefers
  | capture _ _ _ _ ih => exact ih hrefers
  | atomic _ ih => exact ih hrefers
  | repeats greed least most _ ih => simp only [width, ih hrefers]

theorem check_moved (h : Moved shift groups m m' a a') (hrefers : a.refers = false)
    (template : Bool) : a'.check template = a.check template := by
  induction h with
  | empty => rfl
  | one => rfl
  | anchor => rfl
  | backref => cases hrefers
  | choose => cases hrefers
  | seq _ _ ih ih' =>
      rw [refers, Bool.or_eq_false_iff] at hrefers
      rw [check, check, ih hrefers.1, ih' hrefers.2]
  | alt _ _ ih ih' =>
      rw [refers, Bool.or_eq_false_iff] at hrefers
      rw [check, check, ih hrefers.1, ih' hrefers.2]
  | flagged _ _ _ ih => exact ih hrefers
  | capture _ _ _ _ ih => exact ih hrefers
  | atomic _ ih => exact ih hrefers
  | repeats greed least most _ ih => rw [check, check, ih hrefers]
  | look behind negated hbody ih => rw [check, check, ih hrefers, width_moved hbody hrefers]

end Node

theorem Level.refers_push {level : Level} {piece : Piece} :
    (level.push piece).Refers ↔ level.Refers ∨ ∃ node ∈ piece.nodes, node.refers = true := by
  have hrows : (level.push piece).rows =
      level.choices ++ [level.row.nodes ++ piece.nodes] := rfl
  have hscope : (level.push piece).scope = level.scope := rfl
  unfold Level.Refers
  rw [hrows, hscope, Level.rows]
  simp only [List.mem_append, List.mem_singleton, or_and_right, exists_or, exists_eq_left,
    or_assoc]

-- A group that closes hands on what refers to a group.
theorem Level.refers_piece {level : Level} (h : level.Refers) :
    ∃ node ∈ level.piece.nodes, node.refers = true := by
  obtain ⟨scope, mode, mark, choices, row⟩ := level
  cases scope with
  | choose index =>
      unfold Level.piece
      dsimp only
      split <;> exact ⟨_, List.mem_singleton_self _, rfl⟩
  | _ =>
      have hrows : ∃ other ∈ choices ++ [row.nodes], ∃ node ∈ other, node.refers = true :=
        h.resolve_left (by simp)
      have hnodes := Node.refers_ofRows mode hrows
      first
        | exact hnodes
        | exact ⟨_, List.mem_singleton_self _, Node.refers_ofRow.mpr hnodes⟩

-- A quantifier takes in the last piece, and what it repeats refers to a group as before.
theorem Level.Refers.repeatLast {level : Level} {node body : Node} (h : level.Refers)
    (hnode : level.row.last.bind Piece.repeatable? = some node)
    (hbody : node.refers = true → body.refers = true) :
    Level.Refers { level with row := { level.row with last := some (.counted body) } } := by
  refine h.imp_right ?_
  rintro ⟨row, hrow, found, hin, hrefers⟩
  rcases List.mem_append.mp hrow with hrow | hrow
  · exact ⟨row, List.mem_append_left _ hrow, found, hin, hrefers⟩
  · obtain rfl := List.mem_singleton.mp hrow
    refine ⟨_, List.mem_append_right _ (List.mem_singleton_self _), ?_⟩
    rcases List.mem_append.mp hin with hin | hin
    · exact ⟨found, List.mem_append_left _ hin, hrefers⟩
    · refine ⟨body, List.mem_append_right _ (List.mem_singleton_self _), hbody ?_⟩
      obtain ⟨piece, hlast, hnode⟩ := Option.bind_eq_some_iff.mp hnode
      rw [hlast] at hin
      cases piece with
      | fixed => cases hnode
      | counted => cases hnode
      | part own =>
          obtain rfl := Option.some.inj hnode
          obtain rfl := List.mem_singleton.mp hin
          exact hrefers
      | bare own =>
          obtain rfl := Option.some.inj hnode
          exact Node.refers_ofRow.mpr ⟨found, hin, hrefers⟩

theorem Scope.Moved.choose_eq {shift groups index : Nat} {m m' mode mode' : Flags} {scope : Scope}
    (h : Scope.Moved shift groups m m' scope mode (.choose index) mode') :
    scope = .choose index := by
  cases h with
  | choose => rfl

namespace Reading

variable {shift groups : Nat} {m m' : Flags} {base : List Level} {names : List (String × Nat)}
  {r r' r₁ final : Reading} {lexeme : Lexeme} {ts rest more : List Token} {before after : Nat}

theorem Step.refers (h : Step r lexeme r') (hlexeme : lexeme.refers = true) : r'.Refers := by
  have hreference (index : Nat) (width : Width) :
      (r.level.push (.part (.backref r.level.mode index width))).Refers :=
    Level.refers_push.mpr (.inr ⟨_, List.mem_singleton_self _, rfl⟩)
  cases h with
  | backref index digits width =>
      exact ⟨_, List.mem_cons_self, hreference index width⟩
  | namedBackref name index width found =>
      exact ⟨_, List.mem_cons_self, hreference index width⟩
  | chooseNamed name index mark found => exact ⟨_, List.mem_cons_self, .inl ⟨index, rfl⟩⟩
  | chooseNumbered index length asked mark => exact ⟨_, List.mem_cons_self, .inl ⟨index, rfl⟩⟩
  | _ => cases hlexeme

-- What refers to a group stays, whatever is read after it.
theorem Refers.step (hrefers : r.Refers) (h : Step r lexeme r') : r'.Refers := by
  obtain ⟨level, hmem, hlevel⟩ := hrefers
  have hinner : (r.level.Refers → r'.level.Refers) → r'.outer = r.outer → r'.Refers := by
    intro hown houter
    rcases List.mem_cons.mp hmem with rfl | hmem
    · exact ⟨_, List.mem_cons_self, hown hlevel⟩
    · exact ⟨level, List.mem_cons_of_mem _ (houter ▸ hmem), hlevel⟩
  have hpush : ∀ piece, (r.push piece).level.Refers ↔
      r.level.Refers ∨ ∃ node ∈ piece.nodes, node.refers = true := fun _ => Level.refers_push
  cases h with
  | blank => exact ⟨level, hmem, hlevel⟩
  | atom atom => exact hinner (fun h => (hpush _).mpr (.inl h)) rfl
  | anchor kind => exact hinner (fun h => (hpush _).mpr (.inl h)) rfl
  | backref index digits width => exact hinner (fun h => (hpush _).mpr (.inl h)) rfl
  | namedBackref name index width found => exact hinner (fun h => (hpush _).mpr (.inl h)) rfl
  | quantifier greed least most node found =>
      exact hinner (fun h => h.repeatLast found id) rfl
  | bar =>
      refine hinner (fun h => h.imp_right fun ⟨row, hrow, hnode⟩ => ?_) rfl
      exact ⟨row, List.mem_append_left _ hrow, hnode⟩
  | closing parent outer widths before hopen hwidths =>
      rw [hopen] at hmem
      rcases List.mem_cons.mp hmem with rfl | hmem
      · exact ⟨_, List.mem_cons_self, Level.refers_push.mpr (.inr (Level.refers_piece hlevel))⟩
      · rcases List.mem_cons.mp hmem with rfl | hmem
        · exact ⟨_, List.mem_cons_self, Level.refers_push.mpr (.inl hlevel)⟩
        · exact ⟨level, List.mem_cons_of_mem _ hmem, hlevel⟩
  | flags added hwhole => exact hinner id rfl
  | _ => exact ⟨level, List.mem_cons_of_mem _ hmem, hlevel⟩

theorem Refers.read (hrefers : r.Refers) (h : r.read 0 ts = .ok final) : final.Refers := by
  induction h using read_induction with
  | done => exact hrefers
  | step r t ts lexeme rest r₁ _ _ _ hstep ih => exact ih (hrefers.step (step_of_step hstep))

def scopes (r : Reading) : List Scope := (r.level :: r.outer).map Level.scope

-- The level of the whole pattern lies below all groups that are open.
theorem Step.getLast?_scopes (h : Step r lexeme r') : r'.scopes.getLast? = r.scopes.getLast? := by
  cases h with
  | closing parent outer widths before hopen hwidths =>
      simp [scopes, hopen, Level.push, List.getLast?_cons]
  | _ => rfl

theorem scope_of_read (hstart : r.scopes.getLast? = some .whole) (h : r.read 0 ts = .ok final)
    (hclosed : final.outer = []) : final.level.scope = .whole := by
  have hlast : final.scopes.getLast? = some .whole := by
    induction h using read_induction with
    | done => exact hstart
    | step r t ts lexeme rest r₁ _ _ _ hstep ih =>
        exact ih ((step_of_step hstep).getLast?_scopes.trans hstart)
  simpa [scopes, hclosed] using hlast

-- A condition that is open inside a group is open alone as well.
theorem scope_of_stacked {level level' : Level} {outer outer' : List Level} {index : Nat}
    (h : Stacked shift groups m m' base level outer level' outer')
    (hscope : level'.scope = .choose index) : level.scope = .choose index := by
  cases h with
  | whole _ _ hscope' _ =>
      rw [hscope'] at hscope
      cases hscope
  | nested _ hmoved _ =>
      rw [hscope] at hmoved
      exact hmoved.choose_eq

-- What can be read next alone can be read next inside a group.
theorem Inside.advance (h : Inside shift groups m m' base names r r')
    (hlexeme : lexeme.refers = false) (hflags : ∀ added, lexeme ≠ .flags added)
    (hrefers : ¬r.Refers) (hnames : r₁.names = []) (hstep : r.step lexeme before after = .ok r₁)
    (before' after' : Nat) : ∃ r₁', r'.step lexeme before' after' = .ok r₁' := by
  have hmoved := h.stacked.moved
  cases lexeme with
  | blank => exact ⟨_, rfl⟩
  | atom atom => exact ⟨_, rfl⟩
  | anchor kind => exact ⟨_, rfl⟩
  | backref index digits => cases hlexeme
  | namedBackref name => cases hlexeme
  | flags added => exact (hflags added rfl).elim
  | quantifier greed least most =>
      cases step_of_pushQuantifier hstep with
      | quantifier _ _ _ node found =>
          obtain ⟨piece, hpiece, hnode⟩ := Option.bind_eq_some_iff.mp found
          have hlast := hmoved.last_repeatable?
          rw [hpiece, Option.map_some, hnode] at hlast
          obtain ⟨piece', hpiece', hsome⟩ := Option.map_eq_some_iff.mp hlast.symm
          show ∃ r₁', r'.pushQuantifier greed least most before' after' = .ok r₁'
          unfold pushQuantifier
          rw [hpiece']
          cases piece' with
          | fixed => cases hsome
          | counted => cases hsome
          | part node' => exact ⟨_, rfl⟩
          | bare row' => exact ⟨_, rfl⟩
  | opening opening =>
      cases opening with
      | capture name =>
          cases name with
          | none => exact ⟨_, rfl⟩
          | some name =>
              cases step_of_step hstep with
              | capture _ mark => simp [enter] at hnames
      | choose condition => cases hlexeme
      | _ => exact ⟨_, rfl⟩
  | bar =>
      show ∃ r₁', r'.bar before' = .ok r₁'
      unfold Reading.bar
      split
      next index _ _ hscope _ =>
        have hopen : r.level.scope = .choose index := scope_of_stacked h.stacked hscope
        exact (hrefers ⟨_, List.mem_cons_self, .inl ⟨index, hopen⟩⟩).elim
      next => exact ⟨_, rfl⟩
  | closing =>
      cases step_of_step hstep with
      | closing parent outer widths before hopen hwidths =>
          have hstacked := h.stacked
          rw [hopen] at hstacked
          obtain ⟨parent', outer', hopen', -⟩ := hstacked.close
          show ∃ r₁', r'.close before' = .ok r₁'
          unfold Reading.close
          rw [hopen']
          dsimp only
          repeat' split
          all_goals exact ⟨_, rfl⟩

theorem Step.asked_eq (h : Step r lexeme r') (hlexeme : lexeme.refers = false) :
    r'.asked = r.asked := by
  cases h with
  | chooseNumbered => cases hlexeme
  | _ => rfl

-- A pattern that refers to nothing and sets no flags is read inside a group up to the
-- parenthesis that closes it.
theorem Inside.follow (h : Inside shift groups m m' base names r r') (hbase : base ≠ [])
    (hplain : m.verbose = false) (halone : r.read 0 ts = .ok final) (hclosed : final.outer = [])
    (hnames : final.names = []) (hgroups : final.widths.length ≤ groups)
    (hrefers : ¬final.Refers) (hflags : ∀ letters, ¬HoldsFlags ts letters) (more : List Token) :
    ∃ r₁', r'.read 0 (ts ++ .plain ')' :: more) = r₁'.read 0 (.plain ')' :: more) ∧
      Inside shift groups m m' base names final r₁' ∧ r₁'.flags = r'.flags ∧
      r₁'.asked = r'.asked := by
  induction halone using read_induction generalizing r' with
  | done => exact ⟨r', rfl, h, rfl, rfl⟩
  | step r t ts lexeme rest r₁ halone halone₁ hscan hstep ih =>
      obtain ⟨hwidths₁, hfront⟩ := grown_of_read halone₁
      have hnames₁ : r₁.names = [] := List.prefix_nil.mp (hnames ▸ hfront)
      have hquiet : lexeme.refers = false := Bool.eq_false_iff.mpr fun hlexeme =>
        hrefers (((step_of_step hstep).refers hlexeme).read halone₁)
      have hunset : ∀ added, lexeme ≠ .flags added := by
        rintro added rfl
        obtain ⟨letters, hholds, -⟩ := holdsFlags_of_scan hscan
        exact hflags letters hholds
      have hscan' :=
        (takes_scan hscan (h.rest_ne_nil hplain hclosed hstep halone₁)).closed more
      rw [h.stacked.moved.verbose] at hscan'
      obtain ⟨r₁', hstep'⟩ := h.advance hquiet hunset (fun hown => hrefers (hown.read halone))
        hnames₁ hstep (size (t :: ts ++ .plain ')' :: more)) (size (rest ++ .plain ')' :: more))
      have h₁ := h.step hbase (step_of_step hstep) (step_of_step hstep') hnames₁
        (Nat.le_trans hwidths₁ hgroups)
      have hrest : rest <:+: t :: ts := ((scan_suffix hscan).trans (List.suffix_cons t ts)).isInfix
      obtain ⟨r₂', hread, hinside, hsame, hasked⟩ :=
        ih h₁ fun letters hholds => hflags letters (hholds.mono hrest)
      refine ⟨r₂', ?_, hinside, ?_, ?_⟩
      · rw [List.cons_append, read_cons hscan']
        exact (congrArg (· >>= _) hstep').trans hread
      · rw [hsame, (step_of_step hstep').flags_eq hunset]
      · rw [hasked, (step_of_step hstep').asked_eq hquiet]

-- What was read since a group opened is the body of that group, with nothing in it that would be
-- refused in the end.
structure Fills (r r' : Reading) : Prop where
  scope : r'.level.scope = r.level.scope
  mode : r'.level.mode = r.level.mode
  check : (Node.ofRow (Node.ofRows r'.level.mode r'.level.rows)).check false = .ok ()
  outer : r'.outer = r.outer
  flags : r'.flags = r.flags
  asked : r'.asked = r.asked
  names : r'.names.map Prod.fst = r.names.map Prod.fst

end Reading

-- A text that is a pattern of its own, and the body of a capturing group wherever one may stand.
structure Fits (text : String) : Prop where
  compiles : ∃ regex, compile text {} = .ok regex ∧ regex.names = []
  read : ∀ {r : Reading} {mode : Flags} {mark : Nat} (more : List Token),
    r.level = { scope := .capture r.widths.length, mode, mark } → mode.verbose = false →
    r.outer ≠ [] →
    ∃ r', r.Fills r' ∧
      r.read 0 (tokens text.toList ++ .plain ')' :: more) = r'.read 0 (.plain ')' :: more)

theorem Fits.dangles {text : String} (h : Fits text) : dangles text.toList = false := by
  obtain ⟨regex, hcompile, -⟩ := h.compiles
  exact (read_of_compile hcompile).1

theorem check_of_compile {text : String} {flags : Flags} {regex : Regex}
    (h : compile text flags = .ok regex) : regex.node.check false = .ok () := by
  obtain ⟨⟨final, nodes⟩, -, h⟩ := Except.bind_eq_ok.mp h
  dsimp only at h
  split at h
  · cases h
  next hcheck =>
    rw [← Except.ok.inj h]
    exact Node.check_false hcheck

theorem Standalone.fits {text : String} (h : Standalone text) : Fits text := by
  obtain ⟨regex, hcompile, hnames, hquiet⟩ := h.compiles
  refine ⟨⟨regex, hcompile, hnames⟩, fun {r mode mark} more hlevel hplain houter => ?_⟩
  obtain ⟨-, final, halone, hclosed, -, hnode, hgroups, hfinal⟩ := read_of_compile hcompile
  have hscope : final.level.scope = .whole := Reading.scope_of_read rfl halone hclosed
  have hrefers : ¬final.Refers := by
    rintro ⟨level, hmem, hlevel⟩
    rw [hclosed] at hmem
    obtain rfl := List.mem_singleton.mp hmem
    rcases hlevel with ⟨index, hchoose⟩ | hrows
    · rw [hscope] at hchoose
      cases hchoose
    · have hseen := Node.refers_ofRow.mpr (Node.refers_ofRows final.level.mode hrows)
      rw [← hnode, hquiet] at hseen
      cases hseen
  have hstart : Reading.Inside r.widths.length regex.groups {} mode r.outer r.names
      (Reading.start {}) r := by
    refine ⟨?_, by simp [Reading.start], rfl⟩
    rw [hlevel]
    exact .whole rfl rfl rfl ⟨hplain.symm, .nil, Row.moved_empty⟩
  obtain ⟨r', hread, hinside, hflags, hasked⟩ := hstart.follow houter rfl halone hclosed
    (hfinal ▸ hnames) (Nat.le_of_eq hgroups.symm) hrefers h.flags more
  obtain ⟨hmode, hcapture, hbase, hmoved⟩ := hinside.whole hclosed
  rw [← hnode] at hmoved
  refine ⟨r', ⟨?_, ?_, ?_, hbase, hflags, hasked, congrArg _ hinside.names⟩, hread⟩
  · rw [hcapture, hlevel]
  · rw [hmode, hlevel]
  · rw [Node.check_moved hmoved hquiet]
    exact check_of_compile hcompile

-- The pattern of a placeholder without a constraint is one set, repeated.
theorem standalone_default : Standalone "[\\w-]+" := by
  refine ⟨?_, fun letters hholds => ?_⟩
  · have hseen : (compile "[\\w-]+" {}).toOption.bind
        (fun regex => some (regex.names, regex.node.refers)) = some ([], false) := by
      decide +kernel
    obtain ⟨regex, hcompile, hseen⟩ := Except.exists_ok_of_bind hseen
    obtain ⟨hnames, hrefers⟩ := Prod.mk.inj (Option.some.inj hseen)
    exact ⟨regex, hcompile, hnames, hrefers⟩
  · have hopen : Token.plain '(' ∈ tokens "[\\w-]+".toList :=
      hholds.1.subset List.mem_cons_self
    exact absurd hopen (by decide +kernel)

end Signpost.Regex
