import Signpost.Proofs.Template.Fragment
import Signpost.Proofs.Template.Rule

namespace Signpost.Template

open Signpost.Regex

variable {r : Reading} {mode : Flags} {rest : List Char} {ts : List Token}

-- The nodes of a text that stands for itself.
def literals (mode : Flags) (word : List Char) : List Node :=
  word.map fun c => .one mode (.literal c.toNat)

theorem tokens_escape (word rest : List Char) :
    tokens (word.flatMap escapeChar ++ rest) = word.map escapeToken ++ tokens rest := by
  induction word with
  | nil => rfl
  | cons c word ih =>
      rw [List.flatMap_cons, List.append_assoc, tokens_escapeChar, ih]
      rfl

theorem tokens_choices (choice : String) (choices : List String) (rest : List Char) :
    tokens ((String.intercalate "|" ((choice :: choices).map escape)).toList ++ rest) =
      choice.toList.map escapeToken ++ (choices.flatMap fun other =>
        .plain '|' :: other.toList.map escapeToken) ++ tokens rest := by
  induction choices generalizing choice with
  | nil => simp [escape, tokens_escape]
  | cons next choices ih =>
      have hbar : "|".toList = ['|'] := by decide
      have hne : ((next :: choices).map escape) ≠ [] := by simp
      rw [List.map_cons, String.intercalate_cons_of_ne_nil hne]
      simp only [String.toList_append, hbar, List.append_assoc, List.cons_append, List.nil_append]
      rw [escape, String.toList_ofList, tokens_escape, tokens_cons (by decide), ih]
      simp

-- What stands for itself adds to the row being read and changes nothing else.
theorem read_literals (hplain : r.level.mode.verbose = false) (word : List Char) :
    ∃ row, (∀ ts, r.read 0 (word.map escapeToken ++ ts) =
        Reading.read { r with level := { r.level with row } } 0 ts) ∧
      row.nodes = r.level.row.nodes ++ literals r.level.mode word := by
  induction word generalizing r with
  | nil => exact ⟨r.level.row, fun ts => rfl, by simp [literals]⟩
  | cons c word ih =>
      obtain ⟨row, hread, hrow⟩ := ih (r := r.push (.part (.one r.level.mode (.literal c.toNat))))
        hplain
      refine ⟨row, fun ts => ?_, ?_⟩
      · rw [List.map_cons, List.cons_append, read_atom (hplain ▸ scan_escapeToken c _), hread]
        rfl
      · rw [hrow]
        exact List.append_assoc _ [_] _

-- Each further choice is one more row of the group.
theorem read_choices (hplain : r.level.mode.verbose = false) (hscope : r.level.scope = .bare)
    (choices : List String) :
    ∃ level, (∀ ts, r.read 0 ((choices.flatMap fun other =>
        .plain '|' :: other.toList.map escapeToken) ++ ts) = Reading.read { r with level } 0 ts) ∧
      level.rows = r.level.rows ++ choices.map (fun other =>
        literals r.level.mode other.toList) ∧
      level.scope = .bare ∧ level.mode = r.level.mode := by
  induction choices generalizing r with
  | nil => exact ⟨r.level, fun ts => rfl, by simp, hscope, rfl⟩
  | cons choice choices ih =>
      let r₁ : Reading := { r with level := { r.level with choices := r.level.rows, row := {} } }
      obtain ⟨row, hread₂, hrow⟩ := read_literals (r := r₁) hplain choice.toList
      obtain ⟨level, hread₃, hrows, hscope₃, hmode₃⟩ :=
        ih (r := { r₁ with level := { r₁.level with row } }) hplain hscope
      refine ⟨level, fun ts => ?_, ?_, hscope₃, hmode₃⟩
      · have hscan (more : List Token) : scan r.level.mode.verbose (.plain '|') more =
            .ok (.bar, more) := by
          rw [hplain]
          rfl
        have hbar (before after : Nat) : r.step .bar before after = .ok r₁ := by
          simp only [Reading.step]
          unfold Reading.bar
          split
          next hchoose _ => simp [hscope] at hchoose
          next => rfl
        rw [List.flatMap_cons, List.append_assoc, List.cons_append, Reading.read_cons (hscan _),
          hbar, Except.bind_ok, hread₂, hread₃]
      · have hrows₂ : r.level.rows ++ [row.nodes] =
            r.level.rows ++ [literals r.level.mode choice.toList] := by
          rw [hrow]
          rfl
        rw [hrows, List.map_cons, ← List.singleton_append, ← List.append_assoc, ← hrows₂]
        rfl

-- A choice is read as one piece: brackets around a row for each text.
theorem read_choicePattern (hplain : r.level.mode.verbose = false) {choices : List String}
    (hne : choices ≠ []) (ts : List Token) :
    r.read 0 (tokens (Route.choicePattern choices).toList ++ ts) =
      (r.push (.bare (Node.ofRows r.level.mode
        (choices.map fun choice => literals r.level.mode choice.toList)))).read 0 ts := by
  obtain ⟨choice, choices, rfl⟩ := List.exists_cons_of_ne_nil hne
  have htokens : tokens (Route.choicePattern (choice :: choices)).toList ++ ts =
      .plain '(' :: .plain '?' :: .plain ':' :: (choice.toList.map escapeToken ++
        ((choices.flatMap fun other => .plain '|' :: other.toList.map escapeToken) ++
          .plain ')' :: ts)) := by
    have hfront : '\\' ∉ "(?:".toList := by decide
    have hend : tokens ")".toList = [.plain ')'] := by decide
    rw [Route.choicePattern, String.toList_append, String.toList_append, List.append_assoc,
      tokens_plain hfront, tokens_choices, hend]
    simp
  have hopened (before after : Nat) : r.step (.opening .bare) before after =
      .ok (r.enter .bare r.level.mode before) := rfl
  rw [htokens, Reading.read_cons (hplain ▸ scan_bracket _), hopened, Except.bind_ok]
  generalize size (_ :: _) = mark
  obtain ⟨row, hread₁, hrow⟩ := read_literals (r := r.enter .bare r.level.mode mark) hplain
    choice.toList
  let r₁ : Reading := { r.enter .bare r.level.mode mark with
    level := { (r.enter .bare r.level.mode mark).level with row } }
  obtain ⟨level, hread₂, hrows, hscope, hmode⟩ := read_choices (r := r₁) hplain rfl choices
  have hplain₁ : level.mode.verbose = false := hmode ▸ hplain
  have hclosed (before after : Nat) : Reading.step { r₁ with level } .closing before after =
      .ok (r.push level.piece) := by
    simp only [Reading.step, Reading.close, hscope]
    rfl
  rw [hread₁, hread₂, Reading.read_cons (r := { r₁ with level }) (hplain₁ ▸ scan_close ts),
    hclosed, Except.bind_ok]
  have hpiece : level.piece = .bare (Node.ofRows r.level.mode
      ((choice :: choices).map fun other => literals r.level.mode other.toList)) := by
    have hfirst : r₁.level.rows = [literals r.level.mode choice.toList] :=
      congrArg (fun row => [row]) hrow
    simp only [Level.piece, hscope, hmode, hrows, hfirst]
    rfl
  rw [hpiece]

theorem node_of_choicePattern {choices : List String} {regex : Regex} (hne : choices ≠ [])
    (h : compile (Route.choicePattern choices) {} = .ok regex) :
    regex.node = .ofRow (Node.ofRows {} (choices.map fun choice => literals {} choice.toList)) := by
  obtain ⟨-, final, hread, -, -, hnode, -⟩ := read_of_compile h
  have hplain : (Reading.start {}).level.mode.verbose = false := rfl
  have hchoice := read_choicePattern hplain hne []
  rw [List.append_nil, hread, Reading.read_nil, Except.ok.injEq] at hchoice
  rw [hnode, hchoice]
  rfl

theorem accepts_literal (hcase : mode.ignoreCase = false) (c d : Char) :
    (Atom.literal c.toNat).accepts mode d = (d == c) := by
  simp only [Atom.accepts, acceptsLiteral, hcase, Bool.false_and, Bool.false_eq_true, if_false]
  rw [Bool.eq_iff_iff, beq_iff_eq, beq_iff_eq]
  exact Char.toNat_inj

-- A slash has no case.
theorem accepts_slash (mode : Flags) (d : Char) :
    (Atom.literal '/'.toNat).accepts mode d = (d == '/') := by
  have hcase : hasCase mode.ascii '/'.toNat = false := by cases mode.ascii <;> decide +kernel
  simp only [Atom.accepts, acceptsLiteral, hcase, Bool.and_false, Bool.false_eq_true, if_false]
  rw [Bool.eq_iff_iff, beq_iff_eq, beq_iff_eq]
  exact Char.toNat_inj

-- Where characters are the same if they are folded alike, a text fits a word if it is folded alike.
theorem fits_fold {same : Char → Char → Bool} {fold : Char → Char} {word text : List Char}
    (h : ∀ c ∈ word, ∀ d ∈ text, same c d = (fold d == fold c)) :
    fits (word.map same) text = true ↔ text.map fold = word.map fold := by
  induction word generalizing text with
  | nil => cases text <;> simp [fits]
  | cons c word ih =>
      cases text with
      | nil => simp [fits]
      | cons d text =>
          have hrest := ih fun c' hc d' hd => h c' (List.mem_cons_of_mem _ hc) d'
            (List.mem_cons_of_mem _ hd)
          rw [List.map_cons, fits, h c List.mem_cons_self d List.mem_cons_self, Bool.and_eq_true,
            beq_iff_eq, hrest, List.map_cons, List.map_cons, List.cons.injEq]

theorem fits_word (word text : List Char) :
    fits (word.map fun c d => d == c) text = true ↔ text = word := by
  have h : fits (word.map fun c d => d == c) text = true ↔ text.map id = word.map id :=
    fits_fold fun _ _ _ _ => rfl
  rwa [List.map_id, List.map_id] at h

theorem ends_literals_along (mode : Flags) (word : List Char) :
    (Node.ofRow (literals mode word)).ends =
      endsAlong (word.map fun c => (Atom.literal c.toNat).accepts mode) := by
  induction word with
  | nil => rfl
  | cons c word ih =>
      funext s
      rw [literals, List.map_cons, Node.ofRow, Node.ends, ends_one]
      rw [literals] at ih
      rw [ih, ← endsAlong_append]
      rfl

theorem ends_literals (hcase : mode.ignoreCase = false) (word : List Char) (s : Spot) :
    (Node.ofRow (literals mode word)).ends s =
      if word.isPrefixOf s.ahead then [s.pass word] else [] := by
  have hsame : (fun c : Char => (Atom.literal c.toNat).accepts mode) = fun c d => d == c := by
    funext c d
    exact accepts_literal hcase c d
  have hfits : fits (word.map fun c d => d == c) (s.ahead.take word.length) = true ↔
      word.isPrefixOf s.ahead = true := by
    rw [fits_word, List.isPrefixOf_iff_prefix, List.prefix_iff_eq_take]
    exact eq_comm
  rw [ends_literals_along, hsame, endsAlong_eq, List.length_map]
  by_cases hfront : word.isPrefixOf s.ahead = true
  · have htake : s.ahead.take word.length = word := (fits_word _ _).mp (hfits.mpr hfront)
    rw [if_pos (hfits.mpr hfront), if_pos hfront, htake]
  · rw [if_neg fun h => hfront (hfits.mp h), if_neg hfront]

-- Rows of literals are cut where their texts part.
theorem commonSteps_literals (mode : Flags) (word : List Char) (words : List (List Char)) :
    ∃ (shared : List Char) (rest : List (List Char)),
      Node.commonSteps (literals mode word) (words.map (literals mode)) =
        (literals mode shared, rest.map (literals mode)) ∧
      word :: words = rest.map (shared ++ ·) := by
  induction word generalizing words with
  | nil => exact ⟨[], [] :: words, rfl, by simp⟩
  | cons c word ih =>
      by_cases hall : (words.map (literals mode)).all fun other =>
          other.head?.any (Node.sameStep (.one mode (.literal c.toNat)))
      · obtain ⟨shared, rest, hcommon, hwords⟩ := ih (words.map List.tail)
        have htails : (words.map (literals mode)).map List.tail =
            (words.map List.tail).map (literals mode) := by
          simp [literals, Function.comp_def]
        have hheads : words = (words.map List.tail).map (c :: ·) := by
          rw [List.map_map]
          refine (List.map_id words).symm.trans (List.map_congr_left fun other hother => ?_)
          have hsame := List.all_eq_true.mp hall _ (List.mem_map_of_mem hother)
          cases other with
          | nil => simp [literals] at hsame
          | cons d other =>
              obtain rfl : c = d := Char.toNat_inj.mp (by
                simpa [literals, Node.sameStep] using hsame)
              rfl
        refine ⟨c :: shared, rest, ?_, ?_⟩
        · rw [literals, List.map_cons, Node.commonSteps, if_pos hall, htails]
          rw [literals] at hcommon
          rw [hcommon]
          rfl
        · have hcons : (c :: word) :: words = (word :: words.map List.tail).map (c :: ·) := by
            rw [List.map_cons, ← hheads]
          rw [hcons, hwords, List.map_map]
          rfl
      · refine ⟨[], (c :: word) :: words, ?_, by simp⟩
        rw [literals, List.map_cons, Node.commonSteps, if_neg hall]
        rfl

theorem ends_ofChoices {nodes : List Node} (hne : nodes ≠ []) (s : Spot) :
    (Node.ofChoices nodes).ends s = nodes.flatMap (·.ends s) := by
  induction nodes with
  | nil => exact absurd rfl hne
  | cons node nodes ih =>
      cases nodes with
      | nil => simp [Node.ofChoices]
      | cons next nodes =>
          have hrest := ih (List.cons_ne_nil _ _)
          change node.ends s ++ (Node.ofChoices (next :: nodes)).ends s = _
          rw [hrest]
          rfl

-- The words at the front of what lies ahead, each with the spot behind it.
def wordEnds (words : List (List Char)) (s : Spot) : List Spot :=
  (words.filter (·.isPrefixOf s.ahead)).map s.pass

theorem flatMap_ends_literals (hcase : mode.ignoreCase = false) (words : List (List Char))
    (s : Spot) :
    words.flatMap (fun word => (Node.ofRow (literals mode word)).ends s) = wordEnds words s := by
  induction words with
  | nil => rfl
  | cons word words ih =>
      rw [List.flatMap_cons, ih, ends_literals hcase, wordEnds, wordEnds, List.filter_cons]
      split <;> rfl

theorem isPrefixOf_append (shared word text : List Char) :
    (shared ++ word).isPrefixOf text =
      (shared.isPrefixOf text && word.isPrefixOf (text.drop shared.length)) := by
  rw [Bool.eq_iff_iff, Bool.and_eq_true, List.isPrefixOf_iff_prefix, List.isPrefixOf_iff_prefix,
    List.isPrefixOf_iff_prefix]
  constructor
  · rintro ⟨rest, rfl⟩
    refine ⟨⟨word ++ rest, by simp⟩, ⟨rest, ?_⟩⟩
    rw [List.append_assoc, List.drop_left]
  · rintro ⟨⟨rest, rfl⟩, hword⟩
    rw [List.drop_left] at hword
    exact List.prefix_append_right_inj shared |>.mpr hword

theorem wordEnds_shared (shared : List Char) (rest : List (List Char)) (s : Spot) :
    wordEnds (rest.map (shared ++ ·)) s =
      if shared.isPrefixOf s.ahead then wordEnds rest (s.pass shared) else [] := by
  unfold wordEnds
  rw [List.filter_map, List.map_map]
  by_cases hshared : shared.isPrefixOf s.ahead = true
  · have hfilter : (fun word : List Char => word.isPrefixOf s.ahead) ∘ (shared ++ ·) =
        fun word => word.isPrefixOf (s.pass shared).ahead := by
      funext word
      rw [Function.comp_apply, isPrefixOf_append, hshared, Bool.true_and, Spot.pass_ahead]
    rw [if_pos hshared, hfilter]
    simp [Function.comp_def]
  · have hfilter : (fun word : List Char => word.isPrefixOf s.ahead) ∘ (shared ++ ·) =
        fun _ => false := by
      funext word
      rw [Function.comp_apply, isPrefixOf_append, Bool.not_eq_true _ |>.mp hshared, Bool.false_and]
    rw [if_neg hshared, hfilter]
    simp

-- A set that is made of single letters matches once, however often a letter was listed.
theorem alike_ends_letters (hcase : mode.ignoreCase = false) (cs : List Char) (s : Spot) :
    List.Alike
      ((Node.one mode (.set false (cs.map fun c => SetItem.single c.toNat).eraseDups)).ends s)
      (wordEnds (cs.map ([·])) s) := by
  have haccepts (d : Char) : (Atom.set false
      (cs.map fun c => SetItem.single c.toNat).eraseDups).accepts mode d = decide (d ∈ cs) := by
    rw [Bool.eq_iff_iff, decide_eq_true_eq]
    simp only [Atom.accepts, acceptsItems, hcase, Bool.false_and, Bool.false_eq_true, if_false,
      Bool.bne_false, List.any_eq_true, List.mem_eraseDups, List.mem_map]
    constructor
    · rintro ⟨_, ⟨c, hc, rfl⟩, hd⟩
      have hcd : d = c := Char.toNat_inj.mp (by simpa [SetItem.holds] using hd)
      exact hcd ▸ hc
    · intro hd
      exact ⟨_, ⟨d, hd, rfl⟩, by simp [SetItem.holds]⟩
  rw [ends_one]
  cases hahead : s.ahead with
  | nil =>
      have hnone : wordEnds (cs.map ([·])) s = [] := by
        simp [wordEnds, hahead]
      rw [endsAlong_miss (by simp [hahead]), hnone]
      exact .refl []
  | cons d ahead =>
      have hall : ∀ s' ∈ wordEnds (cs.map ([·])) s, d ∈ cs ∧ s' = s.pass [d] := by
        intro s' hs'
        obtain ⟨word, hword, rfl⟩ := List.mem_map.mp hs'
        obtain ⟨hmem, hfront⟩ := List.mem_filter.mp hword
        obtain ⟨c, hc, rfl⟩ := List.mem_map.mp hmem
        have hcd : c = d := by simpa [hahead] using hfront
        exact hcd ▸ ⟨hc, rfl⟩
      by_cases hd : d ∈ cs
      · have hin : s.pass [d] ∈ wordEnds (cs.map ([·])) s := by
          refine List.mem_map_of_mem (List.mem_filter.mpr ⟨List.mem_map_of_mem hd, ?_⟩)
          simp [hahead]
        rw [endsAlong_take hahead (by rw [haccepts]; exact decide_eq_true hd)]
        obtain ⟨first, more, hwords⟩ := List.exists_cons_of_ne_nil (List.ne_nil_of_mem hin)
        rw [hwords] at hall ⊢
        obtain rfl := (hall first List.mem_cons_self).2
        refine (List.alike_cons_of_mem fun s' hs' => ?_).symm
        exact (hall s' (List.mem_cons_of_mem _ hs')).2
      · have hnone : wordEnds (cs.map ([·])) s = [] :=
          List.eq_nil_iff_forall_not_mem.mpr fun s' hs' => hd (hall s' hs').1
        have hmiss : ∀ c ∈ s.ahead.head?, (Atom.set false
            (cs.map fun c => SetItem.single c.toNat).eraseDups).accepts mode c = false := by
          intro c hc
          obtain rfl : d = c := by simpa [hahead] using hc
          rw [haccepts]
          exact decide_eq_false hd
        rw [endsAlong_miss hmiss, hnone]
        exact .refl []

theorem mapM_setItems?_literals {rest : List (List Char)} {items : List (List SetItem)}
    (h : (rest.map (literals mode)).mapM Node.setItems? = some items) :
    ∃ cs : List Char, rest = cs.map ([·]) ∧ items.flatten = cs.map fun c => .single c.toNat := by
  induction rest generalizing items with
  | nil =>
      obtain rfl : items = [] := by simpa using h.symm
      exact ⟨[], rfl, rfl⟩
  | cons word rest ih =>
      rw [List.map_cons, List.mapM_cons] at h
      obtain ⟨first, hfirst, h⟩ := Option.bind_eq_some_iff.mp h
      obtain ⟨others, hothers, hitems⟩ := Option.bind_eq_some_iff.mp h
      obtain rfl : first :: others = items := Option.some.inj hitems
      obtain ⟨cs, rfl, hflat⟩ := ih hothers
      match word, hfirst with
      | [c], hfirst =>
          obtain rfl : [SetItem.single c.toNat] = first := Option.some.inj hfirst
          exact ⟨c :: cs, rfl, by simp [hflat]⟩
      | [], hfirst => simp [literals, Node.setItems?] at hfirst
      | _ :: _ :: _, hfirst => simp [literals, Node.setItems?] at hfirst

-- Two or more rows are put together behind the start that they share: as one set, if each goes on
-- with a single letter, or as alternatives.
theorem ofRows_literals (mode : Flags) (first second : List Char) (words : List (List Char)) :
    ∃ (shared : List Char) (rest : List (List Char)) (node : Node),
      first :: second :: words = rest.map (shared ++ ·) ∧
      Node.ofRows mode ((first :: second :: words).map (literals mode)) =
        literals mode shared ++ [node] ∧
      ((∃ cs : List Char, rest = cs.map ([·]) ∧
          node = .one mode (.set false (cs.map fun c => SetItem.single c.toNat).eraseDups)) ∨
        node = Node.ofChoices (rest.map fun word => Node.ofRow (literals mode word))) := by
  obtain ⟨shared, rest, hcommon, hwords⟩ := commonSteps_literals mode first (second :: words)
  have hrows : Node.ofRows mode ((first :: second :: words).map (literals mode)) =
      literals mode shared ++ [((rest.map (literals mode)).mapM Node.setItems?).elim
        (Node.ofChoices ((rest.map (literals mode)).map Node.ofRow))
        fun items => .one mode (.set false items.flatten.eraseDups)] := by
    rw [List.map_cons] at hcommon
    simp only [List.map_cons, Node.ofRows, hcommon]
    cases (rest.map (literals mode)).mapM Node.setItems? with
    | none => rfl
    | some items => rfl
  cases hitems : (rest.map (literals mode)).mapM Node.setItems? with
  | some items =>
      obtain ⟨cs, hrest, hflat⟩ := mapM_setItems?_literals hitems
      rw [hitems, Option.elim_some, hflat] at hrows
      exact ⟨shared, rest, _, hwords, hrows, .inl ⟨cs, hrest, rfl⟩⟩
  | none =>
      rw [hitems, Option.elim_none] at hrows
      refine ⟨shared, rest, _, hwords, hrows, .inr ?_⟩
      rw [List.map_map]
      rfl

-- Putting the rows of a choice together changes nothing about what matches first.
theorem alike_ends_ofRows (hcase : mode.ignoreCase = false) {words : List (List Char)}
    (hne : words ≠ []) (s : Spot) :
    List.Alike ((Node.ofRow (Node.ofRows mode (words.map (literals mode)))).ends s)
      (wordEnds words s) := by
  match words with
  | [] => exact absurd rfl hne
  | [word] =>
      refine .of_eq ?_
      rw [← flatMap_ends_literals hcase, List.flatMap_singleton]
      rfl
  | first :: second :: words =>
      obtain ⟨shared, rest, node, hwords, hrows, hnode⟩ := ofRows_literals mode first second words
      rw [hrows, hwords, wordEnds_shared, Node.ends_ofRow_append, ends_literals hcase]
      split
      · rw [List.flatMap_singleton, Node.ofRow, Node.ends]
        have hlast : (fun s : Spot => (Node.ofRow []).ends s) = fun s => [s] := rfl
        have hsingle : ((node.ends (s.pass shared)).flatMap (Node.ofRow []).ends) =
            node.ends (s.pass shared) := List.flatMap_singleton' _
        rw [hsingle]
        rcases hnode with ⟨cs, rfl, rfl⟩ | rfl
        · exact alike_ends_letters hcase cs _
        · have hrest : rest.map (fun word => Node.ofRow (literals mode word)) ≠ [] := by
            rintro hnil
            rw [List.map_eq_nil_iff] at hnil
            simp [hnil] at hwords
          refine .of_eq ?_
          rw [ends_ofChoices hrest, List.flatMap_map, flatMap_ends_literals hcase]
      · exact .refl []

theorem simple_ofRow (row : List Node) : (Node.ofRow row).simple = row.all Node.simple := by
  induction row with
  | nil => rfl
  | cons node row ih => rw [Node.ofRow, Node.simple, ih, List.all_cons]

theorem simple_ofChoices {nodes : List Node} (h : nodes.all Node.simple) :
    (Node.ofChoices nodes).simple = true := by
  induction nodes with
  | nil => rfl
  | cons node nodes ih =>
      rw [List.all_cons, Bool.and_eq_true] at h
      cases nodes with
      | nil => exact h.1
      | cons next nodes =>
          change (node.simple && (Node.ofChoices (next :: nodes)).simple) = true
          rw [h.1, ih h.2, Bool.and_true]

theorem simple_literals (mode : Flags) (word : List Char) :
    (literals mode word).all Node.simple = true := by
  simp [literals, Node.simple]

theorem simple_ofRows (mode : Flags) (words : List (List Char)) :
    (Node.ofRow (Node.ofRows mode (words.map (literals mode)))).simple = true := by
  rw [simple_ofRow]
  match words with
  | [] => rfl
  | [word] => exact simple_literals mode word
  | first :: second :: words =>
      obtain ⟨shared, rest, node, -, hrows, hnode⟩ := ofRows_literals mode first second words
      rw [hrows, List.all_append, simple_literals, Bool.true_and, List.all_cons, List.all_nil,
        Bool.and_true]
      rcases hnode with ⟨cs, -, rfl⟩ | rfl
      · rfl
      · refine simple_ofChoices ?_
        simp [simple_ofRow, simple_literals]

end Signpost.Template
