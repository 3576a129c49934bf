import Signpost.Proofs.Regex.Standalone
import Signpost.Proofs.Template.Choice
import Signpost.Proofs.Template.Effective
import Signpost.Proofs.Template.Layout

namespace Signpost.Regex

theorem check_ofRow {row : List Node} (h : ∀ node ∈ row, node.check false = .ok ()) :
    (Node.ofRow row).check false = .ok () := by
  induction row with
  | nil => rfl
  | cons node row ih =>
      rw [List.forall_mem_cons] at h
      rw [Node.ofRow, Node.check, h.1, ih h.2]
      rfl

theorem check_of_simple {node : Node} (h : node.simple = true) : node.check false = .ok () := by
  induction node with
  | empty => rfl
  | one => rfl
  | seq first second ih ih' =>
      rw [Node.simple, Bool.and_eq_true] at h
      rw [Node.check, ih h.1, ih' h.2]
      rfl
  | alt first second ih ih' =>
      rw [Node.simple, Bool.and_eq_true] at h
      rw [Node.check, ih h.1, ih' h.2]
      rfl
  | repeats greed least most body ih =>
      rw [Node.simple] at h
      rw [Node.check, if_neg (by decide)]
      exact ih h
  | _ => simp [Node.simple] at h

namespace Reading

variable {r r' r'' : Reading} {names names' : List String}

-- What was read from `r` to `r'` closed all groups that it opened, asked for no groups by number,
-- and has nothing in it that would be refused in the end.
structure Accepts (names : List String) (r r' : Reading) : Prop where
  level : ∃ row, r'.level = { r.level with row } ∧
    ∀ node ∈ row.nodes, node ∈ r.level.row.nodes ∨ node.check false = .ok ()
  outer : r'.outer = r.outer
  flags : r'.flags = r.flags
  asked : r'.asked = r.asked
  names : r'.names.map Prod.fst = r.names.map Prod.fst ++ names

theorem Accepts.trans (h : Accepts names r r') (h' : Accepts names' r' r'') :
    Accepts (names ++ names') r r'' := by
  obtain ⟨row, hlevel, hrow⟩ := h.level
  obtain ⟨row', hlevel', hrow'⟩ := h'.level
  refine ⟨⟨row', by rw [hlevel', hlevel], fun node hmem => ?_⟩, h'.outer.trans h.outer,
    h'.flags.trans h.flags, h'.asked.trans h.asked, ?_⟩
  · rcases hrow' node hmem with hin | hcheck
    · rw [hlevel] at hin
      exact hrow node hin
    · exact .inr hcheck
  · rw [h'.names, h.names, List.append_assoc]

theorem Accepts.mode (h : Accepts names r r') : r'.level.mode = r.level.mode := by
  obtain ⟨row, hlevel, -⟩ := h.level
  rw [hlevel]

theorem Accepts.refl (r : Reading) : Accepts [] r r :=
  ⟨⟨r.level.row, rfl, fun _ hmem => .inl hmem⟩, rfl, rfl, rfl, (List.append_nil _).symm⟩

theorem accepts_push {piece : Piece} (h : ∀ node ∈ piece.nodes, node.check false = .ok ()) :
    Accepts [] r (r.push piece) := by
  refine ⟨⟨r.level.row.push piece, rfl, fun node hmem => ?_⟩, rfl, rfl, rfl,
    (List.append_nil _).symm⟩
  rcases List.mem_append.mp hmem with hin | hin
  · exact .inl hin
  · exact .inr (h node hin)

-- A group that closes becomes a piece of the row around it.
theorem read_closing {parent : Level} {outer : List Level} (ts : List Token)
    (hplain : r.level.mode.verbose = false) (hopen : r.outer = parent :: outer) :
    ∃ r' : Reading, r.read 0 (.plain ')' :: ts) = r'.read 0 ts ∧
      r'.level = parent.push r.level.piece ∧ r'.outer = outer ∧ r'.flags = r.flags ∧
      r'.asked = r.asked ∧ r'.names = r.names := by
  obtain ⟨r', hstep, h⟩ : ∃ r', (∀ before, r.close before = .ok r') ∧
      r'.level = parent.push r.level.piece ∧ r'.outer = outer ∧ r'.flags = r.flags ∧
      r'.asked = r.asked ∧ r'.names = r.names := by
    unfold close
    rw [hopen]
    dsimp only
    split
    · exact ⟨_, fun _ => rfl, rfl, rfl, rfl, rfl, rfl⟩
    · exact ⟨_, fun _ => rfl, rfl, rfl, rfl, rfl, rfl⟩
    · exact ⟨_, fun _ => rfl, rfl, rfl, rfl, rfl, rfl⟩
  refine ⟨r', ?_, h⟩
  rw [read_cons (hplain ▸ Template.scan_close ts), step, hstep, Except.bind_ok]

end Reading

-- A pattern is read up to its end or up to the parenthesis behind it.
def Closing (ts : List Token) : Prop := ts = [] ∨ ∃ more, ts = .plain ')' :: more

-- A text that is a pattern of its own, and can be the body of a group.
structure Readable (text : String) : Prop where
  dangles : dangles text.toList = false
  read : ∀ (r : Reading) ts, r.level.mode.verbose = false → Closing ts →
    ∃ r', r.Accepts [] r' ∧ r.read 0 (tokens text.toList ++ ts) = r'.read 0 ts

-- The flags of templates and of constraints leave the alphabet open.
theorem compile_of_read {text : String} {flags : Flags} {names : List String} {final : Reading}
    (hdangles : dangles text.toList = false) (hascii : flags.ascii = false)
    (htemplate : flags.template = false)
    (hread : (Reading.start flags).read 0 (tokens text.toList) = .ok final)
    (haccepts : (Reading.start flags).Accepts names final) :
    ∃ regex, compile text flags = .ok regex ∧ regex.names.map Prod.fst = names := by
  obtain ⟨⟨row, hlevel, hrow⟩, houter, hflags, hasked, hnames⟩ := haccepts
  have houter : final.outer = [] := houter
  have hflags : final.flags = flags := hflags
  have hasked : final.asked = [] := hasked
  have hrows : Node.ofRows final.level.mode final.level.rows = row.nodes := by
    rw [hlevel]
    rfl
  have hfinish : final.finish = .ok row.nodes := by
    rw [← hrows]
    exact Reading.finish_eq_ok houter (hflags ▸ hascii) (by rw [hasked]; rfl)
  have hcheck : (Node.ofRow row.nodes).check false = .ok () := by
    refine check_ofRow fun node hmem => ?_
    rcases hrow node hmem with hin | hcheck
    · exact absurd hin (by simp [Reading.start, Row.nodes])
    · exact hcheck
  have htemplate : final.flags.template = false := hflags ▸ htemplate
  obtain ⟨regex, hcompile, -, hregex⟩ := compile_of_finish hdangles hread hfinish
    (htemplate ▸ hcheck)
  exact ⟨regex, hcompile, hregex ▸ hnames⟩

theorem Readable.compile {text : String} (h : Readable text) :
    ∃ regex, Regex.compile text {} = .ok regex ∧ regex.names = [] := by
  obtain ⟨final, haccepts, hread⟩ := h.read (Reading.start {}) [] rfl (.inl rfl)
  rw [List.append_nil, Reading.read_nil] at hread
  obtain ⟨regex, hcompile, hnames⟩ := compile_of_read h.dangles rfl rfl hread haccepts
  exact ⟨regex, hcompile, List.map_eq_nil_iff.mp hnames⟩

theorem Readable.fits {text : String} (h : Readable text) : Fits text := by
  refine ⟨h.compile, fun {r mode mark} more hlevel hplain _ => ?_⟩
  obtain ⟨r', haccepts, hread⟩ := h.read r (.plain ')' :: more) (hlevel ▸ hplain) (.inr ⟨more, rfl⟩)
  obtain ⟨row, hlevel', hrow⟩ := haccepts.level
  have hnames := haccepts.names
  rw [List.append_nil] at hnames
  refine ⟨r', ⟨?_, haccepts.mode, ?_, haccepts.outer, haccepts.flags, haccepts.asked, hnames⟩,
    hread⟩
  · rw [hlevel']
  · have hrows : Node.ofRows r'.level.mode r'.level.rows = row.nodes := by
      rw [hlevel', hlevel]
      rfl
    rw [hrows]
    refine check_ofRow fun node hmem => (hrow node hmem).resolve_left ?_
    rw [hlevel]
    simp [Row.nodes]

end Signpost.Regex

namespace Signpost.Template

open Signpost.Regex

theorem dangles_append {cs : List Char} (h : dangles cs = false) (rest : List Char) :
    dangles (cs ++ rest) = dangles rest := by
  fun_induction dangles cs with
  | case1 => rfl
  | case2 => simp at h
  | case3 c cs ih => exact ih h
  | case4 c cs hc ih => rw [List.cons_append, dangles_cons hc, ih h]

theorem dangles_escapeChar (c : Char) (rest : List Char) :
    dangles (escapeChar c ++ rest) = dangles rest := by
  unfold escapeChar
  by_cases hc : c ∈ special
  · simp [hc, dangles]
  · have hne : c ≠ '\\' := by
      rintro rfl
      exact hc (by decide)
    simp [hc, dangles_cons hne]

theorem dangles_escape (word rest : List Char) :
    dangles (word.flatMap escapeChar ++ rest) = dangles rest := by
  induction word with
  | nil => rfl
  | cons c word ih => rw [List.flatMap_cons, List.append_assoc, dangles_escapeChar, ih]

theorem dangles_choices (choice : String) (choices : List String) (rest : List Char) :
    dangles ((String.intercalate "|" ((choice :: choices).map escape)).toList ++ rest) =
      dangles rest := by
  induction choices generalizing choice with
  | nil => simp [escape, dangles_escape]
  | cons next choices ih =>
      have hbar : "|".toList = ['|'] := by decide
      have hne : ((next :: choices).map escape) ≠ [] := by simp
      rw [List.map_cons, String.intercalate_cons_of_ne_nil hne]
      simp only [String.toList_append, hbar, List.append_assoc, List.cons_append, List.nil_append]
      rw [escape, String.toList_ofList, dangles_escape, dangles_cons (by decide), ih]

theorem readable_choicePattern {choices : List String} (hne : choices ≠ []) :
    Readable (Route.choicePattern choices) := by
  refine ⟨?_, fun r ts hplain hts => ⟨_, Reading.accepts_push ?_, read_choicePattern hplain hne ts⟩⟩
  · obtain ⟨choice, choices, rfl⟩ := List.exists_cons_of_ne_nil hne
    have hfront : dangles "(?:".toList = false := by decide
    rw [Route.choicePattern, String.toList_append, String.toList_append, List.append_assoc,
      dangles_append hfront, dangles_choices]
    decide
  · intro node hmem
    have hall := simple_ofRows r.level.mode (choices.map String.toList)
    rw [simple_ofRow, List.all_eq_true, List.map_map] at hall
    exact check_of_simple (hall node hmem)

variable {r : Reading} {text : String}

-- A named group opens if its name is new.
theorem read_named {name : String} (hplain : r.level.mode.verbose = false)
    (hname : Text.isIdentifier name.toList) (hnew : name ∉ r.names.map Prod.fst)
    (ts : List Token) :
    ∃ mark, r.read 0 (.plain '(' :: .plain '?' :: .plain 'P' :: .plain '<' ::
        (name.toList.map .plain ++ .plain '>' :: ts)) =
      Reading.read (Reading.enter
        { r with
          widths := r.widths ++ [none], names := r.names ++ [(name, r.widths.length + 1)] }
        (.capture (r.widths.length + 1)) r.level.mode mark) 0 ts := by
  have hindex : r.index? name = none := by
    rw [Reading.index?, Option.map_eq_none_iff, List.find?_eq_none]
    intro entry hmem
    rw [beq_iff_eq]
    rintro rfl
    exact hnew (List.mem_map_of_mem hmem)
  refine ⟨size (.plain '(' :: .plain '?' :: .plain 'P' :: .plain '<' ::
    (name.toList.map .plain ++ .plain '>' :: ts)), ?_⟩
  rw [Reading.read_cons (hplain ▸ scan_named hname)]
  simp only [Reading.step, Reading.openGroup, Reading.openCapture, hindex, Except.bind_ok]
  rfl

theorem accepts_groupText {name : String} (hplain : r.level.mode.verbose = false)
    (hname : Text.isIdentifier name.toList) (hnew : name ∉ r.names.map Prod.fst)
    (htext : Fits text) {cs : List Char} (hcalm : Reading.Calm (tokens cs)) :
    ∃ r', r.Accepts [name] r' ∧
      r.read 0 (tokens (groupText name text ++ cs)) = r'.read 0 (tokens cs) := by
  let r₁ : Reading := r.push (.counted (slash r.level.mode))
  have hslash : r.Accepts [] r₁ := Reading.accepts_push (by simp [Piece.nodes, slash]; rfl)
  have hplain₁ : r₁.level.mode.verbose = false := hplain
  obtain ⟨mark, hopened⟩ := read_named hplain₁ hname hnew (tokens text.toList ++ .plain ')' ::
    .plain '[' :: .plain '^' :: .plain '/' :: .plain ']' :: .plain '?' :: tokens cs)
  generalize hr₂ : Reading.enter _ _ _ _ = r₂ at hopened
  have hplain₂ : r₂.level.mode.verbose = false := hr₂ ▸ hplain
  have hlevel₂ : r₂.level =
      { scope := .capture r₂.widths.length, mode := r.level.mode, mark } := by
    rw [← hr₂]
    simp [Reading.enter, r₁, Reading.push, Level.push]
  obtain ⟨r₃, hbody, hread⟩ := htext.read (.plain '[' :: .plain '^' :: .plain '/' ::
    .plain ']' :: .plain '?' :: tokens cs) hlevel₂ hplain (by rw [← hr₂]; simp [Reading.enter])
  have houter₃ : r₃.outer = r₁.level :: r₁.outer := by
    rw [hbody.outer, ← hr₂]
    rfl
  obtain ⟨r₄, hclosed, hlevel, houter, hflags, hasked, hnames⟩ :=
    Reading.read_closing (.plain '[' :: .plain '^' :: .plain '/' :: .plain ']' ::
      .plain '?' :: tokens cs) (hbody.mode ▸ hplain₂) houter₃
  have hgroup : r₁.Accepts [name] r₄ := by
    have hpiece : r₃.level.piece = .part (.capture r₂.widths.length
        (Node.ofRow (Node.ofRows r₃.level.mode r₃.level.rows))) := by
      rw [Level.piece, hbody.scope, hlevel₂]
    rw [hpiece] at hlevel
    refine ⟨⟨_, hlevel.trans rfl, ?_⟩, houter, ?_, ?_, ?_⟩
    · intro node hmem
      rcases List.mem_append.mp hmem with hin | hin
      · exact .inl hin
      · obtain rfl := List.mem_singleton.mp hin
        exact .inr hbody.check
    · rw [hflags, hbody.flags, ← hr₂]
      rfl
    · rw [hasked, hbody.asked, ← hr₂]
      rfl
    · rw [hnames, hbody.names, ← hr₂]
      simp [Reading.enter]
  have hplain₄ : r₄.level.mode.verbose = false := hgroup.mode ▸ hplain₁
  refine ⟨r₄.push (.counted (stray r₄.level.mode)), ?_, ?_⟩
  · exact (hslash.trans hgroup).trans (Reading.accepts_push (by simp [Piece.nodes, stray]; rfl))
  · rw [tokens_groupText hname htext.dangles, read_slash hplain ⟨by simp, by simp⟩, hopened, hread,
      hclosed, read_stray hplain₄ hcalm]

theorem accepts_bracketed {name : String} (hplain : r.level.mode.verbose = false)
    (hname : Text.isIdentifier name.toList) (hnew : name ∉ r.names.map Prod.fst)
    (htext : Fits text) {cs : List Char} (hcalm : Reading.Calm (tokens cs)) :
    ∃ r', r.Accepts [name] r' ∧
      r.read 0 (tokens ("(?:".toList ++ groupText name text ++ ")?".toList ++ cs)) =
        r'.read 0 (tokens cs) := by
  have hopened (before after : Nat) : r.step (.opening .bare) before after =
      .ok (r.enter .bare r.level.mode before) := rfl
  have hclose : tokens (")?".toList ++ cs) = .plain ')' :: .plain '?' :: tokens cs :=
    tokens_bracketClose cs
  have hcalm₀ : Reading.Calm (tokens (")?".toList ++ cs)) := by
    rw [hclose]
    exact ⟨by simp, by simp⟩
  rw [tokens_bracketed, Reading.read_cons (hplain ▸ scan_bracket _), hopened, Except.bind_ok]
  generalize size (_ :: _) = mark
  obtain ⟨r₁, hgroup, hread⟩ := accepts_groupText (r := r.enter .bare r.level.mode mark) hplain
    hname hnew htext hcalm₀
  obtain ⟨row, hlevel₁, hrow⟩ := hgroup.level
  obtain ⟨r₂, hclosed, hlevel, houter, hflags, hasked, hnames⟩ :=
    Reading.read_closing (.plain '?' :: tokens cs) (hgroup.mode ▸ hplain) hgroup.outer
  have hpiece : r₁.level.piece = .bare row.nodes := by
    rw [hlevel₁]
    rfl
  rw [hpiece] at hlevel
  -- the reading as if the brackets had not been opened yet
  let r₃ : Reading := { r₂ with level := r.level }
  have hr₂ : r₂ = r₃.push (.bare row.nodes) := by
    simp only [r₃, Reading.push, ← hlevel]
  have hplain₃ : r₃.level.mode.verbose = false := hplain
  refine ⟨r₃.push (.counted (optional (Node.ofRow row.nodes))), ?_, ?_⟩
  · have hchecked : (Node.ofRow row.nodes).check false = .ok () :=
      check_ofRow fun node hmem => (hrow node hmem).resolve_left (by
        simp [Reading.enter, Row.nodes])
    refine ⟨⟨_, rfl, fun node hmem => ?_⟩, houter, hflags.trans hgroup.flags,
      hasked.trans hgroup.asked, ?_⟩
    · rcases List.mem_append.mp hmem with hin | hin
      · exact .inl hin
      · obtain rfl := List.mem_singleton.mp hin
        exact .inr hchecked
    · exact (congrArg _ hnames).trans hgroup.names
  · rw [hread, hclose, hclosed, hr₂, read_optional hplain₃ rfl hcalm]

-- The fragment of a placeholder with a new name is accepted whatever was read before it.
theorem accepts_fragment {parameter : Parameter} (hplain : r.level.mode.verbose = false)
    (hname : Text.isIdentifier parameter.name.toList)
    (hnew : parameter.name ∉ r.names.map Prod.fst) (htext : Fits text) {cs : List Char}
    (hcalm : Reading.Calm (tokens cs)) :
    ∃ r', r.Accepts [parameter.name] r' ∧
      r.read 0 (tokens (fragment parameter text ++ cs)) = r'.read 0 (tokens cs) := by
  rw [fragment_eq]
  cases parameter.required with
  | true => exact accepts_groupText hplain hname hnew htext hcalm
  | false => exact accepts_bracketed hplain hname hnew htext hcalm

variable {config : Config} {constraints : Constraints} {template : String} {parts : List Part}

theorem accepts_parts (hverbatim : ∀ c, .literal c ∈ parts → Verbatim config c)
    (hplain : r.level.mode.verbose = false) {rest : List Char}
    (hrest : Reading.Calm (tokens rest))
    (hnames : ∀ parameter ∈ slots parts, Text.isIdentifier parameter.name.toList)
    (hnodup : (r.names.map Prod.fst ++ (slots parts).map (·.name)).Nodup)
    (hfits : ∀ parameter ∈ slots parts,
      Fits (constraintFor config constraints parameter.name)) :
    ∃ r', r.Accepts ((slots parts).map (·.name)) r' ∧
      r.read 0 (tokens (parts.flatMap (Part.pattern config constraints) ++ rest)) =
        r'.read 0 (tokens rest) := by
  induction parts generalizing r with
  | nil => exact ⟨r, .refl r, rfl⟩
  | cons part parts ih =>
      have hlater : ∀ c, .literal c ∈ parts → Verbatim config c := fun c hmem =>
        hverbatim c (List.mem_cons_of_mem _ hmem)
      have hcalm : Reading.Calm
          (tokens (parts.flatMap (Part.pattern config constraints) ++ rest)) :=
        calm_parts hlater hrest
      cases part with
      | literal c =>
          have hone : r.Accepts [] (r.push (.part (.one r.level.mode (.literal c.toNat)))) :=
            Reading.accepts_push (by simp [Piece.nodes]; rfl)
          obtain ⟨r', haccepts, hread⟩ := ih (r := r.push _) hlater hplain hnames hnodup
            hfits
          refine ⟨r', hone.trans haccepts, ?_⟩
          have hc := hverbatim c List.mem_cons_self
          simp only [List.flatMap_cons, Part.pattern, List.append_assoc, hc.tokens_literal]
          rw [read_atom (hplain ▸ hc.scan_literal _), hread]
      | slot slashed parameter =>
          have hslots : slots (.slot slashed parameter :: parts) = parameter :: slots parts := rfl
          rw [hslots, List.forall_mem_cons] at hnames hfits
          rw [hslots, List.map_cons] at hnodup
          have hnew : parameter.name ∉ r.names.map Prod.fst := fun hin =>
            (List.nodup_append.mp hnodup).2.2 _ hin _ List.mem_cons_self rfl
          obtain ⟨r₁, hfragment, hread⟩ :=
            accepts_fragment hplain hnames.1 hnew hfits.1 hcalm
          have hnodup₁ : (r₁.names.map Prod.fst ++ (slots parts).map (·.name)).Nodup := by
            rw [hfragment.names, List.append_assoc]
            exact hnodup
          obtain ⟨r₂, hparts, hread₂⟩ := ih hlater (hfragment.mode ▸ hplain) hnames.2 hnodup₁
            hfits.2
          refine ⟨r₂, hfragment.trans hparts, ?_⟩
          simp only [List.flatMap_cons, Part.pattern, List.append_assoc]
          rw [hread, hread₂]

theorem dangles_fragment {parameter : Parameter} (hname : Text.isIdentifier parameter.name.toList)
    (htext : dangles text.toList = false) (rest : List Char) :
    dangles (fragment parameter text ++ rest) = dangles rest := by
  have hback : '\\' ∉ parameter.name.toList := backslash_not_mem hname
  have hplain {cs : List Char} (h : '\\' ∉ cs) (rest : List Char) :
      dangles (cs ++ rest) = dangles rest := dangles_append (by
    induction cs with
    | nil => rfl
    | cons c cs ih =>
        simp only [List.mem_cons, not_or] at h
        rw [dangles_cons (Ne.symm h.1), ih h.2]) rest
  have hgroup (rest : List Char) :
      dangles (groupText parameter.name text ++ rest) = dangles rest := by
    unfold groupText
    simp only [List.append_assoc, List.cons_append]
    rw [hplain (by decide), hplain hback, dangles_cons (by decide), dangles_append htext,
      hplain (by decide)]
  rw [fragment_eq]
  cases parameter.required with
  | true => exact hgroup rest
  | false =>
      rw [if_neg (by decide), List.append_assoc, List.append_assoc, hplain (by decide), hgroup,
        hplain (by decide)]

theorem Verbatim.dangles_literal {c : Char} (h : Verbatim config c) (rest : List Char) :
    dangles (Template.literal config c ++ rest) = dangles rest := by
  unfold Template.literal
  split
  · exact dangles_escapeChar c rest
  next hlive =>
    split
    · rfl
    · refine dangles_cons (fun hback => h.resolve_left hlive ?_) rest
      subst hback
      decide

theorem dangles_parts (hverbatim : ∀ c, .literal c ∈ parts → Verbatim config c)
    (hnames : ∀ parameter ∈ slots parts, Text.isIdentifier parameter.name.toList)
    (hfits : ∀ parameter ∈ slots parts,
      Fits (constraintFor config constraints parameter.name)) (rest : List Char) :
    dangles (parts.flatMap (Part.pattern config constraints) ++ rest) = dangles rest := by
  induction parts with
  | nil => rfl
  | cons part parts ih =>
      have hlater : ∀ c, .literal c ∈ parts → Verbatim config c := fun c hmem =>
        hverbatim c (List.mem_cons_of_mem _ hmem)
      rw [List.flatMap_cons, List.append_assoc]
      cases part with
      | literal c =>
          rw [Part.pattern, (hverbatim c List.mem_cons_self).dangles_literal]
          exact ih hlater hnames hfits
      | slot slashed parameter =>
          have hslots : slots (.slot slashed parameter :: parts) = parameter :: slots parts := rfl
          rw [hslots, List.forall_mem_cons] at hnames hfits
          rw [Part.pattern, dangles_fragment hnames.1 hfits.1.dangles]
          exact ih hlater hnames.2 hfits.2

-- The pattern of a whole template compiles.
theorem exists_compile (flags : Flags)
    (hverbatim : ∀ c, .literal c ∈ parts → Verbatim config c)
    (hverbose : flags.verbose = false) (hascii : flags.ascii = false)
    (htemplate : flags.template = false)
    (htext : text.toList =
      '^' :: parts.flatMap (Part.pattern config constraints) ++ "/?\\Z".toList)
    (hnames : ∀ parameter ∈ slots parts, Text.isIdentifier parameter.name.toList)
    (hnodup : ((slots parts).map (·.name)).Nodup)
    (hfits : ∀ parameter ∈ slots parts,
      Fits (constraintFor config constraints parameter.name)) :
    ∃ regex, compile text flags = .ok regex := by
  have hend : tokens "/?\\Z".toList = [.plain '/', .plain '?', .escaped 'Z'] := by decide
  have hcalm : Reading.Calm (tokens "/?\\Z".toList) := by
    rw [hend]
    exact ⟨by simp, by simp⟩
  have hdangles : dangles text.toList = false := by
    rw [htext, List.cons_append, dangles_cons (by decide), dangles_parts hverbatim hnames hfits]
    decide
  let r₀ : Reading := (Reading.start flags).push (.fixed (.anchor flags .lineStart))
  have hstart : (Reading.start flags).Accepts [] r₀ :=
    Reading.accepts_push (by simp [Piece.nodes]; rfl)
  have hplain₀ : r₀.level.mode.verbose = false := hverbose
  obtain ⟨r₁, hparts, hread⟩ := accepts_parts hverbatim hplain₀ hcalm hnames hnodup hfits
  have hmode : r₁.level.mode = flags := hparts.mode
  have hplain₁ : r₁.level.mode.verbose = false := hmode ▸ hverbose
  let r₂ : Reading := r₁.push (.counted (slash r₁.level.mode))
  have hslash : r₁.Accepts [] r₂ := Reading.accepts_push (by simp [Piece.nodes, slash]; rfl)
  let r₃ : Reading := r₂.push (.fixed (.anchor r₂.level.mode .textEnd))
  have hlast : r₂.Accepts [] r₃ := Reading.accepts_push (by simp [Piece.nodes]; rfl)
  have hscan : scan (Reading.start flags).level.mode.verbose (.plain '^')
      (tokens (parts.flatMap (Part.pattern config constraints) ++ "/?\\Z".toList)) =
      .ok (.anchor .lineStart, tokens (parts.flatMap (Part.pattern config constraints) ++
        "/?\\Z".toList)) := by
    show scan flags.verbose _ _ = _
    rw [hverbose]
    rfl
  have hanchor (before after : Nat) :
      (Reading.start flags).step (.anchor .lineStart) before after = .ok r₀ := rfl
  have hscan' : scan r₂.level.mode.verbose (.escaped 'Z') [] = .ok (.anchor .textEnd, []) := rfl
  have hfinal : (Reading.start flags).read 0 (tokens text.toList) = .ok r₃ := by
    rw [htext, List.cons_append, tokens_cons (by decide), Reading.read_cons hscan, hanchor,
      Except.bind_ok, hread, hend, read_slash hplain₁ ⟨by simp, by simp⟩,
      Reading.read_cons (r := r₂) hscan']
    rfl
  obtain ⟨regex, hcompile, -⟩ := compile_of_read hdangles hascii htemplate hfinal
    (((hstart.trans hparts).trans hslash).trans hlast)
  exact ⟨regex, hcompile⟩

theorem checkConstraint_of_fits {name : String} (h : Fits text) :
    checkConstraint name text template = .ok () := by
  obtain ⟨regex, hcompile, hnames⟩ := h.compiles
  simp only [checkConstraint, Config.compilePattern, hcompile, Except.mapError, Except.bind_ok,
    hnames]
  rfl

theorem closePlaceholder_of_checked (draft : Draft) {body : List Char}
    (hname : Text.isIdentifier (parameterOf config body).name.toList)
    (hnew : (parameterOf config body).name ∉ draft.parameters.map (·.name))
    (hchecked : checkConstraint (parameterOf config body).name
      (constraintFor config constraints (parameterOf config body).name) template = .ok ()) :
    ∃ draft', closePlaceholder config constraints template draft body = .ok draft' ∧
      draft'.body = none ∧ draft'.parameters = draft.parameters ++ [parameterOf config body] := by
  have hother : draft.parameters.any (·.name == (parameterOf config body).name) = false := by
    rw [List.any_eq_false]
    intro parameter hmem hsame
    exact hnew (List.mem_map.mpr ⟨parameter, hmem, by simpa using hsame⟩)
  refine ⟨{ pattern := draft.pattern ++ fragment (parameterOf config body)
              (constraintFor config constraints (parameterOf config body).name)
            parameters := draft.parameters ++ [parameterOf config body] }, ?_, rfl, rfl⟩
  unfold closePlaceholder
  simp only [hname, hother, hchecked]
  rfl

-- One character of a template whose placeholders pass their checks.
theorem exists_step (template : String) {draft : Draft} {c : Char} {cs : List Char}
    (hparts : parts? config draft.body (c :: cs) = some parts)
    (hnames : ∀ parameter ∈ slots parts, Text.isIdentifier parameter.name.toList)
    (hnodup : (draft.parameters.map (·.name) ++ (slots parts).map (·.name)).Nodup)
    (hchecked : ∀ parameter ∈ slots parts, checkConstraint parameter.name
      (constraintFor config constraints parameter.name) template = .ok ()) :
    ∃ draft' parts', step config constraints template draft c = .ok draft' ∧
      parts? config draft'.body cs = some parts' ∧
      draft'.parameters ++ slots parts' = draft.parameters ++ slots parts ∧
      slots parts' ⊆ slots parts := by
  obtain ⟨pattern, body, parameters⟩ := draft
  cases body with
  | none =>
      rw [parts?] at hparts
      by_cases hopen : c = config.paramOpen
      · rw [if_pos hopen] at hparts
        exact ⟨_, parts, if_pos hopen, hparts, rfl, List.Subset.refl _⟩
      · rw [if_neg hopen] at hparts
        obtain ⟨rest, hrest, rfl⟩ := Option.map_eq_some_iff.mp hparts
        rw [slots_attach]
        exact ⟨_, rest, if_neg hopen, hrest, rfl, List.Subset.refl _⟩
  | some body =>
      rw [parts?] at hparts
      by_cases hclose : c = config.paramClose
      · rw [if_pos hclose] at hparts
        obtain ⟨rest, hrest, rfl⟩ := Option.map_eq_some_iff.mp hparts
        have hslots : slots (.slot false (parameterOf config body) :: rest) =
            parameterOf config body :: slots rest := rfl
        rw [hslots, List.forall_mem_cons] at hnames hchecked
        rw [hslots, List.map_cons] at hnodup
        have hnew : (parameterOf config body).name ∉ parameters.map (·.name) := fun hin =>
          (List.nodup_append.mp hnodup).2.2 _ hin _ List.mem_cons_self rfl
        obtain ⟨draft', hclosed, hbody, hparameters⟩ := closePlaceholder_of_checked
          ⟨pattern, some body, parameters⟩ hnames.1 hnew hchecked.1
        refine ⟨draft', rest, (if_pos hclose).trans hclosed, hbody ▸ hrest, ?_, ?_⟩
        · rw [hparameters, hslots, List.append_assoc]
          rfl
        · rw [hslots]
          exact List.subset_cons_self _ _
      · rw [if_neg hclose] at hparts
        exact ⟨_, parts, if_neg hclose, hparts, rfl, List.Subset.refl _⟩

-- Where each placeholder passes its checks, a template is read to its end.
theorem exists_fold (template : String) (draft : Draft) {cs : List Char}
    (hparts : parts? config draft.body cs = some parts)
    (hnames : ∀ parameter ∈ slots parts, Text.isIdentifier parameter.name.toList)
    (hnodup : (draft.parameters.map (·.name) ++ (slots parts).map (·.name)).Nodup)
    (hchecked : ∀ parameter ∈ slots parts, checkConstraint parameter.name
      (constraintFor config constraints parameter.name) template = .ok ()) :
    ∃ draft', cs.foldlM (step config constraints template) draft = .ok draft' ∧
      draft'.body = none := by
  induction cs generalizing draft parts with
  | nil =>
      cases hbody : draft.body with
      | none => exact ⟨draft, rfl, hbody⟩
      | some body => simp [hbody, parts?] at hparts
  | cons c cs ih =>
      obtain ⟨draft₁, parts₁, hstep, hparts₁, hsame, hsub⟩ :=
        exists_step template hparts hnames hnodup hchecked
      have hnodup₁ : (draft₁.parameters.map (·.name) ++ (slots parts₁).map (·.name)).Nodup := by
        rw [← List.map_append, hsame, List.map_append]
        exact hnodup
      obtain ⟨draft', hfold, hclosed⟩ := ih draft₁ hparts₁
        (fun parameter hmem => hnames parameter (hsub hmem)) hnodup₁
        (fun parameter hmem => hchecked parameter (hsub hmem))
      refine ⟨draft', ?_, hclosed⟩
      rw [List.foldlM_cons, hstep, Except.bind_ok, hfold]

theorem exists_read (hparts : parts? config none template.toList = some parts)
    (hsound : Sound config constraints template (slots parts)) :
    ∃ text, Template.read config constraints template = .ok (text, slots parts) ∧
      text.toList = '^' :: parts.flatMap (Part.pattern config constraints) ++ "/?\\Z".toList := by
  obtain ⟨draft, hfold, hclosed⟩ :=
    exists_fold template {} hparts hsound.identifiers hsound.names hsound.checked
  have hread : Template.read config constraints template =
      .ok (String.ofList ('^' :: draft.pattern ++ "/?\\Z".toList), draft.parameters) := by
    simp only [Template.read, hfold, Except.bind_ok, hclosed]
    rfl
  obtain ⟨parts', hparts', htext, hparameters, -⟩ := read_eq_ok hread
  obtain rfl : parts = parts' := Option.some.inj (hparts.symm.trans hparts')
  exact ⟨_, hparameters ▸ hread, htext⟩

-- A template that is read is accepted if its pattern compiles.
theorem ofTemplate_of_read {parameters : List Parameter} {regex : Regex}
    (hread : Template.read config constraints template = .ok (text, parameters))
    (hcompile : compile text config.flags = .ok regex) :
    (Pattern.ofTemplate config constraints template).result =
      .ok { template, regex, parameters } := by
  have hregex : Pattern.compileRegex config template text = .ok regex := by
    rw [Pattern.compileRegex, Config.compilePattern, hcompile]
    rfl
  rw [ofTemplate_result, hread, Except.bind_ok]
  dsimp only
  rw [hregex, Except.bind_ok]

-- A template whose literals stand for themselves is accepted if it has distinct identifiers for
-- names, each with a constraint that can be the body of its group.
theorem exists_of_verbatim (hparts : parts? config none template.toList = some parts)
    (hverbatim : ∀ c, .literal c ∈ parts → Verbatim config c)
    (hnames : ∀ parameter ∈ slots parts, Text.isIdentifier parameter.name.toList)
    (hnodup : ((slots parts).map (·.name)).Nodup)
    (hfits : ∀ parameter ∈ slots parts,
      Fits (constraintFor config constraints parameter.name)) :
    ∃ pattern, (Pattern.ofTemplate config constraints template).result = .ok pattern := by
  have hsound : Sound config constraints template (slots parts) :=
    ⟨hnodup, hnames, fun parameter hmem => checkConstraint_of_fits (hfits parameter hmem)⟩
  obtain ⟨text, hread, htext⟩ := exists_read hparts hsound
  obtain ⟨regex, hcompile⟩ := exists_compile config.flags hverbatim rfl rfl rfl htext
    hnames hnodup hfits
  exact ⟨_, ofTemplate_of_read hread hcompile⟩

theorem exists_ofTemplate (hescape : config.escapeLiterals = true)
    (hparts : parts? config none template.toList = some parts)
    (hnames : ∀ parameter ∈ slots parts, Text.isIdentifier parameter.name.toList)
    (hnodup : ((slots parts).map (·.name)).Nodup)
    (hfits : ∀ parameter ∈ slots parts,
      Fits (constraintFor config constraints parameter.name)) :
    ∃ pattern, (Pattern.ofTemplate config constraints template).result = .ok pattern :=
  exists_of_verbatim hparts (fun _ _ => .inl hescape) hnames hnodup hfits

-- What is in force for the placeholders is all that counts of the constraints.
theorem ofTemplate_of_same {others : Constraints} {pattern : Pattern}
    (h : (Pattern.ofTemplate config constraints template).result = .ok pattern)
    (hsame : ∀ name ∈ pattern.parameterNames,
      constraintFor config others name = constraintFor config constraints name) :
    ∃ pattern', (Pattern.ofTemplate config others template).result = .ok pattern' := by
  obtain ⟨text, hread, hcompile⟩ := read_of_ofTemplate h
  obtain ⟨parts, hparts, htext, hparameters, hsound⟩ := read_eq_ok hread
  rw [Pattern.parameterNames, hparameters] at hsame
  rw [hparameters] at hsound
  have hothers : Sound config others template (slots parts) := by
    refine ⟨hsound.names, hsound.identifiers, fun parameter hmem => ?_⟩
    rw [hsame _ (List.mem_map_of_mem hmem)]
    exact hsound.checked parameter hmem
  obtain ⟨text', hread', htext'⟩ := exists_read hparts hothers
  obtain rfl : text' = text := by
    rw [← String.toList_inj, htext', htext, pattern_congr hsame]
  exact ⟨_, ofTemplate_of_read hread' hcompile⟩

end Signpost.Template
