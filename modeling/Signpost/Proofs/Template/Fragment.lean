import Signpost.Proofs.Regex.Embedding
import Signpost.Proofs.Template.Escape

namespace Signpost.Regex.Reading

variable {r r' r'' : Reading} {t : Token} {ts rest : List Token} {lexeme : Lexeme}
  {nodes nodes' : List Node} {names names' : List (String × Nat)}

-- From `r` to `r'` the row being read grew by `nodes` and the names by `names`.
structure Adds (nodes : List Node) (names : List (String × Nat)) (r r' : Reading) : Prop where
  level : ∃ row, r'.level = { r.level with row } ∧ row.nodes = r.level.row.nodes ++ nodes
  outer : r'.outer = r.outer
  names : r'.names = r.names ++ names

theorem Adds.trans (h : Adds nodes names r r') (h' : Adds nodes' names' r' r'') :
    Adds (nodes ++ nodes') (names ++ names') r r'' := by
  obtain ⟨row, hlevel, hrow⟩ := h.level
  obtain ⟨row', hlevel', hrow'⟩ := h'.level
  refine ⟨⟨row', ?_, ?_⟩, h'.outer.trans h.outer, ?_⟩
  · rw [hlevel', hlevel]
  · rw [hrow', hlevel, hrow, List.append_assoc]
  · rw [h'.names, h.names, List.append_assoc]

theorem Adds.mode (h : Adds nodes names r r') : r'.level.mode = r.level.mode := by
  obtain ⟨row, hlevel, -⟩ := h.level
  rw [hlevel]

theorem adds_nil (r : Reading) : Adds [] [] r r :=
  ⟨⟨r.level.row, rfl, (List.append_nil _).symm⟩, rfl, (List.append_nil _).symm⟩

theorem adds_push (r : Reading) (piece : Piece) : Adds piece.nodes [] r (r.push piece) :=
  ⟨⟨r.level.row.push piece, rfl, rfl⟩, rfl, (List.append_nil _).symm⟩

-- The tokens that a quantifier before them is not changed by.
def Calm (ts : List Token) : Prop :=
  ts.head? ≠ some (.plain '?') ∧ ts.head? ≠ some (.plain '+')

theorem scanGreed_calm (h : Calm ts) (least : Nat) (most : Option Nat) :
    scanGreed least most ts = (.quantifier .greedy least most, ts) := by
  unfold scanGreed
  split
  · exact (h.1 rfl).elim
  · exact (h.2 rfl).elim
  · rfl

end Signpost.Regex.Reading

namespace Signpost.Template

open Signpost.Regex

variable {r found : Reading} {ts more : List Token} {text : String}

def optional (node : Node) : Node := .repeats .greedy 0 (some 1) node

def slash (mode : Flags) : Node := optional (.one mode (.literal '/'.toNat))

def stray (mode : Flags) : Node := optional (.one mode (.other '/'.toNat))

-- What stands in the compiled pattern for a placeholder whose group has the body `body`.
def slotRow (mode : Flags) (index : Nat) (body : Node) : List Node :=
  [slash mode, .capture index body, stray mode]

theorem read_atom {t : Token} {atom : Atom} {rest : List Token}
    (hscan : scan r.level.mode.verbose t ts = .ok (.atom atom, rest)) :
    r.read 0 (t :: ts) = (r.push (.part (.one r.level.mode atom))).read 0 rest := by
  rw [Reading.read_cons hscan]
  rfl

theorem scan_optional (hcalm : Reading.Calm ts) :
    scan false (.plain '?') ts = .ok (.quantifier .greedy 0 (some 1), ts) := by
  simp [scan, scanPlain, Reading.scanGreed_calm hcalm]

theorem read_optional {piece : Piece} {node : Node} (hplain : r.level.mode.verbose = false)
    (hnode : piece.repeatable? = some node) (hcalm : Reading.Calm ts) :
    (r.push piece).read 0 (.plain '?' :: ts) = (r.push (.counted (optional node))).read 0 ts := by
  have hverbose : (r.push piece).level.mode.verbose = false := hplain
  rw [Reading.read_cons (hverbose ▸ scan_optional hcalm)]
  cases piece with
  | fixed => simp [Piece.repeatable?] at hnode
  | counted => simp [Piece.repeatable?] at hnode
  | part =>
      obtain rfl := Option.some.inj hnode
      rfl
  | bare =>
      obtain rfl := Option.some.inj hnode
      rfl

theorem scan_slash (ts : List Token) :
    scan false (.plain '/') ts = .ok (.atom (.literal '/'.toNat), ts) := rfl

theorem read_slash (hplain : r.level.mode.verbose = false) (hcalm : Reading.Calm ts) :
    r.read 0 (.plain '/' :: .plain '?' :: ts) =
      (r.push (.counted (slash r.level.mode))).read 0 ts := by
  rw [read_atom (hplain ▸ scan_slash _), read_optional hplain rfl hcalm]
  rfl

theorem scan_other (ts : List Token) :
    scan false (.plain '[') (.plain '^' :: .plain '/' :: .plain ']' :: ts) =
      .ok (.atom (.other '/'.toNat), ts) := by
  have hitems (mark : Nat) : scanItems mark [] .idle 0 (.plain '/' :: .plain ']' :: ts) =
      .ok ([.single '/'.toNat], ts) := by
    simp [scanItems, scanMember, Pending.items]
  simp only [scan, scanPlain, scanSet, Bool.false_and, Bool.false_eq_true, if_false, hitems]
  rfl

theorem read_other (hplain : r.level.mode.verbose = false) (ts : List Token) :
    r.read 0 (.plain '[' :: .plain '^' :: .plain '/' :: .plain ']' :: ts) =
      (r.push (.part (.one r.level.mode (.other '/'.toNat)))).read 0 ts :=
  read_atom (hplain ▸ scan_other ts)

theorem read_stray (hplain : r.level.mode.verbose = false) (hcalm : Reading.Calm ts) :
    r.read 0 (.plain '[' :: .plain '^' :: .plain '/' :: .plain ']' :: .plain '?' :: ts) =
      (r.push (.counted (stray r.level.mode))).read 0 ts := by
  rw [read_other hplain, read_optional hplain rfl hcalm]
  rfl

theorem not_mem_identifier {c : Char} {name : List Char} (hname : Text.isIdentifier name)
    (hstart : Text.isIdentifierStart c = false) (hcontinue : Text.isIdentifierContinue c = false) :
    c ∉ name := by
  intro hmem
  cases name with
  | nil => simp at hmem
  | cons d ds =>
      simp only [Text.isIdentifier, Bool.and_eq_true, List.all_eq_true] at hname
      rcases List.mem_cons.mp hmem with rfl | hmem
      · rw [hname.1] at hstart
        exact absurd hstart (by decide)
      · rw [hname.2 c hmem] at hcontinue
        exact absurd hcontinue (by decide)

-- A name is cut into tokens character by character.
theorem backslash_not_mem {name : List Char} (hname : Text.isIdentifier name) : '\\' ∉ name :=
  not_mem_identifier hname (by decide +kernel) (by decide +kernel)

theorem cutAt_plain {closer : Char} {name : List Char} (h : closer ∉ name) (rest : List Token) :
    cutAt closer (name.map .plain ++ .plain closer :: rest) = (name, some rest) := by
  induction name with
  | nil => simp [cutAt]
  | cons c name ih =>
      simp only [List.mem_cons, not_or] at h
      have hne : ¬Token.plain c = Token.plain closer := by
        rintro ⟨⟩
        exact h.1 rfl
      simp [cutAt, hne, ih h.2, Token.chars]

theorem scan_named {name : String} (hname : Text.isIdentifier name.toList) :
    scan false (.plain '(') (.plain '?' :: .plain 'P' :: .plain '<' ::
      (name.toList.map .plain ++ .plain '>' :: ts)) =
      .ok (.opening (.capture (some name)), ts) := by
  have hcloser : '>' ∉ name.toList :=
    not_mem_identifier hname (by decide +kernel) (by decide +kernel)
  have hcut : scanName '>' "group name" (name.toList.map .plain ++ .plain '>' :: ts) =
      .ok (name.toList, ts) := by
    rw [scanName, cutAt_plain hcloser]
    cases hchars : name.toList with
    | nil => simp [hchars, Text.isIdentifier] at hname
    | cons => rfl
  have hgroup : scanGroupName '>' (name.toList.map .plain ++ .plain '>' :: ts) =
      .ok (name, ts) := by
    simp [scanGroupName, hcut, hname, String.ofList_toList, pure, Except.pure]
  simp [scan, scanPlain, scanOpening, hgroup, pure, Except.pure]

-- A named group opens, and its name is new.
theorem read_capture {name : String} (hplain : r.level.mode.verbose = false)
    (hname : Text.isIdentifier name.toList)
    (h : r.read 0 (.plain '(' :: .plain '?' :: .plain 'P' :: .plain '<' ::
      (name.toList.map .plain ++ .plain '>' :: ts)) = .ok found) :
    ∃ mark, Reading.read
      (Reading.enter
        { r with
          widths := r.widths ++ [none], names := r.names ++ [(name, r.widths.length + 1)] }
        (.capture (r.widths.length + 1)) r.level.mode mark) 0 ts = .ok found := by
  rw [Reading.read_cons (hplain ▸ scan_named hname)] at h
  obtain ⟨r₁, hstep, h⟩ := Except.bind_eq_ok.mp h
  cases Reading.step_of_step hstep with
  | capture _ mark => exact ⟨mark, h⟩

-- The group of a placeholder, with what stands around it.
def groupText (name text : String) : List Char :=
  "/?(?P<".toList ++ name.toList ++ '>' :: text.toList ++ ")[^/]?".toList

theorem tokens_groupText {name : String} (hname : Text.isIdentifier name.toList)
    (htext : dangles text.toList = false) (cs : List Char) :
    tokens (groupText name text ++ cs) =
      .plain '/' :: .plain '?' :: .plain '(' :: .plain '?' :: .plain 'P' :: .plain '<' ::
        (name.toList.map .plain ++ .plain '>' :: (tokens text.toList ++ .plain ')' ::
          .plain '[' :: .plain '^' :: .plain '/' :: .plain ']' :: .plain '?' :: tokens cs)) := by
  have hfront : '\\' ∉ "/?(?P<".toList ++ name.toList ++ ['>'] := by
    have hback : '\\' ∉ name.toList := backslash_not_mem hname
    simp [hback]
  have hend : '\\' ∉ ")[^/]?".toList := by decide
  have hsplit : groupText name text ++ cs =
      ("/?(?P<".toList ++ name.toList ++ ['>']) ++ (text.toList ++ (")[^/]?".toList ++ cs)) := by
    unfold groupText
    simp only [List.append_assoc, List.cons_append, List.nil_append]
  rw [hsplit, tokens_plain hfront, tokens_append htext, tokens_plain hend]
  simp

-- The group of a placeholder and the slash before it, whatever comes behind.
theorem read_value {name : String} {regex : Regex} {cs : List Char}
    (hplain : r.level.mode.verbose = false) (hname : Text.isIdentifier name.toList)
    (hcompile : compile text {} = .ok regex) (hnames : regex.names = [])
    (h : r.read 0 (tokens (groupText name text ++ cs)) = .ok found) :
    ∃ body r₁, Embeds text regex (r.widths.length + 1) r.level.mode body ∧
      Reading.Adds [slash r.level.mode, .capture (r.widths.length + 1) body]
        [(name, r.widths.length + 1)] r r₁ ∧
      r₁.widths.length = r.widths.length + 1 + regex.groups ∧
      r₁.read 0 (.plain '[' :: .plain '^' :: .plain '/' :: .plain ']' :: .plain '?' ::
        tokens cs) = .ok found := by
  rw [tokens_groupText hname (read_of_compile hcompile).1,
    read_slash hplain ⟨by simp, by simp⟩] at h
  have hplain₁ : (r.push (.counted (slash r.level.mode))).level.mode.verbose = false := hplain
  obtain ⟨mark, h⟩ := read_capture hplain₁ hname h
  obtain ⟨body, r₁, hbody, h, hlevel, houter, hwidths, hnames₁⟩ :=
    read_group hcompile hnames rfl hplain rfl (by simp [Reading.enter, Reading.push]) h
  have hgroup : Reading.Adds [.capture (r.widths.length + 1) body]
      [(name, r.widths.length + 1)] (r.push (.counted (slash r.level.mode))) r₁ :=
    ⟨⟨_, hlevel, rfl⟩, houter, hnames₁⟩
  have hadds := (Reading.adds_push r (.counted (slash r.level.mode))).trans hgroup
  exact ⟨body, r₁, hbody, hadds, hwidths, h⟩

theorem read_groupText {name : String} {regex : Regex} {cs : List Char}
    (hplain : r.level.mode.verbose = false) (hname : Text.isIdentifier name.toList)
    (hcompile : compile text {} = .ok regex) (hnames : regex.names = [])
    (hcalm : Reading.Calm (tokens cs))
    (h : r.read 0 (tokens (groupText name text ++ cs)) = .ok found) :
    ∃ body r₁, Embeds text regex (r.widths.length + 1) r.level.mode body ∧
      Reading.Adds (slotRow r.level.mode (r.widths.length + 1) body)
        [(name, r.widths.length + 1)] r r₁ ∧
      r₁.widths.length = r.widths.length + 1 + regex.groups ∧
      r₁.read 0 (tokens cs) = .ok found := by
  obtain ⟨body, r₁, hbody, hadds, hwidths, h⟩ := read_value hplain hname hcompile hnames h
  have hmode : r₁.level.mode = r.level.mode := hadds.mode
  rw [read_stray (hmode ▸ hplain) hcalm] at h
  have hadds := hadds.trans (Reading.adds_push r₁ (.counted (stray r₁.level.mode)))
  rw [hmode] at hadds h
  exact ⟨body, _, hbody, hadds, hwidths, h⟩

-- The nodes of a placeholder. An optional one stands in brackets that may be passed over.
def slotNodes (mode : Flags) (parameter : Parameter) (index : Nat) (body : Node) : List Node :=
  if parameter.required then slotRow mode index body
  else [optional (.ofRow (slotRow mode index body))]

theorem tokens_bracketed (name text : String) (cs : List Char) :
    tokens ("(?:".toList ++ groupText name text ++ ")?".toList ++ cs) =
      .plain '(' :: .plain '?' :: .plain ':' ::
        tokens (groupText name text ++ (")?".toList ++ cs)) := by
  have hopen : '\\' ∉ "(?:".toList := by decide
  simp only [List.append_assoc, tokens_plain hopen]
  rfl

theorem tokens_bracketClose (cs : List Char) :
    tokens (")?".toList ++ cs) = .plain ')' :: .plain '?' :: tokens cs := by
  have hback : '\\' ∉ ")?".toList := by decide
  rw [tokens_plain hback]
  rfl

theorem scan_bracket (ts : List Token) :
    scan false (.plain '(') (.plain '?' :: .plain ':' :: ts) = .ok (.opening .bare, ts) := rfl

theorem scan_close (ts : List Token) : scan false (.plain ')') ts = .ok (.closing, ts) := rfl

-- The brackets of an optional placeholder, up to the sign that it may be left out.
theorem read_brackets {name : String} {regex : Regex} {cs : List Char}
    (hplain : r.level.mode.verbose = false) (hname : Text.isIdentifier name.toList)
    (hcompile : compile text {} = .ok regex) (hnames : regex.names = [])
    (h : r.read 0 (tokens ("(?:".toList ++ groupText name text ++ ")?".toList ++ cs)) =
      .ok found) :
    ∃ (body : Node) (r₁ : Reading),
      Embeds text regex (r.widths.length + 1) r.level.mode body ∧
      r₁.level = r.level ∧ r₁.outer = r.outer ∧
      r₁.names = r.names ++ [(name, r.widths.length + 1)] ∧
      r₁.widths.length = r.widths.length + 1 + regex.groups ∧
      (r₁.push (.bare (slotRow r.level.mode (r.widths.length + 1) body))).read 0
        (.plain '?' :: tokens cs) = .ok found := by
  have hclose : tokens (")?".toList ++ cs) = .plain ')' :: .plain '?' :: tokens cs :=
    tokens_bracketClose cs
  rw [tokens_bracketed, Reading.read_cons (hplain ▸ scan_bracket _)] at h
  obtain ⟨r₀, hstep, h⟩ := Except.bind_eq_ok.mp h
  rw [← Except.ok.inj hstep] at h
  generalize size (_ :: _) = mark at h
  have hplain₀ : (r.enter .bare r.level.mode mark).level.mode.verbose = false := hplain
  have hcalm₀ : Reading.Calm (tokens (")?".toList ++ cs)) := by
    rw [hclose]
    exact ⟨by simp, by simp⟩
  obtain ⟨body, r₁, hbody, hadds, hwidths, h⟩ :=
    read_groupText hplain₀ hname hcompile hnames hcalm₀ h
  have hmode : r₁.level.mode = r.level.mode := hadds.mode
  have hplain₁ : r₁.level.mode.verbose = false := hmode ▸ hplain
  rw [hclose, Reading.read_cons (hplain₁ ▸ scan_close _)] at h
  obtain ⟨r₂, hstep, h⟩ := Except.bind_eq_ok.mp h
  cases Reading.step_of_step hstep with
  | closing parent outer widths before hopened hlength =>
      have houter : r.level :: r.outer = parent :: outer := hadds.outer.symm.trans hopened
      obtain ⟨rfl, rfl⟩ := List.cons.inj houter
      obtain ⟨row, hlevel, hrow⟩ := hadds.level
      have hpiece : r₁.level.piece =
          .bare (slotRow r.level.mode (r.widths.length + 1) body) := by
        rw [hlevel]
        exact congrArg Piece.bare hrow
      rw [hpiece] at h
      -- the reading as if the brackets had not been opened yet
      let r₂ : Reading := { r₁ with level := r.level, outer := r.outer, widths, behind := before }
      exact ⟨body, r₂, hbody, rfl, rfl, hadds.names, hlength.trans hwidths, h⟩

theorem read_bracketed {name : String} {regex : Regex} {cs : List Char}
    (hplain : r.level.mode.verbose = false) (hname : Text.isIdentifier name.toList)
    (hcompile : compile text {} = .ok regex) (hnames : regex.names = [])
    (hcalm : Reading.Calm (tokens cs))
    (h : r.read 0 (tokens ("(?:".toList ++ groupText name text ++ ")?".toList ++ cs)) =
      .ok found) :
    ∃ body r₁, Embeds text regex (r.widths.length + 1) r.level.mode body ∧
      Reading.Adds [optional (.ofRow (slotRow r.level.mode (r.widths.length + 1) body))]
        [(name, r.widths.length + 1)] r r₁ ∧
      r₁.widths.length = r.widths.length + 1 + regex.groups ∧
      r₁.read 0 (tokens cs) = .ok found := by
  obtain ⟨body, r₁, hbody, hlevel, houter, hnames₁, hwidths, h⟩ :=
    read_brackets hplain hname hcompile hnames h
  rw [read_optional (hlevel ▸ hplain) rfl hcalm] at h
  have hadds := Reading.adds_push r₁
    (.counted (optional (.ofRow (slotRow r.level.mode (r.widths.length + 1) body))))
  have hbracket : Reading.Adds [optional (.ofRow (slotRow r.level.mode (r.widths.length + 1) body))]
      [(name, r.widths.length + 1)] r (r₁.push
        (.counted (optional (.ofRow (slotRow r.level.mode (r.widths.length + 1) body))))) :=
    ⟨hlevel ▸ hadds.level, houter, hnames₁⟩
  exact ⟨body, _, hbody, hbracket, hwidths, h⟩

theorem fragment_eq (parameter : Parameter) (text : String) :
    fragment parameter text =
      if parameter.required then groupText parameter.name text
      else "(?:".toList ++ groupText parameter.name text ++ ")?".toList := rfl

-- The fragment of a placeholder adds its nodes, its name, and the groups of its constraint.
theorem read_fragment {parameter : Parameter} {regex : Regex} {cs : List Char}
    (hplain : r.level.mode.verbose = false) (hname : Text.isIdentifier parameter.name.toList)
    (hcompile : compile text {} = .ok regex) (hnames : regex.names = [])
    (hcalm : Reading.Calm (tokens cs))
    (h : r.read 0 (tokens (fragment parameter text ++ cs)) = .ok found) :
    ∃ body r₁, Embeds text regex (r.widths.length + 1) r.level.mode body ∧
      Reading.Adds (slotNodes r.level.mode parameter (r.widths.length + 1) body)
        [(parameter.name, r.widths.length + 1)] r r₁ ∧
      r₁.widths.length = r.widths.length + 1 + regex.groups ∧
      r₁.read 0 (tokens cs) = .ok found := by
  unfold slotNodes
  rw [fragment_eq] at h
  cases hrequired : parameter.required with
  | true =>
      rw [hrequired, if_pos rfl] at h
      exact read_groupText hplain hname hcompile hnames hcalm h
  | false =>
      rw [hrequired, if_neg (by decide)] at h
      exact read_bracketed hplain hname hcompile hnames hcalm h

end Signpost.Template
