import Signpost.Proofs.Template.Fragment
import Signpost.Proofs.Template.Parts
import Signpost.Pattern

namespace Signpost.Template

open Signpost.Regex

-- A part of a template as it stands in the compiled pattern. A placeholder has the number of its
-- group and the body of that group.
inductive Item
  | literal (c : Char)
  | slot (parameter : Parameter) (index : Nat) (body : Node)

def Item.nodes (mode : Flags) : Item → List Node
  | .literal c => [.one mode (.literal c.toNat)]
  | .slot parameter index body => slotNodes mode parameter index body

def Item.name? : Item → Option (String × Nat)
  | .literal _ => none
  | .slot parameter index _ => some (parameter.name, index)

-- The items of `parts`, when `groups` groups stand before them. The body of a placeholder is its
-- constraint, moved behind the group of the placeholder.
inductive Laid (config : Config) (constraints : Constraints) (mode : Flags) :
    Nat → List Part → List Item → Prop
  | nil (groups : Nat) : Laid config constraints mode groups [] []
  | literal {groups : Nat} {parts : List Part} {items : List Item} (c : Char)
      (hrest : Laid config constraints mode groups parts items) :
      Laid config constraints mode groups (.literal c :: parts) (.literal c :: items)
  | slot {groups : Nat} {parts : List Part} {items : List Item} {regex : Regex} {body : Node}
      (slashed : Bool) (parameter : Parameter)
      (hcompile : compile (constraintFor config constraints parameter.name) {} = .ok regex)
      (hbody : Embeds (constraintFor config constraints parameter.name) regex (groups + 1) mode
        body)
      (hrest : Laid config constraints mode (groups + 1 + regex.groups) parts items) :
      Laid config constraints mode groups (.slot slashed parameter :: parts)
        (.slot parameter (groups + 1) body :: items)

variable {config : Config} {constraints : Constraints} {template : String} {parts : List Part}
  {r found : Reading}

theorem compile_of_checkConstraint {name pattern : String}
    (h : checkConstraint name pattern template = .ok ()) :
    ∃ regex, compile pattern {} = .ok regex ∧ regex.names = [] := by
  obtain ⟨regex, hcompile, h⟩ := Except.bind_eq_ok.mp h
  refine ⟨regex, Except.eq_ok_of_mapError hcompile, ?_⟩
  by_cases hnames : regex.names.isEmpty
  · exact List.isEmpty_iff.mp hnames
  · simp [hnames] at h

-- Parts begin with a slash, a bracket or a character that stands for itself, and so does the end
-- of the pattern.
theorem calm_parts (hverbatim : ∀ c, .literal c ∈ parts → Verbatim config c) {rest : List Char}
    (hrest : Reading.Calm (tokens rest)) :
    Reading.Calm (tokens (parts.flatMap (Part.pattern config constraints) ++ rest)) := by
  cases parts with
  | nil => simpa using hrest
  | cons part parts =>
      cases part with
      | literal c =>
          have hc := hverbatim c List.mem_cons_self
          simp only [List.flatMap_cons, Part.pattern, List.append_assoc, hc.tokens_literal]
          refine ⟨?_, ?_⟩
          · simpa using hc.literalToken_ne_plain (by decide)
          · simpa using hc.literalToken_ne_plain (by decide)
      | slot slashed parameter =>
          have hhead (pattern : String) : ∃ c cs, fragment parameter pattern = c :: cs ∧
              c ≠ '\\' ∧ c ≠ '?' ∧ c ≠ '+' := by
            unfold fragment
            dsimp only
            split
            · exact ⟨'/', _, rfl, by decide⟩
            · exact ⟨'(', _, rfl, by decide⟩
          obtain ⟨c, cs, hcs, hback, hmark, hplus⟩ :=
            hhead (constraintFor config constraints parameter.name)
          simp only [List.flatMap_cons, Part.pattern, hcs, List.append_assoc, List.cons_append,
            tokens_cons hback]
          exact ⟨by simpa using hmark, by simpa using hplus⟩

theorem read_parts (hverbatim : ∀ c, .literal c ∈ parts → Verbatim config c)
    (hplain : r.level.mode.verbose = false) {rest : List Char}
    (hrest : Reading.Calm (tokens rest))
    (hnames : ∀ parameter ∈ slots parts, Text.isIdentifier parameter.name.toList)
    (hchecked : ∀ parameter ∈ slots parts, checkConstraint parameter.name
      (constraintFor config constraints parameter.name) template = .ok ())
    (h : r.read 0 (tokens (parts.flatMap (Part.pattern config constraints) ++ rest)) = .ok found) :
    ∃ items r₁, Laid config constraints r.level.mode r.widths.length parts items ∧
      Reading.Adds (items.flatMap (Item.nodes r.level.mode)) (items.filterMap Item.name?) r r₁ ∧
      r₁.read 0 (tokens rest) = .ok found := by
  induction parts generalizing r with
  | nil => exact ⟨[], r, .nil _, r.adds_nil, by simpa using h⟩
  | cons part parts ih =>
      have hlater : ∀ c, .literal c ∈ parts → Verbatim config c := fun c hmem =>
        hverbatim c (List.mem_cons_of_mem _ hmem)
      have hcalm : Reading.Calm
          (tokens (parts.flatMap (Part.pattern config constraints) ++ rest)) :=
        calm_parts hlater hrest
      cases part with
      | literal c =>
          have hc := hverbatim c List.mem_cons_self
          simp only [List.flatMap_cons, Part.pattern, List.append_assoc, hc.tokens_literal] at h
          rw [read_atom (hplain ▸ hc.scan_literal _)] at h
          have hadds := r.adds_push (.part (.one r.level.mode (.literal c.toNat)))
          obtain ⟨items, r₁, hlaid, hadds₁, h⟩ := ih (r := r.push _) hlater hplain hnames
            hchecked h
          exact ⟨.literal c :: items, r₁, .literal c hlaid, hadds.trans hadds₁, h⟩
      | slot slashed parameter =>
          have hmem : parameter ∈ slots (.slot slashed parameter :: parts) := by
            simp [slots, Part.parameter?]
          have hsub : ∀ other ∈ slots parts, other ∈ slots (.slot slashed parameter :: parts) :=
            fun other hother => List.mem_cons_of_mem _ hother
          obtain ⟨regex, hcompile, hnone⟩ :=
            compile_of_checkConstraint (hchecked parameter hmem)
          simp only [List.flatMap_cons, Part.pattern, List.append_assoc] at h
          obtain ⟨body, r₁, hbody, hadds, hwidths, h⟩ :=
            read_fragment hplain (hnames parameter hmem) hcompile hnone hcalm h
          have hmode : r₁.level.mode = r.level.mode := hadds.mode
          obtain ⟨items, r₂, hlaid, hadds₁, h⟩ := ih hlater (hmode ▸ hplain)
            (fun other hother => hnames other (hsub other hother))
            (fun other hother => hchecked other (hsub other hother)) h
          rw [hmode, hwidths] at hlaid
          rw [hmode] at hadds₁
          refine ⟨.slot parameter (r.widths.length + 1) body :: items, r₂, ?_, ?_, h⟩
          · exact .slot slashed parameter hcompile hbody hlaid
          · exact hadds.trans hadds₁

-- The node of a whole template.
def wholeNode (mode : Flags) (items : List Item) : Node :=
  .ofRow (.anchor mode .lineStart :: items.flatMap (Item.nodes mode) ++
    [slash mode, .anchor mode .textEnd])

theorem layout_of_compile {text : String} {regex : Regex} {flags : Flags}
    (hverbatim : ∀ c, .literal c ∈ parts → Verbatim config c) (hplain : flags.verbose = false)
    (htext : text.toList =
      '^' :: parts.flatMap (Part.pattern config constraints) ++ "/?\\Z".toList)
    (hnames : ∀ parameter ∈ slots parts, Text.isIdentifier parameter.name.toList)
    (hchecked : ∀ parameter ∈ slots parts, checkConstraint parameter.name
      (constraintFor config constraints parameter.name) template = .ok ())
    (h : compile text flags = .ok regex) :
    ∃ items, Laid config constraints flags 0 parts items ∧
      regex.node = wholeNode flags items ∧ regex.names = items.filterMap Item.name? := by
  obtain ⟨-, final, hread, houter, -, hnode, -, hfinal⟩ := read_of_compile h
  have hend : tokens "/?\\Z".toList = [.plain '/', .plain '?', .escaped 'Z'] := by decide
  have hcalm : Reading.Calm (tokens "/?\\Z".toList) := by
    rw [hend]
    exact ⟨by simp, by simp⟩
  have hstart : scan (Reading.start flags).level.mode.verbose (.plain '^')
      (tokens (parts.flatMap (Part.pattern config constraints) ++ "/?\\Z".toList)) =
      .ok (.anchor .lineStart, tokens (parts.flatMap (Part.pattern config constraints) ++
        "/?\\Z".toList)) := by
    have hverbose : (Reading.start flags).level.mode.verbose = false := hplain
    rw [hverbose]
    rfl
  rw [htext, List.cons_append, tokens_cons (by decide), Reading.read_cons hstart] at hread
  obtain ⟨r₀, hstep, hread⟩ := Except.bind_eq_ok.mp hread
  have hadds₀ := (Reading.start flags).adds_push (.fixed (.anchor flags .lineStart))
  rw [← Except.ok.inj hstep] at hread
  obtain ⟨items, r₁, hlaid, hadds₁, hread⟩ := read_parts (r := (Reading.start flags).push _)
    hverbatim hplain hcalm hnames hchecked hread
  have hadds := hadds₀.trans hadds₁
  have hmode : r₁.level.mode = flags := hadds.mode
  rw [hend, read_slash (hmode ▸ hplain) ⟨by simp, by simp⟩, hmode] at hread
  have hadds := hadds.trans (r₁.adds_push (.counted (slash flags)))
  generalize r₁.push (.counted (slash flags)) = r₂ at hread hadds
  have hmode : r₂.level.mode = flags := hadds.mode
  have hlast : scan r₂.level.mode.verbose (.escaped 'Z') [] = .ok (.anchor .textEnd, []) := rfl
  rw [Reading.read_cons hlast] at hread
  obtain ⟨r₃, hstep, hread⟩ := Except.bind_eq_ok.mp hread
  rw [Reading.read_nil, ← Except.ok.inj hstep, Except.ok.injEq] at hread
  have hadds := hadds.trans (r₂.adds_push (.fixed (.anchor r₂.level.mode .textEnd)))
  rw [hread, hmode] at hadds
  obtain ⟨row, hlevel, hrow⟩ := hadds.level
  refine ⟨items, hlaid, ?_, ?_⟩
  · have hnodes : row.nodes = .anchor flags .lineStart :: items.flatMap (Item.nodes flags) ++
        [slash flags, .anchor flags .textEnd] := by
      rw [hrow]
      simp only [Piece.nodes, List.append_assoc, List.cons_append]
      rfl
    rw [hnode, hlevel]
    exact congrArg Node.ofRow hnodes
  · rw [hfinal, hadds.names]
    simp [Reading.start]

-- What an accepted template was compiled to.
structure Compiled (config : Config) (constraints : Constraints) (template : String)
    (parts : List Part) (items : List Item) (pattern : Pattern) : Prop where
  cut : parts? config none template.toList = some parts
  parameters : pattern.parameters = slots parts
  sound : Sound config constraints template pattern.parameters
  laid : Laid config constraints config.flags 0 parts items
  node : pattern.regex.node = wholeNode config.flags items
  names : pattern.regex.names = items.filterMap Item.name?

-- A template is read to the text of a pattern, and that text is compiled. Whether there was a
-- warning in between makes no difference.
theorem ofTemplate_result (config : Config) (constraints : Constraints) (template : String) :
    (Pattern.ofTemplate config constraints template).result =
      Template.read config constraints template >>= fun found =>
        Pattern.compileRegex config template found.1 >>= fun regex =>
          .ok { template, regex, parameters := found.2 } := by
  rw [Pattern.ofTemplate, Logged.result_bind]
  refine congrArg (Template.read config constraints template >>= ·) (funext fun found => ?_)
  obtain ⟨text, parameters⟩ := found
  dsimp only
  have hlast : (do
      let regex ← (Pattern.compileRegex config template text : Logged Regex)
      Logged.log .routing .debug ("Compiled " ++ Text.quoted template ++ " -> " ++ text)
      pure { template, regex, parameters : Pattern }).result =
      Pattern.compileRegex config template text >>= fun regex =>
        .ok { template, regex, parameters } := by
    rw [Logged.result_bind]
    rfl
  split
  · rw [Logged.result_bind]
    exact hlast
  · exact hlast

theorem read_of_ofTemplate {pattern : Pattern}
    (h : (Pattern.ofTemplate config constraints template).result = .ok pattern) :
    ∃ text, Template.read config constraints template = .ok (text, pattern.parameters) ∧
      compile text config.flags = .ok pattern.regex := by
  rw [ofTemplate_result] at h
  obtain ⟨⟨text, parameters⟩, hread, h⟩ := Except.bind_eq_ok.mp h
  obtain ⟨regex, hregex, h⟩ := Except.bind_eq_ok.mp h
  obtain rfl := Except.ok.inj h
  exact ⟨text, hread, Except.eq_ok_of_mapError hregex⟩

-- A template whose literals stand for themselves compiles to the nodes of its parts.
theorem compiled_of_verbatim {pattern : Pattern}
    (hparts : parts? config none template.toList = some parts)
    (hverbatim : ∀ c, .literal c ∈ parts → Verbatim config c)
    (h : (Pattern.ofTemplate config constraints template).result = .ok pattern) :
    ∃ items, Compiled config constraints template parts items pattern := by
  obtain ⟨text, hread, hcompile⟩ := read_of_ofTemplate h
  obtain ⟨parts', hparts', htext, hparameters, hsound⟩ := read_eq_ok hread
  obtain rfl : parts = parts' := Option.some.inj (hparts.symm.trans hparts')
  rw [hparameters] at hsound
  obtain ⟨items, hlaid, hnode, hnames⟩ := layout_of_compile hverbatim rfl htext
    hsound.identifiers hsound.checked hcompile
  exact ⟨items, hparts, hparameters, hparameters ▸ hsound, hlaid, hnode, hnames⟩

theorem compiled_of_ofTemplate {pattern : Pattern} (hescape : config.escapeLiterals = true)
    (h : (Pattern.ofTemplate config constraints template).result = .ok pattern) :
    ∃ parts items, Compiled config constraints template parts items pattern := by
  obtain ⟨text, hread, -⟩ := read_of_ofTemplate h
  obtain ⟨parts, hparts, -⟩ := read_eq_ok hread
  obtain ⟨items, hcompiled⟩ := compiled_of_verbatim hparts (fun _ _ => .inl hescape) h
  exact ⟨parts, items, hcompiled⟩

end Signpost.Template
