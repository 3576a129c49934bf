import Signpost.Proofs.Entries
import Signpost.Proofs.Regex.Binds
import Signpost.Proofs.Template.Binding

namespace Signpost

-- Every parameter has a group, and each way in which the pattern matches takes the groups of those
-- that are required.
def Pattern.bindsRequired (pattern : Pattern) : Bool :=
  pattern.parameters.all fun parameter =>
    (pattern.regex.index? parameter.name).any fun index =>
      !parameter.required || pattern.regex.node.binds index

-- No path makes the pattern fail, and a match of any gives values to the required parameters.
def Pattern.Dependable (pattern : Pattern) : Prop :=
  ∀ path, pattern.match? path = .ok none ∨
    ∃ bindings, pattern.match? path = .ok (some bindings) ∧
      ∀ parameter ∈ pattern.parameters, parameter.required = true →
        parameter.name ∈ Entries.keys bindings

namespace Template

open Signpost.Regex

-- The literals by which a pattern would be taken apart.
def dividers : List Char := ['(', ')', '[', '|', '\\']

-- A pattern that takes the groups of its required parameters never fails to bind them.
theorem dependable_of_bindsRequired {pattern : Pattern} (h : pattern.bindsRequired = true) :
    pattern.Dependable := by
  intro path
  unfold Pattern.match?
  cases hfound : pattern.regex.match? path with
  | none => exact .inl rfl
  | some found =>
      right
      have hend : found ∈ pattern.regex.node.ends (.start path.toList) :=
        List.mem_of_head? ((match?_eq_head? pattern.regex path).symm.trans hfound)
      have hgroup : ∀ parameter ∈ pattern.parameters, ∃ index,
          pattern.regex.index? parameter.name = some index ∧
            (parameter.required = true → ∃ value, found.captured? index = some value) := by
        intro parameter hmem
        have hall := List.all_eq_true.mp h parameter hmem
        obtain ⟨index, hindex, hbinds⟩ := Option.any_eq_true _ _ |>.mp hall
        refine ⟨index, hindex, fun hrequired => ?_⟩
        rw [hrequired, Bool.not_true, Bool.false_or] at hbinds
        exact Node.exists_captured hbinds hend
      let value (parameter : Parameter) : Option (String × String) :=
        (pattern.regex.index? parameter.name).bind fun index =>
          (found.captured? index).map fun value => (parameter.name, String.ofList value)
      have hbind : ∀ parameter ∈ pattern.parameters,
          Pattern.bind? pattern.regex found parameter = .ok (value parameter) := by
        intro parameter hmem
        obtain ⟨index, hindex, hcaptured⟩ := hgroup parameter hmem
        simp only [Pattern.bind?, value, hindex, Option.bind_some]
        cases hvalue : found.captured? index with
        | some value => rfl
        | none =>
            cases hrequired : parameter.required with
            | false => rfl
            | true =>
                obtain ⟨value, hsome⟩ := hcaptured hrequired
                rw [hvalue] at hsome
                cases hsome
      refine ⟨Entries.ofList ((pattern.parameters.map value).filterMap id), ?_, ?_⟩
      · dsimp only
        rw [Except.mapM_eq_ok hbind]
        rfl
      · intro parameter hmem hrequired
        obtain ⟨index, hindex, hcaptured⟩ := hgroup parameter hmem
        obtain ⟨taken, htaken⟩ := hcaptured hrequired
        have hvalue : value parameter = some (parameter.name, String.ofList taken) := by
          simp [value, hindex, htaken]
        have hentry : (parameter.name, String.ofList taken) ∈
            (pattern.parameters.map value).filterMap id :=
          List.mem_filterMap.mpr ⟨_, List.mem_map_of_mem hmem, hvalue⟩
        exact Entries.mem_keys_update hentry

-- From `r` to `r'` the placeholders `entries` were read, each with its group. The groups of those
-- that are required are kept, and so are all that were kept before.
structure Gains (entries : List (Parameter × Nat)) (r r' : Reading) : Prop where
  level : ∃ row, r'.level = { r.level with row }
  outer : r'.outer = r.outer
  names : r'.names = r.names ++ entries.map fun (parameter, index) => (parameter.name, index)
  grows : r.widths.length ≤ r'.widths.length
  kept : ∀ index ≤ r.widths.length, r.level.row.Keeps index → r'.level.row.Keeps index
  gained : ∀ entry ∈ entries, entry.2 ≤ r'.widths.length ∧
    (entry.1.required = true → r'.level.row.Keeps entry.2)

variable {config : Config} {constraints : Constraints} {template : String} {parts : List Part}
  {r r' r'' found : Reading} {entries entries' : List (Parameter × Nat)} {ts rest : List Token}
  {lexeme : Lexeme} {c : Char}

theorem Gains.mode (h : Gains entries r r') : r'.level.mode = r.level.mode := by
  obtain ⟨row, hlevel⟩ := h.level
  rw [hlevel]

theorem Gains.refl (r : Reading) : Gains [] r r where
  level := ⟨r.level.row, rfl⟩
  outer := rfl
  names := (List.append_nil _).symm
  grows := Nat.le_refl _
  kept _ _ h := h
  gained := by simp

theorem Gains.trans (h : Gains entries r r') (h' : Gains entries' r' r'') :
    Gains (entries ++ entries') r r'' where
  level := by
    obtain ⟨row, hlevel⟩ := h.level
    obtain ⟨row', hlevel'⟩ := h'.level
    exact ⟨row', by rw [hlevel', hlevel]⟩
  outer := h'.outer.trans h.outer
  names := by rw [h'.names, h.names, List.map_append, List.append_assoc]
  grows := Nat.le_trans h.grows h'.grows
  kept index hindex hkept := h'.kept index (Nat.le_trans hindex h.grows) (h.kept index hindex hkept)
  gained entry hentry := by
    rcases List.mem_append.mp hentry with hin | hin
    · obtain ⟨hle, hkept⟩ := h.gained entry hin
      exact ⟨Nat.le_trans hle h'.grows, fun hrequired => h'.kept _ hle (hkept hrequired)⟩
    · exact h'.gained entry hin

theorem gains_push {piece : Piece} (hpiece : ∀ node ∈ piece.nodes, node.groups = []) :
    Gains [] r (r.push piece) where
  level := ⟨r.level.row.push piece, rfl⟩
  outer := rfl
  names := (List.append_nil _).symm
  grows := Nat.le_refl _
  kept index _ hkept := hkept.push fun node hmem => by simp [hpiece node hmem]
  gained := by simp

-- A quantifier repeats what was read last, and the groups that are kept stand before that.
theorem gains_repeatLast {greed : Greed} {least : Nat} {most : Option Nat} {node : Node}
    (hnode : r.level.row.last.bind Piece.repeatable? = some node) :
    Gains [] r (r.repeatLast (.repeats greed least most node)) where
  level := ⟨_, rfl⟩
  outer := rfl
  names := (List.append_nil _).symm
  grows := Nat.le_refl _
  gained := by simp
  kept index _ hkept := by
    refine ⟨hkept.done, fun repeated hmem => ?_⟩
    obtain rfl : repeated = .repeats greed least most node := List.mem_singleton.mp hmem
    obtain ⟨piece, hlast, hpiece⟩ := Option.bind_eq_some_iff.mp hnode
    have hfresh := hkept.last
    rw [hlast] at hfresh
    cases piece with
    | fixed => cases hpiece
    | counted => cases hpiece
    | part body =>
        obtain rfl : body = node := Option.some.inj hpiece
        exact hfresh body (List.mem_singleton_self body)
    | bare row =>
        obtain rfl : Node.ofRow row = node := Option.some.inj hpiece
        rw [Node.groups, Node.groups_ofRow, List.mem_flatMap]
        rintro ⟨other, hother, hin⟩
        exact hfresh other hother hin

-- The lexemes that stay within the row being read.
inductive Quiet : Lexeme → Prop
  | atom (atom : Atom) : Quiet (.atom atom)
  | anchor (kind : Anchor) : Quiet (.anchor kind)
  | quantifier (greed : Greed) (least : Nat) (most : Option Nat) :
      Quiet (.quantifier greed least most)

theorem gains_of_quiet {before after : Nat} (hquiet : Quiet lexeme)
    (h : r.step lexeme before after = .ok r') : Gains [] r r' := by
  cases hquiet with
  | atom atom =>
      cases Reading.step_of_step h with
      | atom => exact gains_push (by simp [Piece.nodes, Node.groups])
  | anchor kind =>
      cases Reading.step_of_step h with
      | anchor => exact gains_push (by simp [Piece.nodes, Node.groups])
  | quantifier greed least most =>
      cases Reading.step_of_step h with
      | quantifier _ _ _ node hnode => exact gains_repeatLast hnode

-- The tokens that may belong to a quantifier which began before them.
def Soft (t : Token) : Prop :=
  ∃ c, t = .plain c ∧ (c.isDigit = true ∨ c ∈ [',', '\x7d', '?', '+'])

-- What was taken off the front of `ts` is soft.
def TakesSoft (ts rest : List Token) : Prop :=
  ∃ front, ts = front ++ rest ∧ ∀ t ∈ front, Soft t

theorem TakesSoft.refl (ts : List Token) : TakesSoft ts ts := ⟨[], rfl, by simp⟩

theorem TakesSoft.trans {ts' : List Token} (h : TakesSoft ts ts') (h' : TakesSoft ts' rest) :
    TakesSoft ts rest := by
  obtain ⟨front, rfl, hfront⟩ := h
  obtain ⟨front', rfl, hfront'⟩ := h'
  refine ⟨front ++ front', by simp, fun t ht => ?_⟩
  rcases List.mem_append.mp ht with hin | hin
  · exact hfront t hin
  · exact hfront' t hin

theorem takesSoft_cons {t : Token} (ht : Soft t) : TakesSoft (t :: rest) rest :=
  ⟨[t], rfl, by simpa using ht⟩

theorem takesSoft_scanGreed (least : Nat) (most : Option Nat) (ts : List Token) :
    ∃ greed, (scanGreed least most ts).1 = .quantifier greed least most ∧
      TakesSoft ts (scanGreed least most ts).2 := by
  unfold scanGreed
  split
  · exact ⟨.lazy, rfl, takesSoft_cons ⟨'?', rfl, .inr (by decide)⟩⟩
  · exact ⟨.possessive, rfl, takesSoft_cons ⟨'+', rfl, .inr (by decide)⟩⟩
  · exact ⟨.greedy, rfl, .refl _⟩

theorem takesSoft_digits (count : Nat) (ts : List Token) :
    TakesSoft ts (takePlain Char.isDigit count ts).2 := by
  fun_induction takePlain Char.isDigit count ts with
  | case1 count c ts hc cs rest heq ih =>
      rw [heq] at ih
      exact (takesSoft_cons ⟨c, rfl, .inl hc⟩).trans ih
  | case2 => exact .refl _
  | case3 => exact .refl _

theorem takesSoft_scanUpper (low : List Char) (ts : List Token) :
    TakesSoft ts (scanUpper low ts).2 := by
  unfold scanUpper
  split
  · exact (takesSoft_cons ⟨',', rfl, .inr (by decide)⟩).trans (takesSoft_digits _ _)
  · exact .refl _

-- Bounds are made of digits, a comma and the brace behind them.
theorem takesSoft_scanBounds (h : scanBounds ts = .ok (lexeme, rest)) :
    Quiet lexeme ∧ TakesSoft ts rest := by
  have hliteral {a b : Lexeme × List Token} (hab : (Except.ok a : Except Refusal _) = .ok b)
      (ha : a = (.atom (.literal '\x7b'.toNat), ts)) : Quiet b.1 ∧ TakesSoft ts b.2 := by
    obtain rfl := Except.ok.inj hab
    rw [ha]
    exact ⟨.atom _, .refl _⟩
  unfold scanBounds at h
  dsimp only at h
  split at h
  · exact hliteral h rfl
  · split at h
    next after hafter =>
      obtain ⟨least, -, h⟩ := Except.bind_eq_ok.mp h
      obtain ⟨most, -, h⟩ := Except.bind_eq_ok.mp h
      split at h
      · cases h
      · obtain ⟨greed, hlexeme, hsoft⟩ := takesSoft_scanGreed least most after
        have hscan : scanGreed least most after = (lexeme, rest) := Except.ok.inj h
        rw [hscan] at hlexeme hsoft
        obtain rfl : lexeme = .quantifier greed least most := hlexeme
        refine ⟨.quantifier greed least most, ?_⟩
        have hbounds := (takesSoft_digits ts.length ts).trans
          (takesSoft_scanUpper (takePlain Char.isDigit ts.length ts).1 _)
        rw [hafter] at hbounds
        exact (hbounds.trans (takesSoft_cons ⟨'\x7d', rfl, .inr (by decide)⟩)).trans hsoft
    · exact hliteral h rfl

theorem tokens_live (hlegacy : config.escapeLiterals = false) (hc : c ∉ dividers)
    (cs : List Char) : tokens (literal config c ++ cs) = liveToken c :: tokens cs := by
  have hback : c ≠ '\\' := by
    rintro rfl
    exact hc (by decide)
  unfold literal liveToken
  rw [hlegacy, if_neg (by decide)]
  split
  · rfl
  · exact tokens_cons hback cs

-- A live literal is quiet, and it takes nothing that is not soft.
theorem scan_live (hc : c ∉ dividers) (h : scan false (liveToken c) ts = .ok (lexeme, rest)) :
    Quiet lexeme ∧ TakesSoft ts rest := by
  have hsame {a b : Lexeme × List Token} (hab : (Except.ok a : Except Refusal _) = .ok b)
      (hquiet : Quiet a.1) (hrest : a.2 = ts) : Quiet b.1 ∧ TakesSoft ts b.2 := by
    obtain rfl := Except.ok.inj hab
    exact ⟨hquiet, hrest ▸ .refl _⟩
  have hgreed {least : Nat} {most : Option Nat} {b : Lexeme × List Token}
      (hb : (Except.ok (scanGreed least most ts) : Except Refusal _) = .ok b) :
      Quiet b.1 ∧ TakesSoft ts b.2 := by
    obtain ⟨greed, hlexeme, hsoft⟩ := takesSoft_scanGreed least most ts
    obtain rfl := Except.ok.inj hb
    rw [hlexeme]
    exact ⟨.quantifier greed least most, hsoft⟩
  unfold liveToken at h
  split at h
  · exact hsame h (.atom _) rfl
  · simp only [scan, scanPlain, Bool.false_and, Bool.false_eq_true, if_false] at h
    split at h
    · exact hsame h (.atom _) rfl
    · exact hsame h (.anchor _) rfl
    · exact hsame h (.anchor _) rfl
    · exact absurd (by decide) hc
    · exact absurd (by decide) hc
    · exact absurd (by decide) hc
    · exact absurd (by decide) hc
    · exact hgreed h
    · exact hgreed h
    · exact hgreed h
    · exact takesSoft_scanBounds h
    · exact hsame h (.atom _) rfl

-- Where something that is not soft stands behind the literals, they take nothing of it.
theorem TakesSoft.within {front : List Char} (h : TakesSoft (front.map liveToken ++ ts) rest)
    (hhard : ∀ t ∈ ts.head?, ¬Soft t) :
    ∃ left, left <:+ front ∧ rest = left.map liveToken ++ ts := by
  obtain ⟨taken, hsplit, hsoft⟩ := h
  rcases List.append_eq_append_iff.mp hsplit with ⟨extra, htaken, hts⟩ | ⟨left, hfront, hrest⟩
  · cases extra with
    | nil => exact ⟨[], List.nil_suffix, hts.symm⟩
    | cons t extra =>
        have hmem : t ∈ taken := by simp [htaken]
        exact absurd (hsoft t hmem) (hhard t (by simp [hts]))
  · obtain ⟨before, after, rfl, -, rfl⟩ := List.map_eq_append_iff.mp hfront
    exact ⟨after, List.suffix_append _ _, hrest⟩

-- Live literals are read within the row.
theorem read_front (hplain : r.level.mode.verbose = false) {front : List Char}
    (hfront : ∀ c ∈ front, c ∉ dividers) (hhard : ∀ t ∈ ts.head?, ¬Soft t)
    (h : r.read 0 (front.map liveToken ++ ts) = .ok found) :
    ∃ r₁, Gains [] r r₁ ∧ r₁.read 0 ts = .ok found := by
  induction hlength : front.length using Nat.strongRecOn generalizing r front with
  | _ length ih =>
      cases front with
      | nil => exact ⟨r, .refl r, h⟩
      | cons c front =>
          rw [List.forall_mem_cons] at hfront
          obtain ⟨lexeme, rest, r₁, hscan, hstep, h⟩ := Reading.read_cons_eq_ok.mp h
          rw [hplain] at hscan
          obtain ⟨hquiet, hsoft⟩ := scan_live hfront.1 hscan
          obtain ⟨left, hleft, rfl⟩ := hsoft.within hhard
          have hgains := gains_of_quiet hquiet hstep
          have hshorter : left.length < length := by
            have := hleft.length_le
            rw [List.length_cons] at hlength
            omega
          obtain ⟨r₂, hrest, h⟩ := ih left.length hshorter (hgains.mode ▸ hplain)
            (fun d hd => hfront.2 d (hleft.subset hd)) h rfl
          exact ⟨r₂, hgains.trans hrest, h⟩

theorem not_soft {c : Char} (hc : c = '/' ∨ c = '(') : ¬Soft (.plain c) := by
  rintro ⟨d, hd, hsoft⟩
  obtain rfl := Token.plain.inj hd
  rcases hc with rfl | rfl
  · rcases hsoft with hdigit | hmem
    · exact absurd hdigit (by decide)
    · exact absurd hmem (by decide)
  · rcases hsoft with hdigit | hmem
    · exact absurd hdigit (by decide)
    · exact absurd hmem (by decide)

theorem tokens_fragment (parameter : Parameter) (text : String) (cs : List Char) :
    ∃ c ts, tokens (fragment parameter text ++ cs) = .plain c :: ts ∧ (c = '/' ∨ c = '(') := by
  rw [fragment_eq]
  split
  · exact ⟨'/', _, rfl, .inl rfl⟩
  · exact ⟨'(', _, rfl, .inr rfl⟩

section Fragment

variable {parameter : Parameter} {regex : Regex} {body : Node}

-- The groups of a constraint that was moved behind others are none of these.
theorem not_mem_groups {index shift groups : Nat} {m m' : Flags} {node : Node}
    (h : Node.Moved shift groups m m' node body) (hindex : index ≤ shift) :
    index ∉ body.groups := by
  intro hin
  have := h.groups index hin
  omega

-- So the group of a placeholder holds none of the groups before it.
theorem not_mem_capture {index before groups : Nat} {m m' : Flags} {node : Node}
    (h : Node.Moved (before + 1) groups m m' node body) (hindex : index ≤ before) :
    index ∉ (Node.capture (before + 1) body).groups := by
  have hown : index ≠ before + 1 := by omega
  have hinner : index ∉ body.groups := not_mem_groups h (Nat.le_succ_of_le hindex)
  simp [Node.groups, hown, hinner]

-- A required placeholder is kept as soon as the stray character behind it is read.
theorem gains_value {own : Nat}
    (hbody : Node.Moved (r.widths.length + 1) own {} r.level.mode regex.node body)
    (hadds : Reading.Adds [slash r.level.mode, .capture (r.widths.length + 1) body]
      [(parameter.name, r.widths.length + 1)] r r')
    (hwidths : r'.widths.length = r.widths.length + 1 + own) (mode : Flags) (atom : Atom) :
    Gains [(parameter, r.widths.length + 1)] r (r'.push (.part (.one mode atom))) := by
  obtain ⟨row, hlevel, hrow⟩ := hadds.level
  have hdone : (row.push (.part (.one mode atom))).done = r.level.row.nodes ++
      [slash r.level.mode] ++ [.capture (r.widths.length + 1) body] := by
    rw [List.append_assoc]
    exact hrow
  have hlast : ∀ index, ∀ node ∈ (Piece.part (.one mode atom)).nodes, index ∉ node.groups := by
    intro index node hmem
    obtain rfl := List.mem_singleton.mp hmem
    simp [Node.groups]
  have hpushed : (r'.push (.part (.one mode atom))).level =
      { r.level with row := row.push (.part (.one mode atom)) } := by
    show r'.level.push _ = _
    rw [hlevel]
    rfl
  refine ⟨⟨_, hpushed⟩, hadds.outer, hadds.names, ?_, ?_, ?_⟩
  · show r.widths.length ≤ r'.widths.length
    omega
  · intro index hindex hkept
    rw [hpushed]
    refine ⟨?_, hlast index⟩
    rw [hdone, List.append_assoc]
    refine hkept.nodes.append fun node hmem => ?_
    simp only [List.cons_append, List.nil_append, List.mem_cons, List.not_mem_nil,
      or_false] at hmem
    rcases hmem with rfl | rfl
    · simp [slash, optional, Node.groups]
    · exact not_mem_capture hbody hindex
  · intro entry hentry
    obtain rfl := List.mem_singleton.mp hentry
    refine ⟨?_, fun _ => ?_⟩
    · show r.widths.length + 1 ≤ r'.widths.length
      omega
    · rw [hpushed]
      refine ⟨?_, hlast _⟩
      rw [hdone]
      have hown : r.widths.length + 1 ∉ body.groups := not_mem_groups hbody (Nat.le_refl _)
      exact ⟨_, _, [], rfl, by simp [Node.binds, hown], by simp⟩

-- An optional placeholder is kept by nothing, but its groups are new.
theorem gains_brackets {own : Nat} (hoptional : parameter.required = false)
    (hbody : Node.Moved (r.widths.length + 1) own {} r.level.mode regex.node body)
    (hlevel : r'.level = r.level) (houter : r'.outer = r.outer)
    (hnames : r'.names = r.names ++ [(parameter.name, r.widths.length + 1)])
    (hwidths : r'.widths.length = r.widths.length + 1 + own) :
    Gains [(parameter, r.widths.length + 1)] r
      (r'.push (.bare (slotRow r.level.mode (r.widths.length + 1) body))) := by
  have hpushed : (r'.push (.bare (slotRow r.level.mode (r.widths.length + 1) body))).level =
      { r.level with row :=
          r.level.row.push (.bare (slotRow r.level.mode (r.widths.length + 1) body)) } := by
    show r'.level.push _ = _
    rw [hlevel]
    rfl
  refine ⟨⟨_, hpushed⟩, houter, hnames, ?_, ?_, ?_⟩
  · show r.widths.length ≤ r'.widths.length
    omega
  · intro index hindex hkept
    rw [hpushed]
    refine hkept.push fun node hmem => ?_
    simp only [Piece.nodes, slotRow, List.mem_cons, List.not_mem_nil, or_false] at hmem
    rcases hmem with rfl | rfl | rfl
    · simp [slash, optional, Node.groups]
    · exact not_mem_capture hbody hindex
    · simp [stray, optional, Node.groups]
  · intro entry hentry
    obtain rfl := List.mem_singleton.mp hentry
    refine ⟨?_, fun hrequired => ?_⟩
    · show r.widths.length + 1 ≤ r'.widths.length
      omega
    · rw [hoptional] at hrequired
      cases hrequired

-- A placeholder is read up to the sign that what stands before it may be left out.
theorem read_live_fragment {text : String} {cs : List Char}
    (hplain : r.level.mode.verbose = false) (hname : Text.isIdentifier parameter.name.toList)
    (hcompile : compile text {} = .ok regex) (hnames : regex.names = [])
    (h : r.read 0 (tokens (fragment parameter text ++ cs)) = .ok found) :
    ∃ r₁, Gains [(parameter, r.widths.length + 1)] r r₁ ∧
      r₁.read 0 (.plain '?' :: tokens cs) = .ok found := by
  rw [fragment_eq] at h
  cases hrequired : parameter.required with
  | true =>
      rw [hrequired, if_pos rfl] at h
      obtain ⟨body, r₁, hbody, hadds, hwidths, h⟩ := read_value hplain hname hcompile hnames h
      rw [read_other (hadds.mode ▸ hplain)] at h
      exact ⟨_, gains_value hbody.moved hadds hwidths _ _, h⟩
  | false =>
      rw [hrequired, if_neg (by decide)] at h
      obtain ⟨body, r₁, hbody, hlevel, houter, hnames₁, hwidths, h⟩ :=
        read_brackets hplain hname hcompile hnames h
      exact ⟨_, gains_brackets hrequired hbody.moved hlevel houter hnames₁ hwidths, h⟩

end Fragment

-- The parts of a template behind some literals. What the placeholder before them left unread is
-- among these.
theorem read_live_parts (hlegacy : config.escapeLiterals = false)
    (hplain : r.level.mode.verbose = false) {front : List Char}
    (hfront : ∀ c ∈ front, c ∉ dividers) (hliterals : ∀ c, .literal c ∈ parts → c ∉ dividers)
    (hnames : ∀ parameter ∈ slots parts, Text.isIdentifier parameter.name.toList)
    (hchecked : ∀ parameter ∈ slots parts, checkConstraint parameter.name
      (constraintFor config constraints parameter.name) template = .ok ())
    (h : r.read 0 (front.map liveToken ++
      tokens (parts.flatMap (Part.pattern config constraints) ++ "/?\\Z".toList)) = .ok found) :
    ∃ entries r₁, Gains entries r r₁ ∧ entries.map Prod.fst = slots parts ∧
      r₁.read 0 (tokens "/?\\Z".toList) = .ok found := by
  induction parts generalizing r front with
  | nil =>
      have hhard : ∀ t ∈ (tokens "/?\\Z".toList).head?, ¬Soft t := by
        rintro t ⟨rfl⟩
        exact not_soft (.inl rfl)
      obtain ⟨r₁, hgains, h⟩ := read_front hplain hfront hhard h
      exact ⟨[], r₁, hgains, rfl, h⟩
  | cons part parts ih =>
      have hlater : ∀ c, .literal c ∈ parts → c ∉ dividers := fun c hc =>
        hliterals c (List.mem_cons_of_mem _ hc)
      cases part with
      | literal c =>
          have hc : c ∉ dividers := hliterals c List.mem_cons_self
          have hone : [liveToken c] = [c].map liveToken := rfl
          rw [List.flatMap_cons, Part.pattern, List.append_assoc, tokens_live hlegacy hc,
            List.append_cons, hone, ← List.map_append] at h
          have hmore : ∀ d ∈ front ++ [c], d ∉ dividers := by
            intro d hd
            rcases List.mem_append.mp hd with hin | hin
            · exact hfront d hin
            · exact List.mem_singleton.mp hin ▸ hc
          exact ih hplain hmore hlater hnames hchecked h
      | slot slashed parameter =>
          have hslots : slots (.slot slashed parameter :: parts) = parameter :: slots parts := rfl
          rw [hslots, List.forall_mem_cons] at hnames hchecked
          rw [List.flatMap_cons, Part.pattern, List.append_assoc] at h
          obtain ⟨c, ts, htokens, hc⟩ := tokens_fragment parameter
            (constraintFor config constraints parameter.name)
            (parts.flatMap (Part.pattern config constraints) ++ "/?\\Z".toList)
          have hhard : ∀ t ∈ (Token.plain c :: ts).head?, ¬Soft t := by
            rintro t ⟨rfl⟩
            exact not_soft hc
          rw [htokens] at h
          obtain ⟨r₁, hgains, h⟩ := read_front hplain hfront hhard h
          rw [← htokens] at h
          obtain ⟨regex, hcompile, hnone⟩ := compile_of_checkConstraint hchecked.1
          obtain ⟨r₂, hslot, h⟩ :=
            read_live_fragment (hgains.mode ▸ hplain) hnames.1 hcompile hnone h
          have hsign : ∀ d ∈ ['?'], d ∉ dividers := by simp [dividers]
          have hmode : r₂.level.mode = r.level.mode := hslot.mode.trans hgains.mode
          obtain ⟨entries, r₃, hrest, hentries, h⟩ :=
            ih (hmode ▸ hplain) hsign hlater hnames.2 hchecked.2 h
          refine ⟨_, r₃, (hgains.trans hslot).trans hrest, ?_, h⟩
          rw [hslots, ← hentries]
          rfl

-- The compiled pattern of such a template takes the groups of its required placeholders.
theorem bindsRequired_of_live {pattern : Pattern} (hlegacy : config.escapeLiterals = false)
    (h : (Pattern.ofTemplate config constraints template).result = .ok pattern)
    (hparts : parts? config none template.toList = some parts)
    (hliterals : ∀ c, .literal c ∈ parts → c ∉ dividers) : pattern.bindsRequired = true := by
  obtain ⟨text, hread, hcompile⟩ := read_of_ofTemplate h
  obtain ⟨parts', hparts', htext, hparameters, hsound⟩ := read_eq_ok hread
  obtain rfl : parts = parts' := Option.some.inj (hparts.symm.trans hparts')
  obtain ⟨-, final, hread, houter, -, hnode, -, hfinal⟩ := read_of_compile hcompile
  have hstart : scan (Reading.start config.flags).level.mode.verbose (.plain '^')
      (tokens (parts.flatMap (Part.pattern config constraints) ++ "/?\\Z".toList)) =
      .ok (.anchor .lineStart, tokens (parts.flatMap (Part.pattern config constraints) ++
        "/?\\Z".toList)) := rfl
  rw [htext, List.cons_append, tokens_cons (by decide), Reading.read_cons hstart] at hread
  obtain ⟨r₀, hstep, hread⟩ := Except.bind_eq_ok.mp hread
  have hgains₀ := gains_of_quiet (.anchor .lineStart) hstep
  have hplain : r₀.level.mode.verbose = false := by
    rw [hgains₀.mode]
    rfl
  rw [hparameters] at hsound
  have hnothing : ∀ c ∈ ([] : List Char), c ∉ dividers := fun _ hc => nomatch hc
  obtain ⟨entries, r₁, hgains₁, hentries, hread⟩ := read_live_parts hlegacy hplain hnothing
    hliterals hsound.identifiers hsound.checked hread
  have hgains := hgains₀.trans hgains₁
  have hend : tokens "/?\\Z".toList = [.plain '/', .plain '?', .escaped 'Z'] := by decide
  have hplain₁ : r₁.level.mode.verbose = false := by
    rw [hgains.mode]
    rfl
  rw [hend, read_slash hplain₁ ⟨by simp, by simp⟩] at hread
  have hslash : Gains [] r₁ (r₁.push (.counted (slash r₁.level.mode))) :=
    gains_push (by simp [Piece.nodes, slash, optional, Node.groups])
  generalize r₁.push (.counted (slash r₁.level.mode)) = r₂ at hread hslash
  obtain ⟨lexeme, rest, r₃, hscan, hstep, hread⟩ := Reading.read_cons_eq_ok.mp hread
  obtain ⟨rfl, rfl⟩ : Lexeme.anchor .textEnd = lexeme ∧ [] = rest :=
    Prod.mk.inj (Except.ok.inj hscan)
  obtain rfl : r₃ = final := by simpa using hread
  have hgains := (hgains.trans hslash).trans (gains_of_quiet (.anchor .textEnd) hstep)
  simp only [List.nil_append, List.append_nil] at hgains
  have hnames : pattern.regex.names =
      entries.map fun (parameter, index) => (parameter.name, index) := by
    rw [hfinal, hgains.names]
    rfl
  have hnodup : (pattern.regex.names.map Prod.fst).Nodup := by
    have hsame : pattern.regex.names.map Prod.fst = (slots parts).map (·.name) := by
      rw [hnames, ← hentries, List.map_map, List.map_map]
      rfl
    rw [hsame]
    exact hsound.names
  obtain ⟨row, hlevel⟩ := hgains.level
  have hrows : Node.ofRows r₃.level.mode r₃.level.rows = r₃.level.row.nodes := by
    rw [hlevel]
    rfl
  rw [Pattern.bindsRequired, List.all_eq_true]
  intro given hmem
  rw [hparameters, ← hentries] at hmem
  obtain ⟨⟨parameter, index⟩, hentry, rfl⟩ := List.mem_map.mp hmem
  have hindex : pattern.regex.index? parameter.name = some index := by
    refine lookup_of_nodup hnodup ?_
    rw [hnames]
    exact List.mem_map_of_mem hentry
  rw [hindex, Option.any_some]
  cases hrequired : parameter.required with
  | false => rfl
  | true =>
      have hkeeps := (hgains.gained _ hentry).2 hrequired
      rw [Bool.not_true, Bool.false_or, hnode, hrows]
      exact hkeeps.nodes.binds

-- A template that is compiled to a pattern of this kind, as one without dividers always is, can be
-- depended on.
theorem dependable_of_live {pattern : Pattern} (hlegacy : config.escapeLiterals = false)
    (h : (Pattern.ofTemplate config constraints template).result = .ok pattern)
    (hbinds : pattern.bindsRequired = true ∨
      ∃ parts, parts? config none template.toList = some parts ∧
        ∀ c, .literal c ∈ parts → c ∉ dividers) : pattern.Dependable := by
  rcases hbinds with hbinds | ⟨parts, hparts, hliterals⟩
  · exact dependable_of_bindsRequired hbinds
  · exact dependable_of_bindsRequired (bindsRequired_of_live hlegacy h hparts hliterals)

-- A literal may be repeated, and groups may stand around literals that are.
theorem dependable_of_live_files :
    (∃ pattern,
      (Pattern.ofTemplate { (default : Config) with escapeLiterals := false } []
        "/files*/\x7bid\x7d").result = .ok pattern ∧ pattern.Dependable) ∧
      ∃ pattern,
        (Pattern.ofTemplate { (default : Config) with escapeLiterals := false } []
          "/(?:files)+/\x7bid\x7d").result = .ok pattern ∧ pattern.Dependable := by
  have hlegacy : { (default : Config) with escapeLiterals := false }.escapeLiterals = false := rfl
  constructor
  · obtain ⟨pattern, hpattern⟩ : ∃ pattern, (Pattern.ofTemplate
        { (default : Config) with escapeLiterals := false } [] "/files*/\x7bid\x7d").result =
          .ok pattern := Except.exists_ok_of_isOk (by decide +kernel)
    have hparts : parts? { (default : Config) with escapeLiterals := false } none
        "/files*/\x7bid\x7d".toList =
          some ("/files*".toList.map .literal ++ [.slot true ⟨"id", true⟩]) := by decide +kernel
    refine ⟨pattern, hpattern, dependable_of_live hlegacy hpattern (.inr ⟨_, hparts, ?_⟩)⟩
    simp [dividers]
  · have hseen : (Pattern.ofTemplate { (default : Config) with escapeLiterals := false } []
        "/(?:files)+/\x7bid\x7d").result.toOption.bind (fun pattern =>
          if pattern.bindsRequired then some () else none) = some () := by decide +kernel
    obtain ⟨pattern, hpattern, hseen⟩ := Except.exists_ok_of_bind hseen
    have hbinds : pattern.bindsRequired = true := by
      by_contra hnot
      rw [if_neg hnot] at hseen
      cases hseen
    exact ⟨pattern, hpattern, dependable_of_live hlegacy hpattern (.inl hbinds)⟩

-- An alternative that stands before a required placeholder takes paths without it.
theorem live_alternative_unbound :
    ∃ pattern,
      (Pattern.ofTemplate { (default : Config) with escapeLiterals := false } []
        "/a|/b/{id}").result = .ok pattern ∧
      pattern.match? "/a" = .error (.http (.missingParameter "id")) := by
  have hseen : (Pattern.ofTemplate { (default : Config) with escapeLiterals := false } []
      "/a|/b/\x7bid\x7d").result.toOption.bind (fun pattern =>
        match pattern.match? "/a" with
        | .error (.http (.missingParameter name)) => some name
        | _ => none) = some "id" := by decide +kernel
  obtain ⟨pattern, hpattern, hseen⟩ := Except.exists_ok_of_bind hseen
  refine ⟨pattern, hpattern, ?_⟩
  split at hseen
  · next name hmatch =>
      rw [hmatch, Option.some.inj hseen]
  · cases hseen

end Template

end Signpost
