import Signpost.Proofs.Outcome
import Signpost.Template

namespace Signpost.Template

-- A placeholder takes the slash directly before it, if there is one.
inductive Part
  | literal (c : Char)
  | slot (slashed : Bool) (parameter : Parameter)
deriving DecidableEq, Repr

def Part.startsBare : List Part → Bool
  | .slot false _ :: _ => true
  | _ => false

-- One more character before the parts that follow it.
def attach (c : Char) : List Part → List Part
  | .slot false parameter :: parts =>
      if c = '/' then .slot true parameter :: parts
      else .literal c :: .slot false parameter :: parts
  | parts => .literal c :: parts

-- The parts of a text. `body` is what was read of the placeholder that is open, if one is. There
-- are none if a placeholder stays open.
def parts? (config : Config) : Option (List Char) → List Char → Option (List Part)
  | none, [] => some []
  | some _, [] => none
  | none, c :: cs =>
      if c = config.paramOpen then parts? config (some []) cs
      else (parts? config none cs).map (attach c)
  | some body, c :: cs =>
      if c = config.paramClose then
        (parts? config none cs).map (.slot false (parameterOf config body) :: ·)
      else parts? config (some (body ++ [c])) cs

def Part.parameter? : Part → Option Parameter
  | .literal _ => none
  | .slot _ parameter => some parameter

def slots (parts : List Part) : List Parameter :=
  parts.filterMap Part.parameter?

-- The pattern that a part stands for.
def Part.pattern (config : Config) (constraints : Constraints) : Part → List Char
  | .literal c => Template.literal config c
  | .slot _ parameter =>
      Template.fragment parameter (constraintFor config constraints parameter.name)

-- A pattern for what stands before, and the patterns of the parts.
def joined (config : Config) (constraints : Constraints) (pattern : List Char)
    (parts : List Part) : List Char :=
  (if Part.startsBare parts then dropSlash pattern else pattern) ++
    parts.flatMap (Part.pattern config constraints)

-- What was checked of each placeholder.
structure Sound (config : Config) (constraints : Constraints) (template : String)
    (parameters : List Parameter) : Prop where
  names : (parameters.map (·.name)).Nodup
  identifiers : ∀ parameter ∈ parameters, Text.isIdentifier parameter.name.toList
  checked : ∀ parameter ∈ parameters, checkConstraint parameter.name
    (constraintFor config constraints parameter.name) template = .ok ()

variable {config : Config} {constraints : Constraints} {template : String}
  {draft draft' : Draft} {c : Char} {cs body : List Char} {parts : List Part}

@[simp] theorem slots_attach (c : Char) (parts : List Part) :
    slots (attach c parts) = slots parts := by
  unfold attach
  split
  · split <;> rfl
  · rfl

theorem literal_eq (config : Config) (c : Char) : ∃ front, literal config c = front ++ [c] := by
  unfold literal escapeChar
  by_cases hescape : config.escapeLiterals
  · by_cases hspecial : c ∈ special
    · exact ⟨['\\'], by simp [hescape, hspecial]⟩
    · exact ⟨[], by simp [hescape, hspecial]⟩
  · by_cases hstop : c = '.'
    · exact ⟨['\\'], by simp [hescape, hstop]⟩
    · exact ⟨[], by simp [hescape, hstop]⟩

-- No literal but a slash ends in a slash, so nothing else is ever dropped.
theorem dropSlash_literal (pattern : List Char) (hc : c ≠ '/') :
    dropSlash (pattern ++ literal config c) = pattern ++ literal config c := by
  obtain ⟨front, hfront⟩ := literal_eq config c
  rw [hfront, ← List.append_assoc, dropSlash, List.getLast?_concat, if_neg]
  simpa using hc

theorem dropSlash_fragment (pattern : List Char) (parameter : Parameter) (body : String) :
    dropSlash (pattern ++ fragment parameter body) = pattern ++ fragment parameter body := by
  have hlast : (pattern ++ fragment parameter body).getLast? = some '?' := by
    unfold fragment
    dsimp only
    split <;> simp [List.getLast?_append, List.getLast?_cons]
  rw [dropSlash, hlast]
  rfl

theorem literal_slash (config : Config) : literal config '/' = ['/'] := by
  have hspecial : '/' ∉ special := by decide
  cases hescape : config.escapeLiterals <;> simp [literal, escapeChar, hescape, hspecial]

theorem joined_attach (pattern : List Char) (c : Char) (parts : List Part) :
    joined config constraints pattern (attach c parts) =
      joined config constraints (pattern ++ literal config c) parts := by
  unfold attach
  split
  next parameter parts =>
    by_cases hc : c = '/'
    · subst hc
      simp [joined, Part.startsBare, Part.pattern, literal_slash, dropSlash]
    · simp [joined, Part.startsBare, Part.pattern, hc, dropSlash_literal pattern hc]
  next hbare =>
    have hstart : Part.startsBare parts = false := by
      unfold Part.startsBare
      split
      · exact (hbare _ _ rfl).elim
      · rfl
    rw [joined, joined, hstart]
    simp [Part.startsBare, Part.pattern]

theorem closePlaceholder_eq_ok
    (h : closePlaceholder config constraints template draft body = .ok draft') :
    Text.isIdentifier (parameterOf config body).name.toList ∧
      (∀ parameter ∈ draft.parameters, parameter.name ≠ (parameterOf config body).name) ∧
      checkConstraint (parameterOf config body).name
        (constraintFor config constraints (parameterOf config body).name) template = .ok () ∧
      draft' =
        { pattern := draft.pattern ++ fragment (parameterOf config body)
            (constraintFor config constraints (parameterOf config body).name)
          parameters := draft.parameters ++ [parameterOf config body] } := by
  unfold closePlaceholder at h
  dsimp only at h
  by_cases hname : Text.isIdentifier (parameterOf config body).name.toList
  · by_cases hnew : draft.parameters.any (·.name == (parameterOf config body).name)
    · simp [hname, hnew] at h
    · simp only [hname, hnew, Bool.not_true, Bool.false_eq_true, if_false] at h
      obtain ⟨⟨⟩, hcheck, h⟩ := Except.bind_eq_ok.mp h
      refine ⟨hname, ?_, hcheck, (Except.ok.inj h).symm⟩
      simpa using hnew
  · simp [hname] at h

-- What one character does to a draft: it opens a placeholder, stands for itself, closes the
-- placeholder that is open, or becomes part of its body.
theorem step_eq_ok (h : step config constraints template draft c = .ok draft') :
    (draft.body = none ∧ c = config.paramOpen ∧
      draft' = { draft with pattern := dropSlash draft.pattern, body := some [] }) ∨
    (draft.body = none ∧ c ≠ config.paramOpen ∧
      draft' = { draft with pattern := draft.pattern ++ literal config c }) ∨
    (∃ body, draft.body = some body ∧ c = config.paramClose ∧
      closePlaceholder config constraints template draft body = .ok draft') ∨
    (∃ body, draft.body = some body ∧ c ≠ config.paramClose ∧
      draft' = { draft with body := some (body ++ [c]) }) := by
  unfold step at h
  split at h
  next hbody =>
    by_cases hopen : c = config.paramOpen
    · rw [if_pos hopen, Except.ok.injEq] at h
      exact .inl ⟨hbody, hopen, h.symm⟩
    · rw [if_neg hopen, Except.ok.injEq] at h
      exact .inr (.inl ⟨hbody, hopen, h.symm⟩)
  next body hbody =>
    by_cases hclose : c = config.paramClose
    · rw [if_pos hclose] at h
      exact .inr (.inr (.inl ⟨body, hbody, hclose, h⟩))
    · rw [if_neg hclose, Except.ok.injEq] at h
      exact .inr (.inr (.inr ⟨body, hbody, hclose, h.symm⟩))

theorem Sound.snoc {parameters : List Parameter} {parameter : Parameter}
    (hsound : Sound config constraints template parameters)
    (hname : Text.isIdentifier parameter.name.toList)
    (hnew : ∀ other ∈ parameters, other.name ≠ parameter.name)
    (hcheck : checkConstraint parameter.name
      (constraintFor config constraints parameter.name) template = .ok ()) :
    Sound config constraints template (parameters ++ [parameter]) := by
  refine ⟨?_, ?_, ?_⟩
  · rw [List.map_append, List.nodup_append]
    refine ⟨hsound.names, by simp, fun a ha b hb => ?_⟩
    obtain ⟨other, hmem, rfl⟩ := List.mem_map.mp ha
    rw [List.map_singleton, List.mem_singleton] at hb
    exact hb ▸ hnew other hmem
  · intro other hmem
    rcases List.mem_append.mp hmem with hmem | hmem
    · exact hsound.identifiers other hmem
    · exact List.mem_singleton.mp hmem ▸ hname
  · intro other hmem
    rcases List.mem_append.mp hmem with hmem | hmem
    · exact hsound.checked other hmem
    · exact List.mem_singleton.mp hmem ▸ hcheck

-- Every step keeps the placeholders that are complete checked.
theorem Sound.step (hsound : Sound config constraints template draft.parameters)
    (h : step config constraints template draft c = .ok draft') :
    Sound config constraints template draft'.parameters := by
  obtain ⟨-, -, rfl⟩ | ⟨-, -, rfl⟩ | ⟨body, -, -, hclose⟩ | ⟨_, -, -, rfl⟩ := step_eq_ok h
  · exact hsound
  · exact hsound
  · obtain ⟨hname, hnew, hcheck, rfl⟩ := closePlaceholder_eq_ok hclose
    exact hsound.snoc hname hnew hcheck
  · exact hsound

theorem Sound.fold (hsound : Sound config constraints template draft.parameters)
    (h : cs.foldlM (Template.step config constraints template) draft = .ok draft') :
    Sound config constraints template draft'.parameters := by
  induction cs generalizing draft with
  | nil => exact Except.ok.inj h ▸ hsound
  | cons c cs ih =>
      rw [List.foldlM_cons] at h
      obtain ⟨draft₁, hstep, h⟩ := Except.bind_eq_ok.mp h
      exact ih (hsound.step hstep) h

-- Where a placeholder is open, the next part is that placeholder.
theorem parts?_open (h : parts? config (some body) cs = some parts) :
    ∃ parameter rest, parts = .slot false parameter :: rest := by
  induction cs generalizing body with
  | nil => simp [parts?] at h
  | cons c cs ih =>
      rw [parts?] at h
      split at h
      · obtain ⟨rest, -, rfl⟩ := Option.map_eq_some_iff.mp h
        exact ⟨_, rest, rfl⟩
      · exact ih h

-- A placeholder that is open goes on to the next closing character.
theorem parts?_body {text : List Char} (hclose : config.paramClose ∉ text)
    (body rest : List Char) :
    parts? config (some body) (text ++ config.paramClose :: rest) =
      (parts? config none rest).map (.slot false (parameterOf config (body ++ text)) :: ·) := by
  induction text generalizing body with
  | nil => simp [parts?]
  | cons c text ih =>
      rw [List.mem_cons, not_or] at hclose
      rw [List.cons_append, parts?, if_neg (Ne.symm hclose.1), ih hclose.2]
      simp

-- The pattern of a placeholder that is open, and of the parts after it.
def Draft.expects (config : Config) (constraints : Constraints) (draft : Draft)
    (parts : List Part) : List Char :=
  match draft.body with
  | none => joined config constraints draft.pattern parts
  | some _ => draft.pattern ++ parts.flatMap (Part.pattern config constraints)

-- Where a text leaves no placeholder open, its parts say what was added to the draft.
theorem fold_eq_ok (h : cs.foldlM (step config constraints template) draft = .ok draft')
    (hclosed : draft'.body = none) :
    ∃ parts, parts? config draft.body cs = some parts ∧
      draft'.pattern = draft.expects config constraints parts ∧
      draft'.parameters = draft.parameters ++ slots parts := by
  induction cs generalizing draft with
  | nil =>
      have hdraft : draft = draft' := Except.ok.inj h
      refine ⟨[], by simp [hdraft, hclosed, parts?], ?_, by simp [hdraft, slots]⟩
      simp [Draft.expects, hdraft, hclosed, joined, Part.startsBare]
  | cons c cs ih =>
      rw [List.foldlM_cons] at h
      obtain ⟨draft₁, hstep, h⟩ := Except.bind_eq_ok.mp h
      obtain ⟨parts, hparts, hpattern, hparameters⟩ := ih h
      obtain ⟨hbody, rfl, rfl⟩ | ⟨hbody, hopen, rfl⟩ | ⟨body, hbody, rfl, hclose⟩ |
        ⟨body, hbody, hclose, rfl⟩ := step_eq_ok hstep
      · obtain ⟨parameter, rest, rfl⟩ := parts?_open hparts
        refine ⟨_, by simpa [hbody, parts?] using hparts, ?_, hparameters⟩
        simpa [Draft.expects, hbody, joined, Part.startsBare] using hpattern
      · refine ⟨attach c parts, ?_, ?_, ?_⟩
        · dsimp only at hparts
          rw [hbody] at hparts
          rw [hbody, parts?, if_neg hopen, hparts, Option.map_some]
        · simpa [Draft.expects, hbody, joined_attach] using hpattern
        · simpa using hparameters
      · obtain ⟨-, -, -, rfl⟩ := closePlaceholder_eq_ok hclose
        refine ⟨.slot false (parameterOf config body) :: parts, ?_, ?_, ?_⟩
        · simpa [hbody, parts?] using hparts
        · simpa [Draft.expects, hbody, joined, dropSlash_fragment, Part.pattern] using hpattern
        · simpa [slots, Part.parameter?] using hparameters
      · refine ⟨parts, ?_, ?_, hparameters⟩
        · simpa [hbody, parts?, hclose] using hparts
        · simpa [Draft.expects, hbody] using hpattern

-- A template that is read has parts, and its pattern is the anchored row of their patterns.
theorem read_eq_ok {text : String} {parameters : List Parameter}
    (h : Template.read config constraints template = .ok (text, parameters)) :
    ∃ parts, parts? config none template.toList = some parts ∧
      text.toList = '^' :: parts.flatMap (Part.pattern config constraints) ++ "/?\\Z".toList ∧
      parameters = slots parts ∧ Sound config constraints template parameters := by
  obtain ⟨draft, hfold, h⟩ := Except.bind_eq_ok.mp h
  split at h
  · simp at h
  next hclosed =>
    simp only [pure, Except.pure, Except.ok.injEq, Prod.mk.injEq] at h
    obtain ⟨rfl, rfl⟩ := h
    have hstart : Sound config constraints template ({} : Draft).parameters :=
      ⟨List.nodup_nil, by simp, by simp⟩
    obtain ⟨parts, hparts, hpattern, hparameters⟩ := fold_eq_ok hfold hclosed
    refine ⟨parts, hparts, ?_, by simpa using hparameters, hstart.fold hfold⟩
    have hjoined : joined config constraints [] parts =
        parts.flatMap (Part.pattern config constraints) := by
      simp [joined, dropSlash]
    rw [String.toList_ofList, hpattern]
    simp only [Draft.expects, hjoined]

end Signpost.Template
