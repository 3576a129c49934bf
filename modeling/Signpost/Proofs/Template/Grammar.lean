import Signpost.Proofs.Template.Parts

namespace Signpost.Template

inductive Chunk
  | literal (c : Char)
  | placeholder (parameter : Parameter)
deriving DecidableEq, Repr

-- The body of a placeholder is its name, with one sign behind it if the placeholder is optional.
inductive Names (config : Config) : List Char → Parameter → Prop
  | optional (name : List Char) :
      Names config (name ++ [config.optionalSymbol]) ⟨String.ofList name, false⟩
  | required {name : List Char} (h : name.getLast? ≠ some config.optionalSymbol) :
      Names config name ⟨String.ofList name, true⟩

-- A text cut from left to right. A body runs to the next closing character, whatever else it
-- holds. The last one may not be closed.
inductive Cut (config : Config) : List Chunk → Option (List Char) → List Char → Prop
  | done : Cut config [] none []
  | unclosed {body : List Char} (hbody : config.paramClose ∉ body) :
      Cut config [] (some body) (config.paramOpen :: body)
  | literal {c : Char} {chunks : List Chunk} {body? : Option (List Char)} {cs : List Char}
      (hc : c ≠ config.paramOpen) (hrest : Cut config chunks body? cs) :
      Cut config (.literal c :: chunks) body? (c :: cs)
  | placeholder {body : List Char} {parameter : Parameter} {chunks : List Chunk}
      {body? : Option (List Char)} {cs : List Char} (hbody : config.paramClose ∉ body)
      (hnames : Names config body parameter) (hrest : Cut config chunks body? cs) :
      Cut config (.placeholder parameter :: chunks) body?
        (config.paramOpen :: (body ++ config.paramClose :: cs))

def Chunk.parameter? : Chunk → Option Parameter
  | .literal _ => none
  | .placeholder parameter => some parameter

def placeholders (chunks : List Chunk) : List Parameter :=
  chunks.filterMap Chunk.parameter?

def startsPlaceholder : List Chunk → Bool
  | .placeholder _ :: _ => true
  | _ => false

-- The pattern of the pieces. A slash directly before a placeholder is left to the placeholder.
def written (config : Config) (constraints : Constraints) : List Chunk → List Char
  | [] => []
  | .literal c :: chunks =>
      (if c = '/' ∧ startsPlaceholder chunks then [] else literal config c) ++
        written config constraints chunks
  | .placeholder parameter :: chunks =>
      fragment parameter (constraintFor config constraints parameter.name) ++
        written config constraints chunks

def wholePattern (config : Config) (constraints : Constraints) (chunks : List Chunk) : String :=
  String.ofList ('^' :: written config constraints chunks ++ "/?\\Z".toList)

variable {config : Config} {constraints : Constraints} {parameter : Parameter}
  {chunks others : List Chunk} {body body' cs cs' : List Char} {body? other? : Option (List Char)}

theorem names_iff : Names config body parameter ↔ parameterOf config body = parameter := by
  constructor
  · rintro (_ | h)
    · rw [parameterOf, if_pos List.getLast?_concat, List.dropLast_concat]
    · rw [parameterOf, if_neg h]
  · rintro rfl
    unfold parameterOf
    split
    next hlast =>
      obtain ⟨name, rfl⟩ := List.getLast?_eq_some_iff.mp hlast
      rw [List.dropLast_concat]
      exact .optional name
    next hlast => exact .required hlast

-- A text is cut where nothing is open, and behind a body that is still open.
theorem exists_cut (config : Config) (cs : List Char) :
    (∃ chunks body?, Cut config chunks body? cs) ∧
      ∀ body, config.paramClose ∉ body →
        ∃ chunks body?, Cut config chunks body? (config.paramOpen :: (body ++ cs)) := by
  induction cs with
  | nil =>
      refine ⟨⟨[], none, .done⟩, fun body hbody => ⟨[], some body, ?_⟩⟩
      rw [List.append_nil]
      exact .unclosed hbody
  | cons c cs ih =>
      obtain ⟨⟨chunks, body?, hcut⟩, hopen⟩ := ih
      constructor
      · by_cases hc : c = config.paramOpen
        · subst hc
          exact hopen [] (by simp)
        · exact ⟨_, _, .literal hc hcut⟩
      · intro body hbody
        by_cases hc : c = config.paramClose
        · subst hc
          exact ⟨_, _, .placeholder hbody (names_iff.mpr rfl) hcut⟩
        · rw [List.append_cons]
          exact hopen (body ++ [c]) (by simp [hbody, Ne.symm hc])

-- The first closing character behind a body is where it ends.
theorem body_eq_of_append (hbody : config.paramClose ∉ body) (hbody' : config.paramClose ∉ body')
    (h : body ++ config.paramClose :: cs = body' ++ config.paramClose :: cs') :
    body = body' ∧ cs = cs' := by
  induction body generalizing body' with
  | nil =>
      cases body' with
      | nil => exact ⟨rfl, (List.cons.inj h).2⟩
      | cons c body' =>
          obtain ⟨rfl, -⟩ := List.cons.inj h
          simp at hbody'
  | cons c body ih =>
      cases body' with
      | nil =>
          obtain ⟨rfl, -⟩ := List.cons.inj h
          simp at hbody
      | cons d body' =>
          rw [List.mem_cons, not_or] at hbody hbody'
          obtain ⟨rfl, hrest⟩ := List.cons.inj h
          obtain ⟨rfl, rfl⟩ := ih hbody.2 hbody'.2 hrest
          exact ⟨rfl, rfl⟩

-- A text is cut in one way only.
theorem Cut.unique (h : Cut config chunks body? cs) (h' : Cut config others other? cs) :
    others = chunks ∧ other? = body? := by
  induction h generalizing others with
  | done =>
      cases h'
      exact ⟨rfl, rfl⟩
  | @unclosed body hbody =>
      generalize htext : config.paramOpen :: body = text at h'
      cases h' with
      | done => cases htext
      | unclosed =>
          obtain ⟨-, rfl⟩ := List.cons.inj htext
          exact ⟨rfl, rfl⟩
      | literal hc => exact absurd (List.cons.inj htext).1.symm hc
      | placeholder =>
          obtain ⟨-, rfl⟩ := List.cons.inj htext
          simp at hbody
  | literal hc hrest ih =>
      generalize htext : _ :: _ = text at h'
      cases h' with
      | done => cases htext
      | unclosed => exact absurd (List.cons.inj htext).1 hc
      | literal hc' hrest' =>
          obtain ⟨rfl, rfl⟩ := List.cons.inj htext
          obtain ⟨rfl, rfl⟩ := ih hrest'
          exact ⟨rfl, rfl⟩
      | placeholder => exact absurd (List.cons.inj htext).1 hc
  | placeholder hbody hnames hrest ih =>
      generalize htext : config.paramOpen :: _ = text at h'
      cases h' with
      | done => cases htext
      | unclosed hbody' =>
          obtain ⟨-, rfl⟩ := List.cons.inj htext
          simp at hbody'
      | literal hc => exact absurd (List.cons.inj htext).1.symm hc
      | placeholder hbody' hnames' hrest' =>
          have hsame := (List.cons.inj htext).2
          obtain ⟨rfl, rfl⟩ := body_eq_of_append hbody hbody' hsame
          obtain ⟨rfl, rfl⟩ := ih hrest'
          obtain rfl := (names_iff.mp hnames).symm.trans (names_iff.mp hnames')
          exact ⟨rfl, rfl⟩

-- The first pieces of a text are those of a text of its own.
theorem Cut.of_append {before after : List Chunk} (h : Cut config (before ++ after) body? cs) :
    ∃ front rest, cs = front ++ rest ∧ Cut config before none front ∧
      Cut config after body? rest := by
  induction before generalizing cs with
  | nil => exact ⟨[], cs, rfl, .done, h⟩
  | cons chunk before ih =>
      cases h with
      | @literal c _ _ _ hc hrest =>
          obtain ⟨front, rest, rfl, hfront, hafter⟩ := ih hrest
          exact ⟨c :: front, rest, rfl, .literal hc hfront, hafter⟩
      | @placeholder body parameter _ _ _ hbody hnames hrest =>
          obtain ⟨front, rest, rfl, hfront, hafter⟩ := ih hrest
          refine ⟨config.paramOpen :: (body ++ config.paramClose :: front), rest, ?_,
            .placeholder hbody hnames hfront, hafter⟩
          simp

-- The parts of a template that was cut into `chunks`.
def arranged : List Chunk → List Part
  | [] => []
  | .literal c :: chunks => attach c (arranged chunks)
  | .placeholder parameter :: chunks => .slot false parameter :: arranged chunks

theorem Cut.parts? (h : Cut config chunks none cs) :
    parts? config none cs = some (arranged chunks) := by
  induction chunks generalizing cs with
  | nil =>
      cases h with
      | done => rfl
  | cons chunk chunks ih =>
      cases h with
      | literal hc hrest =>
          rw [Template.parts?, if_neg hc, ih hrest]
          rfl
      | placeholder hbody hnames hrest =>
          rw [Template.parts?, if_pos rfl, parts?_body hbody, List.nil_append,
            names_iff.mp hnames, ih hrest]
          rfl

theorem parts?_unclosed {text : List Char} (hclose : config.paramClose ∉ text) (body : List Char) :
    parts? config (some body) text = none := by
  induction text generalizing body with
  | nil => rfl
  | cons c text ih =>
      rw [List.mem_cons, not_or] at hclose
      rw [parts?, if_neg (Ne.symm hclose.1), ih hclose.2]

theorem Cut.parts?_of_unclosed (h : Cut config chunks (some body) cs) :
    Template.parts? config none cs = none := by
  induction chunks generalizing cs with
  | nil =>
      cases h with
      | unclosed hbody => rw [Template.parts?, if_pos rfl, parts?_unclosed hbody]
  | cons chunk chunks ih =>
      cases h with
      | literal hc hrest => rw [Template.parts?, if_neg hc, ih hrest, Option.map_none]
      | placeholder hbody hnames hrest =>
          rw [Template.parts?, if_pos rfl, parts?_body hbody, ih hrest, Option.map_none]

-- A text that has parts leaves no body open.
theorem Cut.of_parts? {parts : List Part} (h : Cut config chunks body? cs)
    (hparts : Template.parts? config none cs = some parts) :
    body? = none ∧ arranged chunks = parts := by
  cases body? with
  | none => exact ⟨rfl, Option.some.inj (h.parts?.symm.trans hparts)⟩
  | some body => exact absurd (h.parts?_of_unclosed.symm.trans hparts) (by simp)

theorem mem_of_mem_attach {c d : Char} {parts : List Part} (h : .literal c ∈ attach d parts) :
    c = d ∨ .literal c ∈ parts := by
  unfold attach at h
  split at h
  · split at h
    · simp at h
      exact .inr (by simp [h])
    · simpa using h
  · simpa using h

theorem mem_of_mem_arranged {c : Char} (h : .literal c ∈ arranged chunks) :
    .literal c ∈ chunks := by
  induction chunks with
  | nil => simp [arranged] at h
  | cons chunk chunks ih =>
      cases chunk with
      | literal d =>
          rw [arranged] at h
          rcases mem_of_mem_attach h with rfl | h
          · exact List.mem_cons_self
          · exact List.mem_cons_of_mem _ (ih h)
      | placeholder parameter =>
          rw [arranged, List.mem_cons] at h
          exact List.mem_cons_of_mem _ (ih (h.resolve_left (by simp)))

theorem slots_arranged (chunks : List Chunk) : slots (arranged chunks) = placeholders chunks := by
  induction chunks with
  | nil => rfl
  | cons chunk chunks ih =>
      cases chunk with
      | literal c => exact (slots_attach c _).trans ih
      | placeholder parameter => exact congrArg (parameter :: ·) ih

theorem startsBare_arranged (chunks : List Chunk) :
    Part.startsBare (arranged chunks) = startsPlaceholder chunks := by
  cases chunks with
  | nil => rfl
  | cons chunk chunks =>
      cases chunk with
      | placeholder parameter => rfl
      | literal c =>
          rw [arranged]
          unfold attach
          split
          · split <;> rfl
          · rfl

theorem pattern_attach (c : Char) (parts : List Part) :
    (attach c parts).flatMap (Part.pattern config constraints) =
      (if c = '/' ∧ Part.startsBare parts then [] else literal config c) ++
        parts.flatMap (Part.pattern config constraints) := by
  unfold attach
  split
  · by_cases hc : c = '/'
    · simp [hc, Part.startsBare, Part.pattern]
    · simp [hc, Part.startsBare, Part.pattern]
  next hbare =>
    have hstart : Part.startsBare parts = false := by
      unfold Part.startsBare
      split
      · exact (hbare _ _ rfl).elim
      · rfl
    simp [hstart, Part.pattern]

theorem pattern_arranged (chunks : List Chunk) :
    (arranged chunks).flatMap (Part.pattern config constraints) =
      written config constraints chunks := by
  induction chunks with
  | nil => rfl
  | cons chunk chunks ih =>
      cases chunk with
      | literal c => rw [arranged, pattern_attach, startsBare_arranged, ih, written]
      | placeholder parameter => rw [arranged, List.flatMap_cons, ih, written, Part.pattern]

end Signpost.Template
