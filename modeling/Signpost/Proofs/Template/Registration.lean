import Signpost.Proofs.Regex.Legible
import Signpost.Proofs.Template.Layout

namespace Signpost

open Except
open Regex (Reading tokens Legible Overruns Exceeds)

namespace Template

variable {config : Config} {constraints : Constraints} {template text : String}
  {parameter : Parameter} {parts : List Part} {draft draft' : Draft} {c : Char}
  {seen cs : List Char} {outer : List Bool}

theorem legible_groupText {regex : Regex} (hname : Text.isIdentifier parameter.name.toList)
    (hcompile : Regex.compile text {} = .ok regex) (hcalm : Reading.Calm (tokens cs))
    (hcs : Legible (false :: outer) (tokens cs)) :
    Legible (false :: outer) (tokens (groupText parameter.name text ++ cs)) := by
  rw [tokens_groupText hname (Regex.read_of_compile hcompile).1]
  refine Legible.cons (scan_slash _) (by simp) ?_
  refine Legible.cons (scan_optional ⟨by simp, by simp⟩) (by simp) ?_
  refine Legible.cons (scan_named hname) (by simp) ?_
  refine Legible.of_compile hcompile (List.cons_ne_nil _ _) ?_
  refine Legible.cons (scan_close _) (by simp) ?_
  refine Legible.cons (scan_other _) (by simp) ?_
  exact Legible.cons (scan_optional hcalm) (by simp) hcs

theorem legible_fragment {regex : Regex} (hname : Text.isIdentifier parameter.name.toList)
    (hcompile : Regex.compile text {} = .ok regex) (hcalm : Reading.Calm (tokens cs))
    (hcs : Legible (false :: outer) (tokens cs)) :
    Legible (false :: outer) (tokens (fragment parameter text ++ cs)) := by
  rw [fragment_eq]
  split
  · exact legible_groupText hname hcompile hcalm hcs
  · rw [tokens_bracketed]
    refine Legible.cons (scan_bracket _) (by simp) ?_
    refine legible_groupText hname hcompile ?_ ?_
    · rw [tokens_bracketClose]
      exact ⟨by simp, by simp⟩
    · rw [tokens_bracketClose]
      refine Legible.cons (scan_close _) (by simp) ?_
      exact Legible.cons (scan_optional hcalm) (by simp) hcs

-- A placeholder brings in no number but those of its constraint, which was compiled alone before.
theorem legible_parts (hverbatim : ∀ c, .literal c ∈ parts → Verbatim config c)
    (hnames : ∀ parameter ∈ slots parts, Text.isIdentifier parameter.name.toList)
    (hchecked : ∀ parameter ∈ slots parts, checkConstraint parameter.name
      (constraintFor config constraints parameter.name) template = .ok ())
    (hcalm : Reading.Calm (tokens cs)) (hcs : Legible (false :: outer) (tokens cs)) :
    Legible (false :: outer)
      (tokens (parts.flatMap (Part.pattern config constraints) ++ cs)) := by
  induction parts with
  | nil => exact hcs
  | cons part parts ih =>
      have hlater : ∀ c, .literal c ∈ parts → Verbatim config c := fun c hmem =>
        hverbatim c (List.mem_cons_of_mem _ hmem)
      simp only [List.flatMap_cons, List.append_assoc]
      cases part with
      | literal c =>
          have hc := hverbatim c List.mem_cons_self
          rw [Part.pattern, hc.tokens_literal]
          exact Legible.cons (hc.scan_literal _) (by simp) (ih hlater hnames hchecked)
      | slot slashed parameter =>
          have hslots : slots (.slot slashed parameter :: parts) = parameter :: slots parts := rfl
          rw [hslots, List.forall_mem_cons] at hnames hchecked
          obtain ⟨regex, hcompile, -⟩ := compile_of_checkConstraint hchecked.1
          exact legible_fragment hnames.1 hcompile (calm_parts hlater hcalm)
            (ih hlater hnames.2 hchecked.2)

-- Where literals stand for themselves, the constraints are all that could exceed a limit, and by
-- then they have passed.
theorem fails_compile_whole {flags : Regex.Flags} (hplain : flags.verbose = false)
    (hascii : flags.ascii = false) (hverbatim : ∀ c, .literal c ∈ parts → Verbatim config c)
    (htext : text.toList =
      '^' :: parts.flatMap (Part.pattern config constraints) ++ "/?\\Z".toList)
    (hnames : ∀ parameter ∈ slots parts, Text.isIdentifier parameter.name.toList)
    (hchecked : ∀ parameter ∈ slots parts, checkConstraint parameter.name
      (constraintFor config constraints parameter.name) template = .ok ()) :
    Fails Regex.Error.Malformed (Regex.compile text flags) := by
  have hlegible : Legible [flags.verbose] (tokens text.toList) := by
    rw [hplain, htext, List.cons_append, Regex.tokens_cons (by decide)]
    have hstart (ts : List Regex.Token) :
        Regex.scan false (.plain '^') ts = .ok (.anchor .lineStart, ts) := rfl
    have hend : Regex.scan false (.escaped 'Z') [] = .ok (.anchor .textEnd, []) := rfl
    refine Legible.cons (hstart _) (by simp) ?_
    refine legible_parts hverbatim hnames hchecked ⟨by decide, by decide⟩ ?_
    refine Legible.cons (scan_slash _) (by simp) ?_
    refine Legible.cons (scan_optional ⟨by decide, by decide⟩) (by simp) ?_
    exact Legible.cons hend (by simp) (.nil _)
  intro error herror
  rcases hlegible.fails_compile error herror with hmalformed | rfl
  · exact hmalformed
  · rcases Regex.fails_compile_anchored hascii htext _ herror with hmalformed | hover
    · exact hmalformed
    · cases hover

-- A configuration fault, or a limit that a pattern exceeds.
inductive Refused (Limit : Regex.Error → Prop) : Error → Prop
  | configuration (fault : ConfigurationFault) : Refused Limit (.configuration fault)
  | limit {error : Regex.Error} (limit : Limit error) : Refused Limit (.pattern error)

theorem Refused.mono {P Q : Regex.Error → Prop} (h : ∀ error, P error → Q error) (error : Error)
    (hrefused : Refused P error) : Refused Q error := by
  cases hrefused with
  | configuration fault => exact .configuration fault
  | limit limit => exact .limit (h _ limit)

theorem fails_compilePattern {flags : Regex.Flags} {fault : Regex.Error → ConfigurationFault}
    {Limit : Regex.Error → Prop}
    (h : Fails (fun e => e.Malformed ∨ Limit e) (Regex.compile text flags)) :
    Fails (Refused Limit) (Config.compilePattern text flags fault) := by
  intro error herror
  unfold Config.compilePattern at herror
  cases hcompile : Regex.compile text flags with
  | ok regex =>
      rw [hcompile] at herror
      cases herror
  | error cause =>
      rw [hcompile] at herror
      rw [← Except.error.inj herror]
      rcases h cause hcompile with ⟨cause, place, rfl⟩ | hlimit
      · exact .configuration _
      · cases cause with
        | malformed => exact .configuration _
        | _ => exact .limit hlimit

theorem fails_fault {α : Type} {Limit : Regex.Error → Prop} (fault : ConfigurationFault) :
    Fails (Refused Limit) (.error (.configuration fault) : Except Error α) :=
  fails_error (.configuration fault)

theorem fails_checkConstraint (name pattern : String) :
    Fails (Refused (Exceeds pattern)) (checkConstraint name pattern template) := by
  unfold checkConstraint
  refine (fails_compilePattern (Regex.fails_compile_exceeds rfl rfl)).bind fun regex _ => ?_
  split
  · exact fails_ok _
  · exact fails_fault _

-- A placeholder of that name stands in the template.
def Stands (config : Config) (template name : String) : Prop :=
  ∃ body, config.paramOpen :: body ++ [config.paramClose] <:+: template.toList ∧
    (parameterOf config body).name = name

-- The limits that the pattern of a placeholder exceeds.
def ConstraintExceeds (config : Config) (constraints : Constraints) (template : String)
    (limit : Regex.Error) : Prop :=
  ∃ name, Stands config template name ∧ Exceeds (constraintFor config constraints name) limit

-- What was read of the placeholders stands in the part of the template that was read.
structure Draft.Within (draft : Draft) (config : Config) (template : String) (seen : List Char) :
    Prop where
  body : ∀ body ∈ draft.body, config.paramOpen :: body <:+ seen
  parameters : ∀ parameter ∈ draft.parameters, Stands config template parameter.name

theorem stands_of_close {body : List Char} (hbody : config.paramOpen :: body <:+ seen)
    (hseen : seen ++ config.paramClose :: cs = template.toList) :
    Stands config template (parameterOf config body).name := by
  obtain ⟨before, rfl⟩ := hbody
  exact ⟨body, ⟨before, cs, by simp [← hseen]⟩, rfl⟩

theorem Draft.Within.step (h : draft.Within config template seen)
    (hseen : seen ++ c :: cs = template.toList)
    (hstep : Template.step config constraints template draft c = .ok draft') :
    draft'.Within config template (seen ++ [c]) := by
  obtain ⟨-, rfl, rfl⟩ | ⟨hbody, -, rfl⟩ | ⟨body, hbody, rfl, hclose⟩ | ⟨body, hbody, -, rfl⟩ :=
    step_eq_ok hstep
  · refine ⟨fun body hmem => ?_, h.parameters⟩
    obtain rfl := Option.some.inj hmem
    exact List.suffix_append _ _
  · refine ⟨fun body hmem => ?_, h.parameters⟩
    rw [hbody] at hmem
    cases hmem
  · obtain ⟨-, -, -, rfl⟩ := closePlaceholder_eq_ok hclose
    refine ⟨fun _ hmem => (nomatch hmem), fun parameter hmem => ?_⟩
    rcases List.mem_append.mp hmem with hmem | hmem
    · exact h.parameters parameter hmem
    · obtain rfl := List.mem_singleton.mp hmem
      exact stands_of_close (h.body body hbody) hseen
  · refine ⟨fun more hmem => ?_, h.parameters⟩
    obtain rfl := Option.some.inj hmem
    obtain ⟨before, hbefore⟩ := h.body body hbody
    exact ⟨before, by simp [← hbefore]⟩

theorem fails_closePlaceholder {body : List Char} (draft : Draft)
    (hstands : Stands config template (parameterOf config body).name) :
    Fails (Refused (ConstraintExceeds config constraints template))
      (closePlaceholder config constraints template draft body) := by
  unfold closePlaceholder
  dsimp only
  split
  · exact fails_fault _
  · split
    · exact fails_fault _
    · refine Fails.bind ?_ fun _ _ => fails_ok _
      exact (fails_checkConstraint _ _).mono (Refused.mono fun _ h => ⟨_, hstands, h⟩)

theorem fails_step (h : draft.Within config template seen)
    (hseen : seen ++ c :: cs = template.toList) :
    Fails (Refused (ConstraintExceeds config constraints template))
      (step config constraints template draft c) := by
  unfold step
  split
  · split <;> exact fails_ok _
  next body hbody =>
    split
    next hclose =>
      subst hclose
      exact fails_closePlaceholder _ (stands_of_close (h.body body hbody) hseen)
    next => exact fails_ok _

theorem fails_fold (constraints : Constraints) (h : draft.Within config template seen)
    (hseen : seen ++ cs = template.toList) :
    Fails (Refused (ConstraintExceeds config constraints template))
        (cs.foldlM (step config constraints template) draft) ∧
      ∀ draft', cs.foldlM (step config constraints template) draft = .ok draft' →
        draft'.Within config template template.toList := by
  induction cs generalizing draft seen with
  | nil =>
      rw [List.append_nil] at hseen
      exact ⟨fails_ok _, fun draft' hfold => Except.ok.inj hfold ▸ hseen ▸ h⟩
  | cons c cs ih =>
      have hnext : seen ++ [c] ++ cs = template.toList := by simpa using hseen
      rw [List.foldlM_cons]
      refine ⟨(fails_step h hseen).bind fun next hstep => (ih (h.step hseen hstep) hnext).1, ?_⟩
      intro draft' hfold
      obtain ⟨next, hstep, hfold⟩ := Except.bind_eq_ok.mp hfold
      exact (ih (h.step hseen hstep) hnext).2 draft' hfold

theorem fails_read (config : Config) (constraints : Constraints) (template : String) :
    Fails (Refused (ConstraintExceeds config constraints template))
        (read config constraints template) ∧
      ∀ text parameters, read config constraints template = .ok (text, parameters) →
        ∀ parameter ∈ parameters, Stands config template parameter.name := by
  have hstart : Draft.Within {} config template [] := ⟨by simp, by simp⟩
  obtain ⟨hfails, hwithin⟩ := fails_fold constraints hstart (List.nil_append _)
  unfold read
  refine ⟨hfails.bind fun draft _ => ?_, fun text parameters h => ?_⟩
  · split
    · exact fails_fault _
    · exact fails_ok _
  · obtain ⟨draft, hfold, h⟩ := Except.bind_eq_ok.mp h
    split at h
    · cases h
    · obtain ⟨-, rfl⟩ := Prod.mk.inj (Except.ok.inj h)
      exact (hwithin draft hfold).parameters

-- What a template can exceed: the constraint of one of its placeholders does, or, where literals
-- are live, the text that it was read to.
inductive WholeExceeds (config : Config) (constraints : Constraints) (template : String) :
    Regex.Error → Prop
  | constraint {limit : Regex.Error} (h : ConstraintExceeds config constraints template limit) :
      WholeExceeds config constraints template limit
  | live {limit : Regex.Error} {text : String} {parameters : List Parameter}
      (hlive : config.escapeLiterals = false)
      (hread : read config constraints template = .ok (text, parameters))
      (h : Overruns (tokens text.toList) limit) : WholeExceeds config constraints template limit

theorem fails_ofTemplate (config : Config) (constraints : Constraints) (template : String) :
    Fails (Refused (WholeExceeds config constraints template))
      (Pattern.ofTemplate config constraints template).result := by
  rw [ofTemplate_result]
  refine Fails.bind (.mono (fails_read _ _ _).1 (Refused.mono fun _ => .constraint)) ?_
  rintro ⟨text, parameters⟩ hread
  refine Fails.bind ?_ fun regex _ => fails_ok _
  obtain ⟨parts, -, htext, hparameters, hsound⟩ := read_eq_ok hread
  cases hescape : config.escapeLiterals with
  | true =>
      rw [hparameters] at hsound
      have hmalformed : Fails Regex.Error.Malformed (Regex.compile text config.flags) :=
        fails_compile_whole rfl rfl (fun _ _ => .inl hescape) htext hsound.identifiers
          hsound.checked
      exact fails_compilePattern (hmalformed.mono fun _ => .inl)
  | false =>
      exact (fails_compilePattern (Regex.fails_compile_anchored rfl htext)).mono
        (Refused.mono fun limit hlimit => .live hescape hread hlimit)

theorem fails_ofOverride (config : Config) (template text : String) :
    Fails (Refused (Exceeds text)) (Pattern.ofOverride config template text) :=
  (fails_compilePattern (Regex.fails_compile_exceeds rfl rfl)).bind fun _ _ => fails_ok _

theorem fails_ofOptions (options : ConfigOptions) :
    Fails (Refused (Exceeds options.defaultPattern)) (Config.ofOptions options) := by
  have hone : ∀ field text : String, Fails (Refused (Exceeds options.defaultPattern))
      (Config.oneCharacter field text) := by
    intro field text
    unfold Config.oneCharacter
    split
    · exact fails_ok _
    · exact fails_fault _
  unfold Config.ofOptions
  refine (hone _ _).bind fun paramOpen _ => (hone _ _).bind fun paramClose _ =>
    (hone _ _).bind fun optionalSymbol _ => ?_
  split
  · split
    · exact (fails_compilePattern (Regex.fails_compile_exceeds rfl rfl)).bind fun _ _ => fails_ok _
    · exact fails_fault _
  · exact fails_fault _

-- Setting up fails by a configuration fault, except where a pattern that is stated exceeds a limit.
theorem refused_of_registration (options : ConfigOptions) (config : Config)
    (constraints : Constraints) (template text : String) :
    Fails (Refused (Exceeds options.defaultPattern)) (Config.ofOptions options) ∧
      Fails (Refused (Exceeds text)) (Pattern.ofOverride config template text) ∧
      Fails (Refused (WholeExceeds config constraints template))
        (Pattern.ofTemplate config constraints template).result :=
  ⟨fails_ofOptions options, fails_ofOverride config template text,
    fails_ofTemplate config constraints template⟩

-- The limit that a result failed for, if it failed for one.
def limit? {α : Type} : Except Error α → Option Regex.Error
  | .error (.pattern limit) => some limit
  | _ => none

theorem eq_error_of_limit? {α : Type} {x : Except Error α} {limit : Regex.Error}
    (h : limit? x = some limit) : x = .error (.pattern limit) := by
  unfold limit? at h
  split at h
  · rw [Option.some.inj h]
  · cases h

-- A count that is too large escapes wherever a pattern is stated, and so do two alphabets.
theorem limits_escape :
    (Pattern.ofTemplate default [(.str "id", "a\x7b4294967295\x7d")] "/\x7bid\x7d").result =
        .error (.pattern .countTooLarge) ∧
      Pattern.ofOverride default "/x" "a\x7b4294967295\x7d" = .error (.pattern .countTooLarge) ∧
      Config.ofOptions { defaultPattern := "(?a)(?u)x" } = .error (.pattern .alphabetsClash) :=
  ⟨eq_error_of_limit? (by decide +kernel), eq_error_of_limit? (by decide +kernel),
    eq_error_of_limit? (by decide +kernel)⟩

section LongNumber

variable {number : List Char}

theorem tokens_condition (hnumber : ∀ c ∈ number, c.isDigit = true) :
    tokens ("(?(".toList ++ number ++ ")a|b)".toList) =
      .plain '(' :: .plain '?' :: .plain '(' ::
        (number.map .plain ++ .plain ')' :: tokens "a|b)".toList) := by
  have hplain : '\\' ∉ "(?(".toList ++ number ++ ")a|b)".toList := by
    simp only [List.mem_append, not_or]
    exact ⟨⟨by decide, fun hmem => absurd (hnumber _ hmem) (by decide)⟩, by decide⟩
  have hcut := Regex.tokens_plain hplain []
  rw [List.append_nil] at hcut
  rw [hcut]
  simp [tokens]

theorem scan_condition (hnumber : ∀ c ∈ number, c.isDigit = true)
    (hlong : Text.digitLimit < number.length) (ts : List Regex.Token) :
    Regex.scan false (.plain '(')
        (.plain '?' :: .plain '(' :: (number.map .plain ++ .plain ')' :: ts)) =
      .error (.numberTooLong number.length (Regex.size ts)) := by
  have hcloser : ')' ∉ number := fun hmem => absurd (hnumber _ hmem) (by decide)
  have hname : Regex.scanName ')' "group name" (number.map .plain ++ .plain ')' :: ts) =
      .ok (number, ts) := by
    rw [Regex.scanName, cutAt_plain hcloser]
    cases number with
    | nil => cases hlong
    | cons => rfl
  show Regex.scanCondition _ = _
  rw [Regex.scanCondition, hname, Except.bind_ok]
  simp only [List.all_eq_true.mpr hnumber, if_true, Regex.readNumber, if_pos hlong]
  rfl

-- The number of a conditional group escapes once it has too many digits.
theorem number_escapes (config : Config) (template : String)
    (hnumber : ∀ c ∈ number, c.isDigit = true) (hlong : Text.digitLimit < number.length) :
    Pattern.ofOverride config template
        (String.ofList ("(?(".toList ++ number ++ ")a|b)".toList)) =
      .error (.pattern (.numberTooLong number.length)) := by
  have hread : (Reading.start config.flags).read 0
      (tokens ("(?(".toList ++ number ++ ")a|b)".toList)) =
      .error (.numberTooLong number.length 4) := by
    rw [tokens_condition hnumber, Reading.read]
    show (Regex.scan false _ _ >>= _) = _
    rw [scan_condition hnumber hlong]
    rfl
  have hcompile : Regex.compile (String.ofList ("(?(".toList ++ number ++ ")a|b)".toList))
      config.flags = .error (.numberTooLong number.length) := by
    rw [Regex.compile, Regex.readTokens, String.toList_ofList, hread]
    simp [Regex.Refusal.left, Regex.Refusal.error]
  rw [Pattern.ofOverride, Pattern.compileRegex, Config.compilePattern, hcompile]
  rfl

end LongNumber

end Template

end Signpost
