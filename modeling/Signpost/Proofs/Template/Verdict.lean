import Mathlib.Data.List.Induction
import Signpost.Proofs.Template.Acceptance
import Signpost.Proofs.Template.Grammar
import Signpost.Proofs.Template.Registration

namespace Signpost.Template

open Signpost.Regex (compile)

-- What is wrong with a placeholder behind others that have the names `taken`. Its name is looked
-- at first, then the names before it, then its constraint. A limit that the constraint exceeds
-- is no configuration fault.
inductive Offence (config : Config) (constraints : Constraints) (template : String)
    (taken : List String) (name : String) : Error → Prop
  | name (hname : ¬Text.isIdentifier name.toList) :
      Offence config constraints template taken name (.configuration (.parameterName name template))
  | repeated (hname : Text.isIdentifier name.toList) (htaken : name ∈ taken) :
      Offence config constraints template taken name
        (.configuration (.duplicateParameter name template))
  | constraint {cause : Regex.Cause} {place : Option Regex.Place}
      (hname : Text.isIdentifier name.toList) (hnew : name ∉ taken)
      (hcompile : compile (constraintFor config constraints name) {} =
        .error (.malformed cause place)) :
      Offence config constraints template taken name
        (.configuration (.constraint name template (.malformed cause place)))
  | limit {limit : Regex.Error} (hname : Text.isIdentifier name.toList) (hnew : name ∉ taken)
      (hcompile : compile (constraintFor config constraints name) {} = .error limit)
      (hlimit : ¬limit.Malformed) : Offence config constraints template taken name (.pattern limit)
  | namedGroups {regex : Regex} (hname : Text.isIdentifier name.toList) (hnew : name ∉ taken)
      (hcompile : compile (constraintFor config constraints name) {} = .ok regex)
      (hnamed : regex.names ≠ []) :
      Offence config constraints template taken name (.configuration (.namedGroups name template))

-- None of the placeholders offends.
def Passed (config : Config) (constraints : Constraints) (template : String)
    (parameters : List Parameter) : Prop :=
  ∀ before parameter after, parameters = before ++ parameter :: after →
    ∀ error, ¬Offence config constraints template (before.map (·.name)) parameter.name error

-- What a template comes to that was cut into `chunks`: it is refused for the first placeholder
-- that offends, then for a body that is not closed, then for its whole pattern.
inductive Outcome (config : Config) (constraints : Constraints) (template : String) :
    List Chunk → Option (List Char) → Except Error Pattern → Prop
  | refused {before after : List Chunk} {parameter : Parameter} {body? : Option (List Char)}
      {error : Error} (hbefore : Passed config constraints template (placeholders before))
      (h : Offence config constraints template ((placeholders before).map (·.name))
        parameter.name error) :
      Outcome config constraints template (before ++ .placeholder parameter :: after) body?
        (.error error)
  | unterminated {chunks : List Chunk} {body : List Char}
      (h : Passed config constraints template (placeholders chunks)) :
      Outcome config constraints template chunks (some body) (.error (.configuration
        (.unterminated config.paramOpen (String.ofList body) template)))
  | invalid {chunks : List Chunk} {cause : Regex.Cause} {place : Option Regex.Place}
      (h : Passed config constraints template (placeholders chunks))
      (hcompile : compile (wholePattern config constraints chunks) config.flags =
        .error (.malformed cause place)) :
      Outcome config constraints template chunks none (.error (.configuration (.invalidPattern
        template (wholePattern config constraints chunks) (.malformed cause place))))
  | limit {chunks : List Chunk} {limit : Regex.Error}
      (h : Passed config constraints template (placeholders chunks))
      (hcompile : compile (wholePattern config constraints chunks) config.flags = .error limit)
      (hlimit : ¬limit.Malformed) :
      Outcome config constraints template chunks none (.error (.pattern limit))
  | compiled {chunks : List Chunk} {regex : Regex}
      (h : Passed config constraints template (placeholders chunks))
      (hcompile : compile (wholePattern config constraints chunks) config.flags = .ok regex) :
      Outcome config constraints template chunks none
        (.ok { template, regex, parameters := placeholders chunks })

variable {config : Config} {constraints : Constraints} {template : String} {parameter : Parameter}
  {parameters : List Parameter} {chunks : List Chunk} {body cs : List Char}
  {body? : Option (List Char)} {taken : List String} {error : Error} {draft : Draft}

theorem not_malformed {limit : Regex.Error} (hlimit : ¬limit.Malformed)
    (fault : Regex.Error → ConfigurationFault) :
    Config.patternError fault limit = .pattern limit := by
  cases limit with
  | malformed cause place => exact absurd ⟨cause, place, rfl⟩ hlimit
  | _ => rfl

theorem compilePattern_of_error {text : String} {flags : Regex.Flags} {cause : Regex.Error}
    (fault : Regex.Error → ConfigurationFault) (h : compile text flags = .error cause) :
    Config.compilePattern text flags fault = .error (Config.patternError fault cause) := by
  rw [Config.compilePattern, h]
  rfl

-- Where the name of a placeholder is new, what is left to check is its constraint.
theorem closePlaceholder_of_new {name : String} (hname : Text.isIdentifier name.toList)
    (hnew : name ∉ draft.parameters.map (·.name))
    (hparameter : (parameterOf config body).name = name)
    (hcheck : checkConstraint name (constraintFor config constraints name) template =
      .error error) :
    closePlaceholder config constraints template draft body = .error error := by
  have hother : draft.parameters.any (·.name == name) = false := by
    rw [List.any_eq_false]
    intro parameter hmem hsame
    exact hnew (List.mem_map.mpr ⟨parameter, hmem, by simpa using hsame⟩)
  simp only [closePlaceholder, hparameter, hname, hother, hcheck]
  rfl

-- Each offence of a placeholder is what closing it fails with.
theorem closePlaceholder_of_offence (hnames : Names config body parameter)
    (h : Offence config constraints template (draft.parameters.map (·.name)) parameter.name
      error) :
    closePlaceholder config constraints template draft body = .error error := by
  obtain rfl := names_iff.mp hnames
  cases h with
  | name hname =>
      rw [Bool.not_eq_true] at hname
      simp [closePlaceholder, hname]
  | repeated hname htaken =>
      obtain ⟨other, hmem, hsame⟩ := List.mem_map.mp htaken
      have htwice : draft.parameters.any (·.name == (parameterOf config body).name) = true :=
        List.any_eq_true.mpr ⟨other, hmem, by simpa using hsame⟩
      simp [closePlaceholder, hname, htwice]
  | constraint hname hnew hcompile =>
      refine closePlaceholder_of_new hname hnew rfl ?_
      rw [checkConstraint, compilePattern_of_error _ hcompile]
      rfl
  | limit hname hnew hcompile hlimit =>
      refine closePlaceholder_of_new hname hnew rfl ?_
      rw [checkConstraint, compilePattern_of_error _ hcompile, not_malformed hlimit]
      rfl
  | namedGroups hname hnew hcompile hnamed =>
      refine closePlaceholder_of_new hname hnew rfl ?_
      simp only [checkConstraint, Config.compilePattern, hcompile, Except.mapError, Except.bind_ok,
        List.isEmpty_iff, if_neg hnamed]
      rfl

-- A placeholder that does not offend passes the checks.
theorem checked_of_not_offence {name : String}
    (h : ∀ error, ¬Offence config constraints template taken name error) :
    Text.isIdentifier name.toList ∧ name ∉ taken ∧
      checkConstraint name (constraintFor config constraints name) template = .ok () := by
  have hname : Text.isIdentifier name.toList := by
    by_contra hname
    exact h _ (.name hname)
  have hnew : name ∉ taken := fun htaken => h _ (.repeated hname htaken)
  refine ⟨hname, hnew, ?_⟩
  cases hcompile : compile (constraintFor config constraints name) {} with
  | error cause =>
      by_cases hlimit : cause.Malformed
      · obtain ⟨cause, place, rfl⟩ := hlimit
        exact absurd (.constraint hname hnew hcompile) (h _)
      · exact absurd (.limit hname hnew hcompile hlimit) (h _)
  | ok regex =>
      have hnone : regex.names = [] := by
        by_contra hnamed
        exact h _ (.namedGroups hname hnew hcompile hnamed)
      simp only [checkConstraint, Config.compilePattern, hcompile, Except.mapError, Except.bind_ok,
        hnone]
      rfl

theorem placeholders_concat (chunks : List Chunk) (parameter : Parameter) :
    placeholders (chunks ++ [.placeholder parameter]) = placeholders chunks ++ [parameter] := by
  simp [placeholders, Chunk.parameter?]

theorem Passed.snoc (h : Passed config constraints template parameters)
    (hlast : ∀ error, ¬Offence config constraints template (parameters.map (·.name)) parameter.name
      error) : Passed config constraints template (parameters ++ [parameter]) := by
  intro before other after hsplit
  rcases List.eq_nil_or_concat after with rfl | ⟨after, last, rfl⟩
  · obtain ⟨rfl, hother⟩ := List.append_inj' hsplit rfl
    obtain rfl := List.singleton_inj.mp hother
    exact hlast
  · rw [List.concat_eq_append, ← List.cons_append, ← List.append_assoc] at hsplit
    exact h before other after (List.append_inj' hsplit rfl).1

theorem Passed.of_snoc (h : Passed config constraints template (parameters ++ [parameter])) :
    Passed config constraints template parameters := by
  rintro before other after rfl
  exact h before other (after ++ [parameter]) (by simp)

theorem sound_of_passed (h : Passed config constraints template parameters) :
    Sound config constraints template parameters := by
  induction parameters using List.reverseRecOn with
  | nil => exact ⟨List.nodup_nil, by simp, by simp⟩
  | append_singleton parameters parameter ih =>
      obtain ⟨hname, hnew, hcheck⟩ := checked_of_not_offence (h parameters parameter [] (by simp))
      refine (ih h.of_snoc).snoc hname (fun other hmem hsame => ?_) hcheck
      exact hnew (hsame ▸ List.mem_map_of_mem hmem)

-- Of the placeholders of a template either none offends or one is the first to do so.
theorem passed_or_offence (config : Config) (constraints : Constraints) (template : String)
    (chunks : List Chunk) :
    Passed config constraints template (placeholders chunks) ∨
      ∃ before parameter after error, chunks = before ++ .placeholder parameter :: after ∧
        Passed config constraints template (placeholders before) ∧
        Offence config constraints template ((placeholders before).map (·.name)) parameter.name
          error := by
  induction chunks using List.reverseRecOn with
  | nil =>
      refine .inl fun before parameter after h => ?_
      simp [placeholders] at h
  | append_singleton chunks chunk ih =>
      rcases ih with hpassed | ⟨before, parameter, after, error, rfl, hbefore, hoffence⟩
      · cases chunk with
        | literal c =>
            left
            have hsame : placeholders (chunks ++ [.literal c]) = placeholders chunks := by
              simp [placeholders, Chunk.parameter?]
            rw [hsame]
            exact hpassed
        | placeholder parameter =>
            by_cases hoffence : ∃ error, Offence config constraints template
                ((placeholders chunks).map (·.name)) parameter.name error
            · obtain ⟨error, hoffence⟩ := hoffence
              exact .inr ⟨chunks, parameter, [], error, rfl, hpassed, hoffence⟩
            · rw [placeholders_concat]
              exact .inl (hpassed.snoc (not_exists.mp hoffence))
      · exact .inr ⟨before, parameter, after ++ [chunk], error, by simp, hbefore, hoffence⟩

theorem fold_body (draft : Draft) (hbody : config.paramClose ∉ body) (seen : List Char) :
    body.foldlM (step config constraints template) { draft with body := some seen } =
      .ok { draft with body := some (seen ++ body) } := by
  induction body generalizing seen with
  | nil => simp [pure, Except.pure]
  | cons c body ih =>
      rw [List.mem_cons, not_or] at hbody
      rw [List.foldlM_cons, step]
      dsimp only
      rw [if_neg (Ne.symm hbody.1), Except.bind_ok, ih hbody.2]
      simp

-- A placeholder is opened and its body is kept.
theorem fold_open (hclosed : draft.body = none) (hbody : config.paramClose ∉ body)
    (rest : List Char) :
    (config.paramOpen :: (body ++ rest)).foldlM (step config constraints template) draft =
      rest.foldlM (step config constraints template)
        { draft with pattern := dropSlash draft.pattern, body := some body } := by
  rw [List.foldlM_cons, step, hclosed]
  dsimp only
  rw [if_pos rfl, Except.bind_ok, List.foldlM_append,
    fold_body { draft with pattern := dropSlash draft.pattern } hbody, Except.bind_ok,
    List.nil_append]

-- The front of a template whose placeholders pass is read.
theorem Cut.fold (h : Cut config chunks none cs)
    (hpassed : Passed config constraints template (placeholders chunks)) :
    ∃ draft, cs.foldlM (step config constraints template) {} = .ok draft ∧ draft.body = none ∧
      draft.parameters = placeholders chunks := by
  have hsound := sound_of_passed hpassed
  rw [← slots_arranged] at hsound
  obtain ⟨draft, hfold, hclosed⟩ :=
    exists_fold template {} h.parts? hsound.identifiers hsound.names hsound.checked
  obtain ⟨parts, hparts, -, hparameters⟩ := fold_eq_ok hfold hclosed
  obtain rfl : arranged chunks = parts := Option.some.inj (h.parts?.symm.trans hparts)
  exact ⟨draft, hfold, hclosed, by simpa [slots_arranged] using hparameters⟩

-- The reading stops at a placeholder that offends behind others that pass.
theorem fold_offence {before after : List Chunk}
    (h : Cut config (before ++ .placeholder parameter :: after) body? cs)
    (hpassed : Passed config constraints template (placeholders before))
    (hoffence : Offence config constraints template ((placeholders before).map (·.name))
      parameter.name error) :
    cs.foldlM (step config constraints template) {} = .error error := by
  obtain ⟨front, rest, rfl, hfront, hrest⟩ := h.of_append
  obtain ⟨draft, hfold, hclosed, hparameters⟩ := hfront.fold hpassed
  rw [← hparameters] at hoffence
  cases hrest with
  | @placeholder body _ _ _ rest hbody hnames _ =>
      have hclose : closePlaceholder config constraints template
          { draft with pattern := dropSlash draft.pattern, body := some body } body =
            .error error :=
        closePlaceholder_of_offence hnames hoffence
      rw [List.foldlM_append, hfold, Except.bind_ok, fold_open hclosed hbody, List.foldlM_cons,
        step]
      dsimp only
      rw [if_pos rfl, hclose]
      rfl

theorem read_refused {before after : List Chunk}
    (h : Cut config (before ++ .placeholder parameter :: after) body? template.toList)
    (hpassed : Passed config constraints template (placeholders before))
    (hoffence : Offence config constraints template ((placeholders before).map (·.name))
      parameter.name error) :
    Template.read config constraints template = .error error := by
  rw [Template.read, fold_offence h hpassed hoffence]
  rfl

theorem read_unterminated (h : Cut config chunks (some body) template.toList)
    (hpassed : Passed config constraints template (placeholders chunks)) :
    Template.read config constraints template = .error (.configuration
      (.unterminated config.paramOpen (String.ofList body) template)) := by
  rw [← List.append_nil chunks] at h
  obtain ⟨front, rest, htext, hfront, hrest⟩ := h.of_append
  obtain ⟨draft, hfold, hclosed, -⟩ := hfront.fold hpassed
  cases hrest with
  | unclosed hbody =>
      have hopen : template.toList.foldlM (step config constraints template) {} =
          .ok { draft with pattern := dropSlash draft.pattern, body := some body } := by
        rw [htext, List.foldlM_append, hfold, Except.bind_ok,
          ← List.append_nil (config.paramOpen :: _), List.cons_append, fold_open hclosed hbody]
        rfl
      rw [Template.read, hopen]
      rfl

theorem read_passed (h : Cut config chunks none template.toList)
    (hpassed : Passed config constraints template (placeholders chunks)) :
    Template.read config constraints template =
      .ok (wholePattern config constraints chunks, placeholders chunks) := by
  have hsound := sound_of_passed hpassed
  rw [← slots_arranged] at hsound
  obtain ⟨text, hread, htext⟩ := exists_read h.parts? hsound
  obtain rfl : text = wholePattern config constraints chunks := by
    rw [← String.toList_inj, htext, pattern_arranged]
    exact String.toList_ofList.symm
  rw [hread, slots_arranged]

-- What is told of the pieces of a template is what it compiles to.
theorem result_of_outcome {result : Except Error Pattern}
    (hcut : Cut config chunks body? template.toList)
    (h : Outcome config constraints template chunks body? result) :
    (Pattern.ofTemplate config constraints template).result = result := by
  cases h with
  | refused hbefore hoffence =>
      rw [ofTemplate_result, read_refused hcut hbefore hoffence]
      rfl
  | unterminated hpassed =>
      rw [ofTemplate_result, read_unterminated hcut hpassed]
      rfl
  | invalid hpassed hcompile =>
      rw [ofTemplate_result, read_passed hcut hpassed, Except.bind_ok]
      dsimp only
      rw [Pattern.compileRegex, compilePattern_of_error _ hcompile]
      rfl
  | limit hpassed hcompile hlimit =>
      rw [ofTemplate_result, read_passed hcut hpassed, Except.bind_ok]
      dsimp only
      rw [Pattern.compileRegex, compilePattern_of_error _ hcompile, not_malformed hlimit]
      rfl
  | compiled hpassed hcompile => exact ofTemplate_of_read (read_passed hcut hpassed) hcompile

theorem exists_outcome (config : Config) (constraints : Constraints) (template : String)
    (chunks : List Chunk) (body? : Option (List Char)) :
    ∃ result, Outcome config constraints template chunks body? result := by
  rcases passed_or_offence config constraints template chunks with
    hpassed | ⟨before, parameter, after, error, rfl, hbefore, hoffence⟩
  · cases body? with
    | some body => exact ⟨_, .unterminated hpassed⟩
    | none =>
        cases hcompile : compile (wholePattern config constraints chunks) config.flags with
        | ok regex => exact ⟨_, .compiled hpassed hcompile⟩
        | error cause =>
            by_cases hlimit : cause.Malformed
            · obtain ⟨cause, place, rfl⟩ := hlimit
              exact ⟨_, .invalid hpassed hcompile⟩
            · exact ⟨_, .limit hpassed hcompile hlimit⟩
  · exact ⟨_, .refused hbefore hoffence⟩

-- A template is cut in exactly one way, and it compiles to what its pieces say.
theorem ofTemplate_follows_grammar (config : Config) (constraints : Constraints)
    (template : String) :
    ∃ chunks body?, Cut config chunks body? template.toList ∧
      (∀ others other?, Cut config others other? template.toList →
        others = chunks ∧ other? = body?) ∧
      ∀ result, (Pattern.ofTemplate config constraints template).result = result ↔
        Outcome config constraints template chunks body? result := by
  obtain ⟨⟨chunks, body?, hcut⟩, -⟩ := exists_cut config template.toList
  refine ⟨chunks, body?, hcut, fun _ _ => hcut.unique, fun result => ?_⟩
  refine ⟨fun hresult => ?_, result_of_outcome hcut⟩
  obtain ⟨other, houtcome⟩ := exists_outcome config constraints template chunks body?
  obtain rfl := (result_of_outcome hcut houtcome).symm.trans hresult
  exact houtcome

-- What is wrong with the constraint of the first of two placeholders of one name is no
-- configuration fault if it is a limit, though neither of the two passes.
theorem limit_before_repeated_name :
    (compile "a\x7b4294967295\x7d" {}).isOk = false ∧
      (Pattern.ofTemplate default [(.str "id", "a\x7b4294967295\x7d")]
        "/\x7bid\x7d/\x7bid\x7d").result = .error (.pattern .countTooLarge) :=
  ⟨by decide +kernel, eq_error_of_limit? (by decide +kernel)⟩

end Signpost.Template
