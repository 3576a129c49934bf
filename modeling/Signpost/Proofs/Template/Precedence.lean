import Signpost.Proofs.Template.Search

namespace Signpost.Template

variable {config : Config} {constraints : Constraints} {rules : String → Rule}
  {template : String} {pattern : Pattern}

-- A path without a split is not matched. One that has splits has a first one, and the values of
-- that one are bound, in the order of the template.
theorem match?_eq_first (hescape : config.escapeLiterals = true)
    (hcase : config.caseSensitive = true) (hdefault : config.defaultPattern = "[\\w-]+")
    (h : (Pattern.ofTemplate config constraints template).result = .ok pattern)
    (hrules : ∀ parameter ∈ pattern.parameters,
      Entries.get? constraints (.str parameter.name) = (rules parameter.name).constraint? ∧
        (rules parameter.name).Stated) :
    ∃ parts, parts? config none template.toList = some parts ∧ ∀ path : String,
      (pattern.match? path = .ok none ↔
        ∀ fills close, ¬Splits rules parts fills close path.toList) ∧
      ((∃ fills close, Splits rules parts fills close path.toList) →
        ∃! fills, First rules parts fills path.toList) ∧
      ∀ fills, First rules parts fills path.toList →
        pattern.match? path = .ok (some (bound parts fills)) := by
  obtain ⟨parts, items, hcompiled⟩ := compiled_of_ofTemplate hescape h
  have hgoverned := governed_of_stated hdefault hrules
  rw [hcompiled.parameters] at hgoverned
  refine ⟨parts, hcompiled.cut, fun path => ?_⟩
  rw [hcompiled.match?_eq_trials hcase hgoverned path]
  cases htrial : (trials rules parts path.toList).head? with
  | none =>
      have hempty := List.head?_eq_none_iff.mp htrial
      have hnone (fills : List (Option Fill)) (close : Bool) :
          ¬Splits rules parts fills close path.toList := by
        intro hsplit
        have hmem : (fills, close) ∈ trials rules parts path.toList := mem_trials_of_splits hsplit
        simp [hempty] at hmem
      refine ⟨iff_of_true rfl hnone, ?_, ?_⟩
      · rintro ⟨fills, close, hsplit⟩
        exact absurd hsplit (hnone fills close)
      · rintro fills ⟨⟨close, hsplit⟩, -⟩
        exact absurd hsplit (hnone fills close)
  | some trial =>
      have hsplit := splits_of_mem_trials (List.mem_of_head? htrial)
      have hfirst := first_of_head?_trials htrial
      refine ⟨iff_of_false (by simp) fun hnone => hnone _ _ hsplit, ?_, ?_⟩
      · intro _
        exact ⟨trial.1, hfirst, fun fills h => h.unique hfirst⟩
      · intro fills h
        rw [h.unique hfirst]
        rfl

-- A number, and a choice that may be left out.
theorem match?_eq_first_page :
    ∃ (pattern : Pattern) (rules : String → Rule),
      rules "page" = .number ∧ rules "tone" = .among ["red", "redder"] ∧
      (Pattern.ofTemplate default
        [(.str "page", Route.numberPattern), (.str "tone", Route.choicePattern ["red", "redder"])]
        "/list/\x7bpage\x7d/\x7btone?\x7d").result = .ok pattern ∧
      ∃ parts, parts? default none "/list/\x7bpage\x7d/\x7btone?\x7d".toList = some parts ∧
        ∀ path : String,
          (pattern.match? path = .ok none ↔
            ∀ fills close, ¬Splits rules parts fills close path.toList) ∧
          ((∃ fills close, Splits rules parts fills close path.toList) →
            ∃! fills, First rules parts fills path.toList) ∧
          ∀ fills, First rules parts fills path.toList →
            pattern.match? path = .ok (some (bound parts fills)) := by
  have hseen : (Pattern.ofTemplate default
      [(.str "page", Route.numberPattern), (.str "tone", Route.choicePattern ["red", "redder"])]
      "/list/\x7bpage\x7d/\x7btone?\x7d").result.toOption.bind
        (fun pattern => some pattern.parameters) =
      some [⟨"page", true⟩, ⟨"tone", false⟩] := by decide +kernel
  obtain ⟨pattern, h, hparameters⟩ := Except.exists_ok_of_bind hseen
  refine ⟨pattern, fun name => if name = "page" then .number else .among ["red", "redder"],
    rfl, rfl, h, match?_eq_first rfl rfl rfl h ?_⟩
  rw [Option.some.inj hparameters]
  simp only [List.forall_mem_cons]
  refine ⟨⟨by decide +kernel, trivial⟩, ⟨by decide +kernel, ?_⟩, by simp⟩
  exact ⟨by decide, by decide⟩

end Signpost.Template
