import Signpost.Proofs.Template.Binding

namespace Signpost.Template

open Signpost.Regex

variable {config : Config} {constraints : Constraints} {mode : Flags} {parts : List Part}
  {items : List Item} {groups : Nat} {found : Spot} {template : String} {pattern : Pattern}

theorem Laid.exists_item (h : Laid config constraints mode groups parts items)
    {parameter : Parameter} (hmem : parameter ∈ slots parts) :
    ∃ index body, .slot parameter index body ∈ items := by
  induction h with
  | nil => simp [slots] at hmem
  | literal c _ ih =>
      obtain ⟨index, body, hitem⟩ := ih hmem
      exact ⟨index, body, List.mem_cons_of_mem _ hitem⟩
  | @slot groups _ _ _ body slashed other _ _ _ ih =>
      rcases List.mem_cons.mp hmem with rfl | hmem
      · exact ⟨groups + 1, body, List.mem_cons_self⟩
      · obtain ⟨index, body, hitem⟩ := ih hmem
        exact ⟨index, body, List.mem_cons_of_mem _ hitem⟩

theorem values_bindings (items : List Item) (found : Spot) :
    (bindings items found).map (fun binding => binding.2.toList) =
      (items.filterMap (Item.bound? found)).map Prod.snd := by
  simp [bindings]

theorem mem_keys_bindings {parameter : Parameter} {index : Nat} {body : Node} {value : List Char}
    (hmem : .slot parameter index body ∈ items) (hvalue : found.captured? index = some value) :
    parameter.name ∈ Entries.keys (bindings items found) := by
  have hbound : (parameter.name, value) ∈ items.filterMap (Item.bound? found) :=
    List.mem_filterMap.mpr ⟨_, hmem, by simp [Item.bound?, hvalue]⟩
  refine List.mem_map.mpr ⟨(parameter.name, String.ofList value), ?_, rfl⟩
  exact List.mem_map.mpr ⟨_, hbound, rfl⟩

-- The groups with names are the placeholders of the template, in its order. A path that is
-- matched never gives an error: it binds every required placeholder, no name twice and none out
-- of order, to values that stand in the path one after the other.
theorem match?_agrees_with_parameters (hescape : config.escapeLiterals = true)
    (h : (Pattern.ofTemplate config constraints template).result = .ok pattern) :
    (∃ parts, parts? config none template.toList = some parts ∧
      pattern.parameters = slots parts) ∧
      pattern.regex.names.map Prod.fst = pattern.parameterNames ∧
      ∀ path, pattern.match? path = .ok none ∨
        ∃ bindings, pattern.match? path = .ok (some bindings) ∧
          (Entries.keys bindings).Sublist pattern.parameterNames ∧
          (∀ parameter ∈ pattern.parameters, parameter.required →
            parameter.name ∈ Entries.keys bindings) ∧
          InOrder (bindings.map fun binding => binding.2.toList) path.toList := by
  obtain ⟨parts, items, hcompiled⟩ := compiled_of_ofTemplate hescape h
  refine ⟨⟨parts, hcompiled.cut, hcompiled.parameters⟩, ?_, fun path => ?_⟩
  · rw [hcompiled.names, hcompiled.laid.names_eq, Pattern.parameterNames, hcompiled.parameters]
  rw [hcompiled.match?_eq path]
  cases hfound : pattern.regex.match? path with
  | none => exact .inl rfl
  | some found =>
      obtain ⟨horder, hrequired⟩ := hcompiled.captures hfound
      refine .inr ⟨bindings items found, rfl, ?_, ?_, ?_⟩
      · rw [Pattern.parameterNames, hcompiled.parameters]
        exact hcompiled.laid.keys_sublist found
      · intro parameter hmem hreq
        rw [hcompiled.parameters] at hmem
        obtain ⟨index, body, hitem⟩ := hcompiled.laid.exists_item hmem
        obtain ⟨value, hvalue⟩ := hrequired parameter index body hitem hreq
        exact mem_keys_bindings hitem hvalue
      · rw [values_bindings]
        exact horder

-- A constraint with groups and alternatives of its own changes nothing of this.
theorem match?_agrees_with_slug :
    ∃ pattern : Pattern,
      (Pattern.ofTemplate default [(.str "id", "(a|b)+|(?i:c)")]
        "/user/\x7bid\x7d/\x7bslug?\x7d").result = .ok pattern ∧
      pattern.regex.names.map Prod.fst = pattern.parameterNames ∧
      ∀ path, pattern.match? path = .ok none ∨
        ∃ bindings, pattern.match? path = .ok (some bindings) ∧
          (Entries.keys bindings).Sublist pattern.parameterNames ∧
          (∀ parameter ∈ pattern.parameters, parameter.required →
            parameter.name ∈ Entries.keys bindings) ∧
          InOrder (bindings.map fun binding => binding.2.toList) path.toList := by
  have hok : (Pattern.ofTemplate default [(.str "id", "(a|b)+|(?i:c)")]
      "/user/\x7bid\x7d/\x7bslug?\x7d").result.isOk = true := by decide +kernel
  obtain ⟨pattern, h⟩ := Except.exists_ok_of_isOk hok
  exact ⟨pattern, h, (match?_agrees_with_parameters rfl h).2⟩

end Signpost.Template
