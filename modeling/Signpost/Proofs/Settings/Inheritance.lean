import Signpost.Proofs.Settings.Reading

namespace Signpost.Settings

variable {parent own s t u : Settings}

structure Carries (parent s : Settings) : Prop where
  classNamespace : parent.classNamespace ≠ .null → s.classNamespace ≠ .null
  methods : ∀ method ∈ parent.methods, method ∈ s.methods
  constraints : Entries.keys parent.constraints <+: Entries.keys s.constraints
  parameters : Entries.keys parent.parameters <+: Entries.keys s.parameters
  middleware : parent.middleware.isPrefixOf s.middleware = true

theorem Carries.refl (s : Settings) : Carries s s where
  classNamespace := id
  methods := fun _ hmem => hmem
  constraints := List.prefix_refl _
  parameters := List.prefix_refl _
  middleware := Value.isPrefixOf_refl s.middleware

theorem Carries.trans (h : Carries s t) (h' : Carries t u) : Carries s u where
  classNamespace := fun hset => h'.classNamespace (h.classNamespace hset)
  methods := fun method hmem => h'.methods method (h.methods method hmem)
  constraints := h.constraints.trans h'.constraints
  parameters := h.parameters.trans h'.parameters
  middleware := Value.isPrefixOf_trans h.middleware h'.middleware

theorem isPrefixOf_chain (inherited own : List Value) :
    inherited.isPrefixOf (chain inherited own) = true := by
  unfold chain
  split
  · assumption
  · exact Value.isPrefixOf_append inherited own

-- The namespace that comes out is the own one, unless there is none.
theorem inherit_classNamespace_of_null (hown : own.classNamespace = .null) :
    (own.inherit parent).classNamespace = parent.classNamespace :=
  if_neg (by simp [hown])

theorem inherit_classNamespace_of_ne (hown : own.classNamespace ≠ .null) :
    (own.inherit parent).classNamespace = own.classNamespace :=
  if_pos (Value.bne_null_iff.mpr hown)

theorem inherit_methods (own parent : Settings) :
    (own.inherit parent).methods = RequestMethod.union own.methods parent.methods :=
  RequestMethod.union_of_nodup (by
    simpa using RequestMethod.nodup_union own.methods_nodup parent.methods)

theorem inherit_constraints (own parent : Settings) :
    (own.inherit parent).constraints = Entries.update parent.constraints own.constraints :=
  Entries.ofList_of_distinct (Entries.distinct_update parent.constraints_distinct _)

theorem inherit_parameters (own parent : Settings) :
    (own.inherit parent).parameters = Entries.update parent.parameters own.parameters :=
  Entries.ofList_of_distinct (Entries.distinct_update parent.parameters_distinct _)

theorem carries_inherit (own parent : Settings) : Carries parent (own.inherit parent) where
  classNamespace := by
    intro hset
    by_cases hown : own.classNamespace = .null
    · rwa [inherit_classNamespace_of_null hown]
    · rwa [inherit_classNamespace_of_ne hown]
  methods := by
    intro method hmem
    rw [inherit_methods]
    exact RequestMethod.mem_union.mpr (.inr hmem)
  constraints := by
    rw [inherit_constraints]
    exact Entries.keys_prefix_update _ _
  parameters := by
    rw [inherit_parameters]
    exact Entries.keys_prefix_update _ _
  middleware := isPrefixOf_chain parent.middleware own.middleware

theorem Carries.inherit_eq (h : Carries parent s) : s.inherit parent = s := by
  refine Settings.ext ?_ ?_ ?_ ?_ ?_
  · by_cases hown : s.classNamespace = .null
    · rw [inherit_classNamespace_of_null hown, hown]
      exact Classical.byContradiction fun hset => h.classNamespace hset hown
    · exact inherit_classNamespace_of_ne hown
  · calc RequestMethod.union [] (RequestMethod.union s.methods parent.methods)
        = RequestMethod.union [] s.methods := by rw [RequestMethod.union_of_subset h.methods]
      _ = s.methods := RequestMethod.union_of_nodup s.methods_nodup
  · calc Entries.ofList (Entries.update parent.constraints s.constraints)
        = Entries.ofList s.constraints := by
          rw [Entries.update_of_prefix h.constraints s.constraints_distinct]
      _ = s.constraints := Entries.ofList_of_distinct s.constraints_distinct
  · calc Entries.ofList (Entries.update parent.parameters s.parameters)
        = Entries.ofList s.parameters := by
          rw [Entries.update_of_prefix h.parameters s.parameters_distinct]
      _ = s.parameters := Entries.ofList_of_distinct s.parameters_distinct
  · show chain parent.middleware s.middleware = s.middleware
    rw [chain, if_pos h.middleware]

-- Settings that set nothing are carried by all settings.
theorem carries_of_isDefault (h : parent.isDefault = true) (s : Settings) : Carries parent s := by
  have hunset : ∀ key, parent.isSet key = false := by
    intro key
    simp only [isDefault, Bool.not_eq_true', List.any_eq_false, Bool.not_eq_true] at h
    exact h key (by cases key <;> simp [SettingsKey.all])
  have hnamespace := hunset .classNamespace
  have hmethods := hunset .methods
  have hconstraints := hunset .constraints
  have hparameters := hunset .parameters
  have hmiddleware := hunset .middleware
  simp only [isSet, Bool.not_eq_false', List.isEmpty_iff] at *
  exact
    { classNamespace := fun hset => by simp [Value.bne_null_iff.mpr hset] at hnamespace
      methods := by simp [hmethods]
      constraints := by simp [hconstraints, Entries.keys]
      parameters := by simp [hparameters, Entries.keys]
      middleware := by rw [hmiddleware]; rfl }

-- What inherited settings are merged to. The shortcut for settings that set nothing makes no
-- difference.
theorem merge_result (own : Settings) (inherited : Inherited) :
    (own.merge inherited).result = inherited.read.map own.inherit := by
  rw [merge, Logged.result_bind]
  cases hread : inherited.read with
  | error error => rfl
  | ok parent =>
      show Logged.result _ = .ok (own.inherit parent)
      split
      · next hdefault =>
        rw [(carries_of_isDefault hdefault own).inherit_eq]
        rfl
      · rfl

end Signpost.Settings
