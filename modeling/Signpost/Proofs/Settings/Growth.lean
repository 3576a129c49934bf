import Signpost.Proofs.Settings.Inheritance

namespace Signpost.Settings

variable {s t : Settings} {fields : SettingsFields}

inductive Grown (s t : Settings) : Prop
  | constraints (added : List (Value × Value))
      (h : ofFields { s.fields with
        constraints := .mapping (Entries.update s.constraintValues added) } = .ok t)
  | parameters (added : List (Value × Value))
      (h : ofFields { s.fields with
        parameters := .mapping (Entries.update s.parameters added) } = .ok t)
  | methods (added : List Value)
      (h : ofFields { s.fields with methods := .tuple (s.methodValues ++ added) } = .ok t)
  | middleware (added : List Value)
      (h : ofFields { s.fields with middleware := .tuple (s.middleware ++ added) } = .ok t)
  | classNamespace (value : Value) (hset : value ≠ .null)
      (h : ofFields { s.fields with classNamespace := value } = .ok t)

-- Fields that are those of settings, each with something added or with nothing.
structure Extends (s : Settings) (fields : SettingsFields) : Prop where
  classNamespace : fields.classNamespace = s.classNamespace ∨ fields.classNamespace ≠ .null :=
    by exact .inl rfl
  methods : ∃ added, fields.methods = .tuple (s.methodValues ++ added) :=
    by exact ⟨[], by rw [List.append_nil]; rfl⟩
  constraints : ∃ added, fields.constraints = .mapping (Entries.update s.constraintValues added) :=
    by exact ⟨[], rfl⟩
  parameters : ∃ added, fields.parameters = .mapping (Entries.update s.parameters added) :=
    by exact ⟨[], rfl⟩
  middleware : ∃ added, fields.middleware = .tuple (s.middleware ++ added) :=
    by exact ⟨[], by rw [List.append_nil]; rfl⟩

theorem keys_constraintValues (s : Settings) :
    Entries.keys s.constraintValues = Entries.keys s.constraints := by
  simp [Entries.keys, constraintValues]

theorem distinct_constraintValues (s : Settings) : Entries.Distinct s.constraintValues := by
  rw [Entries.distinct_iff_keys, keys_constraintValues]
  exact Entries.distinct_iff_keys.mp s.constraints_distinct

-- The methods that are read first are those that were there.
theorem mem_of_readMethods {added : List Value} {methods : List RequestMethod}
    (h : SettingsFields.readMethods (.tuple (s.methodValues ++ added)) = .ok methods) :
    ∀ method ∈ s.methods, method ∈ methods := by
  intro method hmem
  obtain ⟨items, hitems, h⟩ := Except.bind_eq_ok.mp h
  obtain rfl : s.methodValues ++ added = items := Except.ok.inj hitems
  obtain ⟨read, hread, h⟩ := Except.bind_eq_ok.mp h
  obtain rfl : RequestMethod.union [] read = methods := Except.ok.inj h
  rw [List.mapM_append] at hread
  obtain ⟨own, hown, hread⟩ := Except.bind_eq_ok.mp hread
  obtain ⟨more, -, hread⟩ := Except.bind_eq_ok.mp hread
  obtain rfl : own ++ more = read := Except.ok.inj hread
  have hsame : s.methods = own :=
    Except.ok.inj ((SettingsFields.mapM_readMethod_names s.methods).symm.trans hown)
  rw [RequestMethod.mem_union, List.mem_append, ← hsame]
  exact .inr (.inl hmem)

-- A mapping that was updated is read with the keys that were there first.
theorem keys_prefix_of_readConstraints {added : List (Value × Value)} {constraints : Constraints}
    (h : (Entries.update s.constraintValues added).mapM SettingsFields.readConstraint =
      .ok constraints) :
    Entries.keys s.constraints <+: Entries.keys (Entries.ofList constraints) := by
  have hkeys := SettingsFields.keys_of_mapM_readConstraint h
  have hdistinct : Entries.Distinct constraints := by
    rw [Entries.distinct_iff_keys, hkeys, ← Entries.distinct_iff_keys]
    exact Entries.distinct_update (distinct_constraintValues s) added
  rw [Entries.ofList_of_distinct hdistinct, hkeys, ← keys_constraintValues]
  exact Entries.keys_prefix_update _ _

theorem Extends.carries (h : Extends s fields) (hread : Reads fields t) : Carries s t where
  classNamespace := by
    intro hset
    rw [hread.classNamespace]
    rcases h.classNamespace with hsame | hnew
    · rwa [hsame]
    · exact hnew
  methods := by
    obtain ⟨added, hadded⟩ := h.methods
    exact mem_of_readMethods (hadded ▸ hread.methods)
  constraints := by
    obtain ⟨added, hadded⟩ := h.constraints
    obtain ⟨stated, constraints, hstated, hconstraints, hset⟩ := hread.constraints
    rw [hadded] at hstated
    obtain rfl : Entries.update s.constraintValues added = stated := Except.ok.inj hstated
    rw [hset]
    exact keys_prefix_of_readConstraints hconstraints
  parameters := by
    obtain ⟨added, hadded⟩ := h.parameters
    obtain ⟨stated, hstated, hset⟩ := hread.parameters
    rw [hadded] at hstated
    obtain rfl : Entries.update s.parameters added = stated := Except.ok.inj hstated
    rw [hset, Entries.ofList_of_distinct (Entries.distinct_update s.parameters_distinct added)]
    exact Entries.keys_prefix_update _ _
  middleware := by
    obtain ⟨added, hadded⟩ := h.middleware
    have hmiddleware := hread.middleware
    rw [hadded] at hmiddleware
    obtain hsame : s.middleware ++ added = t.middleware := Except.ok.inj hmiddleware
    rw [← hsame]
    exact Value.isPrefixOf_append _ _

theorem Grown.carries (h : Grown s t) : Carries s t := by
  cases h with
  | constraints added h =>
      exact Extends.carries { constraints := ⟨added, rfl⟩ } (ofFields_eq_ok.mp h)
  | parameters added h => exact Extends.carries { parameters := ⟨added, rfl⟩ } (ofFields_eq_ok.mp h)
  | methods added h => exact Extends.carries { methods := ⟨added, rfl⟩ } (ofFields_eq_ok.mp h)
  | middleware added h => exact Extends.carries { middleware := ⟨added, rfl⟩ } (ofFields_eq_ok.mp h)
  | classNamespace value hset h =>
      exact Extends.carries { classNamespace := .inr hset } (ofFields_eq_ok.mp h)

end Signpost.Settings
