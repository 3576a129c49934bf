import Signpost.Proofs.Settings.Nesting
import Signpost.Proofs.Value.Proper

namespace Signpost

-- An entry is found by what its key is, so nothing that can change is ever put into a mapping as a
-- key.
structure Settings.KeysFixed (settings : Settings) : Prop where
  constraints : ∀ entry ∈ settings.constraints, entry.1.fixed = true
  parameters : ∀ entry ∈ settings.parameters, entry.1.fixed = true

def Settings.Proper (settings : Settings) : Prop :=
  ∀ key, (settings.field key).proper = true

-- Fields that are read as proper settings. The methods are read as names of verbs, whatever they
-- are stated by.
structure SettingsFields.Proper (fields : SettingsFields) : Prop where
  classNamespace : fields.classNamespace.proper = true
  constraints : fields.constraints.proper = true
  parameters : fields.parameters.proper = true
  middleware : fields.middleware.proper = true

def Inherited.Proper : Inherited → Prop
  | .settings found => found.Proper
  | .stated value => value.proper = true
  | .handedDown value => value.proper = true

namespace Settings

open Value (Keyed)

variable {s own parent : Settings} {stated : SettingsFields}

theorem KeysFixed.keyed_constraints (h : s.KeysFixed) : Keyed s.constraints :=
  ⟨s.constraints_distinct, h.constraints⟩

theorem KeysFixed.keyed_constraintValues (h : s.KeysFixed) : Keyed s.constraintValues :=
  h.keyed_constraints.map Value.str

theorem KeysFixed.keyed_parameters (h : s.KeysFixed) : Keyed s.parameters :=
  ⟨s.parameters_distinct, h.parameters⟩

-- Settings are proper when what they hold besides texts is.
theorem proper_iff : s.Proper ↔ s.KeysFixed ∧ s.classNamespace.proper = true ∧
    (∀ entry ∈ s.parameters, entry.2.proper = true) ∧ Value.properAll s.middleware = true := by
  constructor
  · intro h
    obtain ⟨hconstraints, -⟩ := Value.proper_mapping_iff.mp (h .constraints)
    obtain ⟨hparameters, hvalues⟩ := Value.proper_mapping_iff.mp (h .parameters)
    refine ⟨⟨fun entry hmem => ?_, hparameters.fixed⟩, h .classNamespace, hvalues, ?_⟩
    · exact hconstraints.fixed (entry.1, .str entry.2) (List.mem_map_of_mem hmem)
    · simpa [field, fields, Value.proper] using h .middleware
  · rintro ⟨hkeys, hnamespace, hvalues, hmiddleware⟩ key
    cases key with
    | classNamespace => exact hnamespace
    | methods =>
        have hnames : Value.properAll s.methodValues = true := by
          refine Value.properAll_iff.mpr fun value hmem => ?_
          obtain ⟨method, -, rfl⟩ := List.mem_map.mp hmem
          rfl
        simpa [field, fields, Value.proper] using hnames
    | constraints =>
        refine Value.proper_mapping_iff.mpr ⟨hkeys.keyed_constraintValues, fun entry hmem => ?_⟩
        obtain ⟨constraint, -, rfl⟩ := List.mem_map.mp hmem
        rfl
    | parameters => exact Value.proper_mapping_iff.mpr ⟨hkeys.keyed_parameters, hvalues⟩
    | middleware => simpa [field, fields, Value.proper] using hmiddleware

theorem Proper.keysFixed (h : s.Proper) : s.KeysFixed := (proper_iff.mp h).1

theorem Proper.properAll_middleware (h : s.Proper) : Value.properAll s.middleware = true :=
  (proper_iff.mp h).2.2.2

theorem proper_default : ({} : Settings).Proper := by
  intro key
  cases key <;> rfl

theorem Proper.fields (h : s.Proper) : s.fields.Proper :=
  ⟨h .classNamespace, h .constraints, h .parameters, h .middleware⟩

theorem properAll_of_readMiddleware {value : Value} {middleware : List Value}
    (hproper : value.proper = true) (h : SettingsFields.readMiddleware value = .ok middleware) :
    Value.properAll middleware = true := by
  unfold SettingsFields.readMiddleware at h
  split at h
  · obtain rfl := Except.ok.inj h
    rfl
  · obtain rfl := Except.ok.inj h
    rfl
  · exact Value.proper_of_items? hproper (Value.items_eq_ok.mp h)

theorem proper_of_ofFields (h : ofFields stated = .ok s) (hproper : stated.Proper) : s.Proper := by
  have hread : Reads stated s := ofFields_eq_ok.mp h
  obtain ⟨entries, constraints, hentries, hconstraints, hset⟩ := hread.constraints
  obtain ⟨parameters, hparameters, hset'⟩ := hread.parameters
  obtain ⟨hkeyed, -⟩ :=
    Value.proper_mapping_iff.mp (Value.proper_of_entries hproper.constraints hentries)
  obtain ⟨hkeyed', hvalues⟩ :=
    Value.proper_mapping_iff.mp (Value.proper_of_entries hproper.parameters hparameters)
  have hvalue : s.constraintValues = entries :=
    constraintValues_of_mapM hconstraints hset hkeyed.distinct
  have hparameter : s.parameters = parameters := by
    rw [hset', Entries.ofList_of_distinct hkeyed'.distinct]
  refine proper_iff.mpr ⟨⟨fun entry hmem => ?_, ?_⟩, ?_, ?_, ?_⟩
  · exact hkeyed.fixed (entry.1, .str entry.2) (hvalue ▸ List.mem_map_of_mem hmem)
  · exact hparameter ▸ hkeyed'.fixed
  · exact hread.classNamespace ▸ hproper.classNamespace
  · exact hparameter ▸ hvalues
  · exact properAll_of_readMiddleware hproper.middleware hread.middleware

theorem proper_set (hproper : stated.Proper) {value : Value} (hvalue : value.proper = true)
    (key : SettingsKey) : (stated.set value key).Proper := by
  obtain ⟨hnamespace, hconstraints, hparameters, hmiddleware⟩ := hproper
  cases key with
  | classNamespace => exact ⟨hvalue, hconstraints, hparameters, hmiddleware⟩
  | methods => exact ⟨hnamespace, hconstraints, hparameters, hmiddleware⟩
  | constraints => exact ⟨hnamespace, hvalue, hparameters, hmiddleware⟩
  | parameters => exact ⟨hnamespace, hconstraints, hvalue, hmiddleware⟩
  | middleware => exact ⟨hnamespace, hconstraints, hparameters, hvalue⟩

theorem proper_foldl_setEntry {entries : List (Value × Value)} (hproper : stated.Proper)
    (hentries : ∀ entry ∈ entries, entry.2.proper = true) :
    (entries.foldl SettingsFields.setEntry stated).Proper := by
  induction entries generalizing stated with
  | nil => exact hproper
  | cons entry entries ih =>
      rw [List.forall_mem_cons] at hentries
      refine ih ?_ hentries.2
      unfold SettingsFields.setEntry
      split
      · exact proper_set hproper hentries.1 _
      · exact hproper

-- Only a mapping states settings, and it states them entry by entry.
theorem eq_foldl_of_ofMapping {value : Value} (h : SettingsFields.ofMapping value = .ok stated) :
    ∃ entries, value = .mapping entries ∧ stated = entries.foldl SettingsFields.setEntry {} := by
  obtain ⟨keys, -, h⟩ := Except.bind_eq_ok.mp h
  dsimp only at h
  cases hfixed : !keys.all Value.fixed with
  | true =>
      rw [hfixed] at h
      cases h
  | false =>
      cases hunknown : !(keys.filter fun key => (SettingsKey.ofValue? key).isNone).isEmpty with
      | true =>
          rw [hfixed, hunknown] at h
          cases h
      | false =>
          rw [hfixed, hunknown] at h
          cases value with
          | mapping entries => exact ⟨entries, rfl, (Except.ok.inj h).symm⟩
          | _ => cases h

theorem proper_of_ofMapping {value : Value} (hproper : value.proper = true)
    (h : ofMapping value = .ok s) : s.Proper := by
  obtain ⟨stated, hstated, h⟩ := Except.bind_eq_ok.mp h
  obtain ⟨entries, rfl, rfl⟩ := eq_foldl_of_ofMapping hstated
  exact proper_of_ofFields h
    (proper_foldl_setEntry ⟨rfl, rfl, rfl, rfl⟩ (Value.proper_mapping_iff.mp hproper).2)

-- What is inherited from a proper source is proper.
theorem proper_of_read {inherited : Inherited} (hproper : inherited.Proper)
    (h : inherited.read = .ok parent) : parent.Proper := by
  cases inherited with
  | settings found =>
      obtain rfl := Except.ok.inj h
      exact hproper
  | stated value =>
      cases value with
      | null =>
          obtain rfl := Except.ok.inj h
          exact proper_default
      | mapping entries => exact proper_of_ofMapping hproper h
      | _ => cases h
  | handedDown value => exact proper_of_ofMapping hproper h

theorem properAll_chain {inherited own : List Value} (hinherited : Value.properAll inherited = true)
    (hown : Value.properAll own = true) : Value.properAll (chain inherited own) = true := by
  rw [Value.properAll_iff] at hinherited hown ⊢
  unfold chain
  split
  · exact hown
  · exact List.forall_mem_append.mpr ⟨hinherited, hown⟩

theorem Proper.inherit (hown : own.Proper) (hparent : parent.Proper) :
    (own.inherit parent).Proper := by
  obtain ⟨hkeys, hnamespace, hvalues, hmiddleware⟩ := proper_iff.mp hown
  obtain ⟨hkeys', hnamespace', hvalues', hmiddleware'⟩ := proper_iff.mp hparent
  have hparameters : (Value.mapping (Entries.update parent.parameters own.parameters)).proper :=
    Value.proper_update (hparent .parameters) fun entry hmem =>
      ⟨hkeys.parameters entry hmem, hvalues entry hmem⟩
  obtain ⟨hkeyed, hupdated⟩ := Value.proper_mapping_iff.mp hparameters
  refine proper_iff.mpr ⟨⟨?_, ?_⟩, ?_, ?_, properAll_chain hmiddleware' hmiddleware⟩
  · rw [inherit_constraints]
    exact (hkeys'.keyed_constraints.update hkeys.constraints).fixed
  · rw [inherit_parameters]
    exact hkeyed.fixed
  · by_cases hnull : own.classNamespace = .null
    · rwa [inherit_classNamespace_of_null hnull]
    · rwa [inherit_classNamespace_of_ne hnull]
  · rw [inherit_parameters]
    exact hupdated

end Settings

end Signpost
