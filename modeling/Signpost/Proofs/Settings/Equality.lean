import Signpost.Proofs.Settings.HandDown
import Signpost.Proofs.Settings.Proper

namespace Signpost

open Value (Keyed)

namespace Entries

variable {κ α β : Type} [BEq κ]

theorem map_set (f : α → β) (entries : List (κ × α)) (key : κ) (value : α) :
    (set entries key value).map (fun (name, held) => (name, f held)) =
      set (entries.map fun (name, held) => (name, f held)) key (f value) := by
  induction entries with
  | nil => rfl
  | cons entry entries ih =>
      rw [set, List.map_cons, set]
      split <;> simp [ih]

theorem map_update (f : α → β) (base more : List (κ × α)) :
    (update base more).map (fun (name, held) => (name, f held)) =
      update (base.map fun (name, held) => (name, f held))
        (more.map fun (name, held) => (name, f held)) := by
  unfold update
  induction more generalizing base with
  | nil => rfl
  | cons entry more ih => rw [List.foldl_cons, ih, map_set, List.map_cons, List.foldl_cons]

end Entries

-- Entries that are read alike: the same ones, or those of equal mappings.
def Value.Interchangeable (es fs : List (Value × Value)) : Prop :=
  es = fs ∨ (Keyed es ∧ Keyed fs ∧ (Value.mapping es == Value.mapping fs) = true)

-- Fields of which equal settings are read.
structure SettingsFields.Agree (f g : SettingsFields) : Prop where
  classNamespace : (f.classNamespace == g.classNamespace) = true
  methods : f.methods = g.methods
  constraints : Except.Rel Value.Interchangeable f.constraints.entries g.constraints.entries
  parameters : Except.Rel Value.Interchangeable f.parameters.entries g.parameters.entries
  middleware : Except.Rel (fun xs ys => Value.sameAll xs ys = true)
    (readMiddleware f.middleware) (readMiddleware g.middleware)

theorem SettingsFields.exists_mapM_readConstraint_iff {entries : List (Value × Value)} :
    (∃ constraints, entries.mapM readConstraint = .ok constraints) ↔
      ∀ entry ∈ entries, ∃ pattern, entry.2 = .str pattern := by
  rw [Except.exists_mapM_eq_ok_iff]
  refine forall₂_congr fun entry _ => ⟨?_, ?_⟩
  · rintro ⟨constraint, hread⟩
    rw [readConstraint_eq_ok_iff.mp hread]
    exact ⟨constraint.2, rfl⟩
  · rintro ⟨pattern, hpattern⟩
    refine ⟨(entry.1, pattern), readConstraint_eq_ok_iff.mpr ?_⟩
    rw [← hpattern]

namespace Settings

variable {s t own own' parent parent' : Settings} {f g : SettingsFields}

-- What equal settings have in common.
structure Agree (s t : Settings) : Prop where
  classNamespace : (s.classNamespace == t.classNamespace) = true
  methods : s.methods = t.methods
  constraints : (Value.mapping s.constraintValues == Value.mapping t.constraintValues) = true
  parameters : (Value.mapping s.parameters == Value.mapping t.parameters) = true
  middleware : Value.sameAll s.middleware t.middleware = true

theorem methods_eq_of_sameAll {methods methods' : List RequestMethod}
    (h : Value.sameAll (methods.map fun method => .str method.name)
      (methods'.map fun method => .str method.name) = true) : methods = methods' := by
  rw [Value.sameAll_iff, List.forall₂_map_left_iff, List.forall₂_map_right_iff] at h
  refine List.forall₂_eq_eq_eq ▸ h.imp fun method method' hname => ?_
  rw [Value.str_beq, RequestMethod.name_beq] at hname
  exact eq_of_beq hname

theorem agree_iff : (s == t) = true ↔ s.Agree t := by
  have hfields : (s == t) = true ↔ ∀ key, (s.field key == t.field key) = true := by
    refine List.all_eq_true.trans ⟨fun h key => h key ?_, fun h key _ => h key⟩
    cases key <;> decide
  rw [hfields]
  constructor
  · intro h
    obtain ⟨methods, hmethods, hsame⟩ := Value.tuple_same_iff.mp (h .methods)
    obtain rfl := Value.tuple.inj hmethods
    obtain ⟨middleware, hmiddleware, hsame'⟩ := Value.tuple_same_iff.mp (h .middleware)
    obtain rfl := Value.tuple.inj hmiddleware
    exact ⟨h .classNamespace, methods_eq_of_sameAll hsame, h .constraints, h .parameters, hsame'⟩
  · intro h key
    cases key with
    | classNamespace => exact h.classNamespace
    | methods =>
        rw [field, fields, field, fields, methodValues, h.methods]
        exact Value.same_refl _
    | constraints => exact h.constraints
    | parameters => exact h.parameters
    | middleware => exact Value.tuple_same_iff.mpr ⟨_, rfl, h.middleware⟩

theorem Agree.refl (s : Settings) : s.Agree s := agree_iff.mp (beq_self s)

-- The keys on one side cannot change where those on the other cannot.
theorem Agree.keysFixed (h : s.Agree t) (hkeys : s.KeysFixed) : t.KeysFixed where
  constraints := by
    intro entry hmem
    exact Value.fixed_of_mapping_beq h.constraints hkeys.keyed_constraintValues
      (entry.1, .str entry.2) (List.mem_map_of_mem hmem)
  parameters := Value.fixed_of_mapping_beq h.parameters hkeys.keyed_parameters

theorem eq_of_rel_map_str {first second : Option String}
    (h : Option.Rel (fun v w : Value => (v == w) = true) (first.map .str) (second.map .str)) :
    first = second := by
  cases first with
  | none =>
      cases second with
      | none => rfl
      | some t => cases h
  | some s =>
      cases second with
      | none => cases h
      | some t =>
          cases h with
          | some hequal => rw [Value.str.inj (Value.beq_str_iff.mp hequal)]

-- Equal settings have the same constraint, or none, under each name.
theorem Agree.get?_constraints (h : s.Agree t) (hkeys : s.KeysFixed) (name : String) :
    Entries.get? s.constraints (.str name) = Entries.get? t.constraints (.str name) := by
  have hkey : (Value.str name).fixed = true := rfl
  have hrel := Value.get?_rel h.constraints hkeys.keyed_constraintValues
    (h.keysFixed hkeys).keyed_constraintValues hkey
  have hs := Entries.get?_map Value.str s.constraints (.str name)
  have ht := Entries.get?_map Value.str t.constraints (.str name)
  rw [constraintValues, constraintValues, hs, ht] at hrel
  exact eq_of_rel_map_str hrel

theorem Agree.allows_eq (h : s.Agree t) (method : String) : s.allows method = t.allows method := by
  rw [allows, allows, h.methods]

-- Equal settings that can be looked up at all fall together.
theorem Agree.sameHash (h : s.Agree t) (hkeys : s.KeysFixed)
    (hfixed : s.classNamespace.fixed = true) : s.sameHash t = .ok true := by
  have hfixed' : t.classNamespace.fixed = true :=
    Value.fixed_of_same s.classNamespace t.classNamespace hfixed h.classNamespace
  have hkeyed : Keyed s.parameters := hkeys.keyed_parameters
  have hleft : (Entries.keys s.parameters).all (Entries.keys t.parameters).contains = true := by
    refine List.all_eq_true.mpr fun key hmem => ?_
    obtain ⟨entry, hentry, rfl⟩ := List.mem_map.mp hmem
    obtain ⟨other, hother, hsame⟩ := Value.exists_partner h.parameters hentry
    exact List.contains_iff_exists_mem_beq.mpr
      ⟨other.1, List.mem_map_of_mem hother, hsame.1⟩
  have hright : (Entries.keys t.parameters).all (Entries.keys s.parameters).contains = true := by
    refine List.all_eq_true.mpr fun key hmem => ?_
    obtain ⟨other, hother, rfl⟩ := List.mem_map.mp hmem
    obtain ⟨entry, hentry, hsame⟩ := Value.exists_partner_left h.parameters hkeyed hother
    exact List.contains_iff_exists_mem_beq.mpr ⟨entry.1, List.mem_map_of_mem hentry,
      Value.beq_symm_of_fixed (hkeyed.fixed entry hentry) hsame.1⟩
  rw [Settings.sameHash, hfixed, hfixed', sameMembers, hleft, hright, h.classNamespace, h.methods,
    h.constraints]
  simp

-- Equal chains in front of equal chains.
theorem sameAll_chain {inherited inherited' first first' : List Value}
    (hinherited : Value.properAll inherited = true) (hfirst : Value.properAll first = true)
    (h : Value.sameAll inherited inherited' = true) (h' : Value.sameAll first first' = true) :
    Value.sameAll (chain inherited first) (chain inherited' first') = true := by
  rw [chain, chain, Value.isPrefixOf_congr hinherited hfirst h h']
  split
  · exact h'
  · exact Value.sameAll_append h h'

theorem inherit_constraintValues (own parent : Settings) :
    (own.inherit parent).constraintValues =
      Entries.update parent.constraintValues own.constraintValues := by
  rw [constraintValues, inherit_constraints, Entries.map_update]
  rfl

theorem Agree.inherit (hown : own.Proper) (hparent : parent.Proper) (h : own.Agree own')
    (h' : parent.Agree parent') : (own.inherit parent).Agree (own'.inherit parent') where
  classNamespace := by
    show ((if own.classNamespace != .null then own.classNamespace else parent.classNamespace) ==
      if own'.classNamespace != .null then own'.classNamespace else parent'.classNamespace) = true
    rw [Value.bne_null_congr h.classNamespace]
    split
    · exact h.classNamespace
    · exact h'.classNamespace
  methods := by rw [inherit_methods, inherit_methods, h.methods, h'.methods]
  constraints := by
    have hkeys := hown.keysFixed
    have hkeys' := hparent.keysFixed
    rw [inherit_constraintValues, inherit_constraintValues]
    exact Value.mapping_update_beq hkeys'.keyed_constraintValues
      (h'.keysFixed hkeys').keyed_constraintValues hkeys.keyed_constraintValues
      (h.keysFixed hkeys).keyed_constraintValues h'.constraints h.constraints
  parameters := by
    have hkeys := hown.keysFixed
    have hkeys' := hparent.keysFixed
    rw [inherit_parameters, inherit_parameters]
    exact Value.mapping_update_beq hkeys'.keyed_parameters
      (h'.keysFixed hkeys').keyed_parameters hkeys.keyed_parameters
      (h.keysFixed hkeys).keyed_parameters h'.parameters h.parameters
  middleware :=
    sameAll_chain hparent.properAll_middleware hown.properAll_middleware h'.middleware h.middleware

-- Constraints are texts, so where the values on one side are, those on the other are the same.
theorem mapM_readConstraint_rel {es fs : List (Value × Value)} (h : Value.Interchangeable es fs) :
    Except.Rel
      (fun cs ds : Constraints =>
        (Value.mapping ((Entries.ofList cs).map fun (name, pattern) => (name, .str pattern)) ==
          Value.mapping ((Entries.ofList ds).map fun (name, pattern) => (name, .str pattern))) =
          true)
      (es.mapM SettingsFields.readConstraint) (fs.mapM SettingsFields.readConstraint) := by
  obtain rfl | ⟨hes, hfs, h⟩ := h
  · exact .refl (fun _ => Value.same_refl _) _
  have hvalues : ∀ {entries : List (Value × Value)} {constraints : Constraints}, Keyed entries →
      entries.mapM SettingsFields.readConstraint = .ok constraints →
      ((Entries.ofList constraints).map fun (name, pattern) => (name, Value.str pattern)) =
        entries := by
    intro entries constraints hkeyed hread
    have hdistinct : Entries.Distinct constraints := by
      rw [Entries.distinct_iff_keys, SettingsFields.keys_of_mapM_readConstraint hread]
      exact Entries.distinct_iff_keys.mp hkeyed.distinct
    rw [Entries.ofList_of_distinct hdistinct]
    exact SettingsFields.values_of_mapM_readConstraint hread
  have hboth : (∃ cs, es.mapM SettingsFields.readConstraint = .ok cs) ↔
      ∃ ds, fs.mapM SettingsFields.readConstraint = .ok ds := by
    rw [SettingsFields.exists_mapM_readConstraint_iff,
      SettingsFields.exists_mapM_readConstraint_iff]
    constructor
    · intro htexts other hother
      obtain ⟨entry, hentry, hsame⟩ := Value.exists_partner_left h hes hother
      obtain ⟨pattern, hpattern⟩ := htexts entry hentry
      exact ⟨pattern, Value.str_eq_iff.mp (hpattern ▸ hsame.2)⟩
    · intro htexts entry hentry
      obtain ⟨other, hother, hsame⟩ := Value.exists_partner h hentry
      obtain ⟨pattern, hpattern⟩ := htexts other hother
      exact ⟨pattern, Value.beq_str_iff.mp (hpattern ▸ hsame.2)⟩
  refine .of_ok (fun cs hcs => ?_) fun ds hds => hboth.mpr ⟨ds, hds⟩
  obtain ⟨ds, hds⟩ := hboth.mp ⟨cs, hcs⟩
  refine ⟨ds, hds, ?_⟩
  rw [hvalues hes hcs, hvalues hfs hds]
  exact h

-- What is read of fields that agree is equal.
theorem ofFields_rel (h : f.Agree g) :
    Except.Rel (fun s t => s.Agree t) (ofFields f) (ofFields g) := by
  rw [ofFields, ofFields, h.methods]
  refine (Except.Rel.refl (R := Eq) (fun _ => rfl) _).bind ?_
  rintro methods _ - rfl
  refine h.constraints.bind fun es fs _ hentries => ?_
  refine h.parameters.bind fun ps qs _ hparameters => ?_
  refine h.middleware.bind fun xs ys _ hmiddleware => ?_
  refine (mapM_readConstraint_rel hentries).bind fun cs ds _ hconstraints => ?_
  refine .ok ⟨h.classNamespace, rfl, hconstraints, ?_, hmiddleware⟩
  obtain rfl | ⟨hps, hqs, hsame⟩ := hparameters
  · exact Value.same_refl _
  · show (Value.mapping (Entries.ofList ps) == Value.mapping (Entries.ofList qs)) = true
    rw [Entries.ofList_of_distinct hps.distinct, Entries.ofList_of_distinct hqs.distinct]
    exact hsame

theorem Agree.fields (h : s.Agree t) (hkeys : s.KeysFixed) :
    SettingsFields.Agree s.fields t.fields where
  classNamespace := h.classNamespace
  methods := by rw [Settings.fields, Settings.fields, methodValues, methodValues, h.methods]
  constraints := .ok (.inr ⟨hkeys.keyed_constraintValues,
    (h.keysFixed hkeys).keyed_constraintValues, h.constraints⟩)
  parameters := .ok (.inr ⟨hkeys.keyed_parameters, (h.keysFixed hkeys).keyed_parameters,
    h.parameters⟩)
  middleware := .ok h.middleware

theorem agree_set (h : f.Agree g) (value : Value) (key : SettingsKey) :
    (f.set value key).Agree (g.set value key) := by
  obtain ⟨hnamespace, hmethods, hconstraints, hparameters, hmiddleware⟩ := h
  have hentries : Except.Rel Value.Interchangeable value.entries value.entries :=
    .refl (fun _ => .inl rfl) _
  cases key with
  | classNamespace =>
      exact ⟨Value.same_refl value, hmethods, hconstraints, hparameters, hmiddleware⟩
  | methods => exact ⟨hnamespace, rfl, hconstraints, hparameters, hmiddleware⟩
  | constraints => exact ⟨hnamespace, hmethods, hentries, hparameters, hmiddleware⟩
  | parameters => exact ⟨hnamespace, hmethods, hconstraints, hentries, hmiddleware⟩
  | middleware =>
      exact ⟨hnamespace, hmethods, hconstraints, hparameters, .refl Value.sameAll_refl _⟩

theorem agree_foldl_setEntry (h : f.Agree g) (changes : List (Value × Value)) :
    (changes.foldl SettingsFields.setEntry f).Agree (changes.foldl SettingsFields.setEntry g) := by
  induction changes generalizing f g with
  | nil => exact h
  | cons change changes ih =>
      refine ih ?_
      unfold SettingsFields.setEntry
      split
      · exact agree_set h _ _
      · exact h

-- Equal settings in which the same is replaced.
theorem Agree.replace (h : s.Agree t) (hkeys : s.KeysFixed) (changes : List (Value × Value)) :
    Except.Rel (fun s t => s.Agree t) (s.replace changes) (t.replace changes) := by
  rw [Settings.replace, Settings.replace, SettingsFields.update, SettingsFields.update]
  split
  · exact ofFields_rel (agree_foldl_setEntry (h.fields hkeys) changes)
  · exact .error _ _

-- Equal settings that inherit from the same source.
theorem Agree.merge (h : own.Agree own') (hown : own.Proper) {inherited : Inherited}
    (hinherited : inherited.Proper) :
    Except.Rel (fun s t => s.Agree t) (own.merge inherited).result
      (own'.merge inherited).result := by
  rw [merge_result, merge_result]
  cases hread : inherited.read with
  | error error => exact .error error error
  | ok parent => exact .ok (Agree.inherit hown (proper_of_read hinherited hread) h (.refl parent))

end Settings

end Signpost
