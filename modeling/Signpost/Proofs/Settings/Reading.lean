import Signpost.Proofs.Entries
import Signpost.Proofs.Outcome
import Signpost.Proofs.Value
import Signpost.Settings

namespace Signpost

namespace RequestMethod

theorem mem_add {methods : List RequestMethod} {method m : RequestMethod} :
    m ∈ add methods method ↔ m ∈ methods ∨ m = method := by
  unfold add
  split
  · next hmem => exact ⟨.inl, fun h => h.elim id fun he => he ▸ hmem⟩
  · simp

theorem mem_union {first second : List RequestMethod} {m : RequestMethod} :
    m ∈ union first second ↔ m ∈ first ∨ m ∈ second := by
  unfold union
  induction second generalizing first with
  | nil => simp
  | cons method second ih =>
      rw [List.foldl_cons, ih, mem_add, List.mem_cons, or_assoc]

theorem union_of_subset {first second : List RequestMethod} (h : ∀ m ∈ second, m ∈ first) :
    union first second = first := by
  unfold union
  induction second with
  | nil => rfl
  | cons method second ih =>
      have hmethod : add first method = first := by simp [add, h method (by simp)]
      rw [List.foldl_cons, hmethod]
      exact ih fun m hm => h m (List.mem_cons_of_mem _ hm)

theorem union_of_nodup {first second : List RequestMethod} (h : (first ++ second).Nodup) :
    union first second = first ++ second := by
  unfold union
  induction second generalizing first with
  | nil => simp
  | cons method second ih =>
      have hnew : method ∉ first := fun hmem =>
        (List.nodup_append.mp h).2.2 method hmem method (by simp) rfl
      have hadd : add first method = first ++ [method] := by simp [add, hnew]
      rw [List.foldl_cons, hadd, ih (by simpa using h), List.append_assoc]
      rfl

theorem ofText?_name (method : RequestMethod) : ofText? method.name = some method := by
  cases method <;> decide

end RequestMethod

namespace SettingsFields

-- What the readers make of the values that stand for methods and for constraints.
theorem mapM_readMethod_names (methods : List RequestMethod) :
    (methods.map fun method => Value.str method.name).mapM readMethod = .ok methods := by
  induction methods with
  | nil => rfl
  | cons method methods ih =>
      have hfirst : readMethod (.str method.name) = .ok method := by
        simp [readMethod, RequestMethod.ofText?_name]
      rw [List.map_cons, List.mapM_cons, hfirst, ih]
      rfl

theorem readConstraint_eq_ok_iff {entry : Value × Value} {constraint : Value × String} :
    readConstraint entry = .ok constraint ↔ entry = (constraint.1, .str constraint.2) := by
  obtain ⟨name, value⟩ := entry
  cases value <;> simp [readConstraint, Prod.ext_iff, eq_comm]

-- What is read of constraints is what was stated.
theorem mapM_readConstraint_eq_ok_iff {stated : List (Value × Value)} {constraints : Constraints} :
    stated.mapM readConstraint = .ok constraints ↔
      stated = constraints.map fun (name, pattern) => (name, .str pattern) := by
  have hread (entry : Value × Value) (constraint : Value × String) :
      readConstraint entry = .ok constraint ↔
        entry = (constraint.1, .str constraint.2) ∧ True := by
    rw [readConstraint_eq_ok_iff, and_true]
  simpa using Except.mapM_eq_ok_iff hread

theorem mapM_readConstraint_patterns (constraints : Constraints) :
    (constraints.map fun (name, pattern) => (name, Value.str pattern)).mapM readConstraint =
      .ok constraints :=
  mapM_readConstraint_eq_ok_iff.mpr rfl

theorem values_of_mapM_readConstraint {stated : List (Value × Value)} {constraints : Constraints}
    (h : stated.mapM readConstraint = .ok constraints) :
    (constraints.map fun (name, pattern) => (name, Value.str pattern)) = stated :=
  (mapM_readConstraint_eq_ok_iff.mp h).symm

-- A constraint is read under the name it is stated for.
theorem keys_of_mapM_readConstraint {stated : List (Value × Value)} {constraints : Constraints}
    (h : stated.mapM readConstraint = .ok constraints) :
    Entries.keys constraints = Entries.keys stated := by
  rw [← values_of_mapM_readConstraint h]
  simp [Entries.keys]

end SettingsFields

namespace Settings

@[ext] theorem ext {s t : Settings} (hnamespace : s.classNamespace = t.classNamespace)
    (hmethods : s.methods = t.methods) (hconstraints : s.constraints = t.constraints)
    (hparameters : s.parameters = t.parameters) (hmiddleware : s.middleware = t.middleware) :
    s = t := by
  cases s
  cases t
  simp_all

-- What a reading has of each setting.
structure Reads (fields : SettingsFields) (s : Settings) : Prop where
  classNamespace : s.classNamespace = fields.classNamespace
  methods : SettingsFields.readMethods fields.methods = .ok s.methods
  constraints : ∃ stated constraints, fields.constraints.entries = .ok stated ∧
    stated.mapM SettingsFields.readConstraint = .ok constraints ∧
    s.constraints = Entries.ofList constraints
  parameters : ∃ stated, fields.parameters.entries = .ok stated ∧
    s.parameters = Entries.ofList stated
  middleware : SettingsFields.readMiddleware fields.middleware = .ok s.middleware

-- Reading methods a second time leaves them as they are.
theorem union_of_readMethods {value : Value} {methods : List RequestMethod}
    (h : SettingsFields.readMethods value = .ok methods) :
    RequestMethod.union [] methods = methods := by
  obtain ⟨items, -, h⟩ := Except.bind_eq_ok.mp h
  obtain ⟨read, -, h⟩ := Except.bind_eq_ok.mp h
  obtain rfl : RequestMethod.union [] read = methods := Except.ok.inj h
  exact RequestMethod.union_of_nodup (by
    simpa using RequestMethod.nodup_union List.nodup_nil read)

theorem ofFields_eq_ok {fields : SettingsFields} {s : Settings} :
    ofFields fields = .ok s ↔ Reads fields s := by
  constructor
  · intro h
    obtain ⟨methods, hmethods, h⟩ := Except.bind_eq_ok.mp h
    obtain ⟨stated, hstated, h⟩ := Except.bind_eq_ok.mp h
    obtain ⟨parameters, hparameters, h⟩ := Except.bind_eq_ok.mp h
    obtain ⟨middleware, hmiddleware, h⟩ := Except.bind_eq_ok.mp h
    obtain ⟨constraints, hconstraints, h⟩ := Except.bind_eq_ok.mp h
    obtain rfl := Except.ok.inj h
    exact
      { classNamespace := rfl
        methods := hmethods.trans (congrArg Except.ok (union_of_readMethods hmethods).symm)
        constraints := ⟨stated, constraints, hstated, hconstraints, rfl⟩
        parameters := ⟨parameters, hparameters, rfl⟩
        middleware := hmiddleware }
  · intro h
    obtain ⟨stated, constraints, hstated, hconstraints, hread⟩ := h.constraints
    obtain ⟨parameters, hparameters, hset⟩ := h.parameters
    have hmethods : RequestMethod.union [] s.methods = s.methods := union_of_readMethods h.methods
    simp only [ofFields, h.methods, hstated, hparameters, h.middleware, hconstraints,
      Except.bind_ok]
    refine congrArg Except.ok (Settings.ext ?_ ?_ ?_ ?_ ?_)
    · exact h.classNamespace.symm
    · exact hmethods
    · exact hread.symm
    · exact hset.symm
    · rfl

theorem readMethods_names {methods : List RequestMethod} (h : methods.Nodup) :
    SettingsFields.readMethods (.tuple (methods.map fun method => .str method.name)) =
      .ok methods := by
  have hunion : RequestMethod.union [] methods = methods := RequestMethod.union_of_nodup h
  simp only [SettingsFields.readMethods, SettingsFields.methodList, Value.items, Value.items?,
    Except.bind_ok, SettingsFields.mapM_readMethod_names, hunion]
  rfl

theorem readMethods_methodValues (s : Settings) :
    SettingsFields.readMethods (.tuple s.methodValues) = .ok s.methods :=
  readMethods_names s.methods_nodup

-- Settings written out field by field are read as they were.
theorem reads_fields (s : Settings) : Reads s.fields s where
  classNamespace := rfl
  methods := readMethods_methodValues s
  constraints := ⟨s.constraintValues, s.constraints, rfl,
    SettingsFields.mapM_readConstraint_patterns s.constraints,
    (Entries.ofList_of_distinct s.constraints_distinct).symm⟩
  parameters := ⟨s.parameters, rfl, (Entries.ofList_of_distinct s.parameters_distinct).symm⟩
  middleware := rfl

theorem ofValue?_name (key : SettingsKey) : SettingsKey.ofValue? (.str key.name) = some key := by
  cases key <;> simp [SettingsKey.ofValue?, SettingsKey.all, SettingsKey.name]

theorem setEntry_name (fields : SettingsFields) (key : SettingsKey) (value : Value) :
    fields.setEntry (.str key.name, value) = fields.set value key := by
  simp [SettingsFields.setEntry, ofValue?_name]

-- A setting that is not set is at its default.
theorem field_of_not_isSet {s : Settings} {key : SettingsKey} (h : s.isSet key = false) :
    s.field key = Settings.field {} key := by
  cases key with
  | classNamespace =>
      have hnone : s.classNamespace = .null := by simpa [isSet] using h
      simp [field, fields, hnone]
  | methods =>
      have hnone : s.methods = [] := by simpa [isSet] using h
      simp [field, fields, methodValues, hnone]
  | constraints =>
      have hnone : s.constraints = [] := by simpa [isSet] using h
      simp [field, fields, constraintValues, hnone]
  | parameters =>
      have hnone : s.parameters = [] := by simpa [isSet] using h
      simp [field, fields, hnone]
  | middleware =>
      have hnone : s.middleware = [] := by simpa [isSet] using h
      simp [field, fields, hnone]

-- So it makes no difference that only what is set is handed down.
theorem foldl_setEntry_handDown (s : Settings) :
    s.handDown.foldl SettingsFields.setEntry {} = s.fields := by
  have hstep : ∀ (fields : SettingsFields) key, fields.set (Settings.field {} key) key = fields →
      (if s.isSet key = true then fields.setEntry (.str key.name, s.field key) else fields) =
        fields.set (s.field key) key := by
    intro fields key hdefault
    cases hset : s.isSet key with
    | true => rw [if_pos rfl, setEntry_name]
    | false => rw [if_neg (by simp), field_of_not_isSet hset, hdefault]
  simp only [handDown, List.foldl_map, List.foldl_filter, SettingsKey.all, List.foldl]
  rw [hstep _ .classNamespace rfl, hstep _ .methods rfl, hstep _ .constraints rfl,
    hstep _ .parameters rfl, hstep _ .middleware rfl]
  rfl

-- Settings that are handed down are read as they were.
theorem ofMapping_handDown (s : Settings) : ofMapping (.mapping s.handDown) = .ok s := by
  have hkeys : ∀ key ∈ Entries.keys s.handDown, ∃ name : SettingsKey, key = .str name.name := by
    intro key hmem
    simp only [Entries.keys, handDown, List.map_map, List.mem_map] at hmem
    obtain ⟨name, -, rfl⟩ := hmem
    exact ⟨name, rfl⟩
  have hfixed : (Entries.keys s.handDown).all Value.fixed = true := by
    refine List.all_eq_true.mpr fun key hmem => ?_
    obtain ⟨name, rfl⟩ := hkeys key hmem
    simp [Value.fixed]
  have hknown : (Entries.keys s.handDown).filter
      (fun key => (SettingsKey.ofValue? key).isNone) = [] := by
    refine List.filter_eq_nil_iff.mpr fun key hmem => ?_
    obtain ⟨name, rfl⟩ := hkeys key hmem
    simp [ofValue?_name]
  have hread : SettingsFields.ofMapping (.mapping s.handDown) = .ok s.fields := by
    simp only [SettingsFields.ofMapping, Value.items, Value.items?, Except.bind_ok, hfixed, hknown,
      foldl_setEntry_handDown]
    rfl
  rw [ofMapping, hread, Except.bind_ok]
  exact ofFields_eq_ok.mpr (reads_fields s)

end Settings

end Signpost
