import Signpost.Proofs.Settings.Inheritance

namespace Signpost.Settings

-- What it means for one of the settings to be set: there is a namespace, or the collection holds
-- something. A value that counts as nothing, such as an empty text, is a namespace all the same.
def Sets (s : Settings) : SettingsKey → Prop
  | .classNamespace => s.classNamespace ≠ .null
  | .methods => s.methods ≠ []
  | .constraints => s.constraints ≠ []
  | .parameters => s.parameters ≠ []
  | .middleware => s.middleware ≠ []

theorem isSet_iff (s : Settings) (key : SettingsKey) : s.isSet key = true ↔ s.Sets key := by
  cases key <;> simp [isSet, Sets]

theorem mem_handDown_iff {s : Settings} {name value : Value} :
    (name, value) ∈ s.handDown ↔
      ∃ key, s.Sets key ∧ name = .str key.name ∧ value = s.field key := by
  have hall : ∀ key, key ∈ SettingsKey.all := fun key => by cases key <;> simp [SettingsKey.all]
  simp only [handDown, List.mem_map, List.mem_filter, hall, true_and, isSet_iff, Prod.mk.injEq]
  refine exists_congr fun key => and_congr_right fun _ => ?_
  exact and_congr eq_comm eq_comm

theorem distinct_handDown (s : Settings) : Entries.Distinct s.handDown := by
  have hnames : SettingsKey.all.Pairwise fun key later =>
      (Value.str key.name == Value.str later.name) = false := by
    simp [SettingsKey.all, SettingsKey.name]
  exact List.pairwise_map.mpr (hnames.filter s.isSet)

theorem beq_self (s : Settings) : (s == s) = true :=
  List.all_eq_true.mpr fun key _ => Value.same_refl (s.field key)

-- Settings whose namespace may change cannot be looked up at all.
theorem sameHash_self (s : Settings) :
    s.sameHash s = if s.classNamespace.fixed then .ok true else .error .mistyped := by
  have hmembers : ∀ keys : List Value, sameMembers keys keys = true := by
    intro keys
    have hown : keys.all keys.contains = true := by
      refine List.all_eq_true.mpr fun key hmem => ?_
      exact List.contains_iff_exists_mem_beq.mpr ⟨key, hmem, Value.same_refl key⟩
    rw [sameMembers, hown]
    rfl
  unfold sameHash
  cases s.classNamespace.fixed <;> simp [hmembers]

-- Settings that are merged count by what is read of them.
theorem merge_congr {own : Settings} {source other : Inherited} (h : source.read = other.read) :
    own.merge source = own.merge other := by
  rw [merge, merge, h]

-- Handing settings down loses nothing.
theorem handDown_faithful (s : Settings) :
    (∀ name value, (name, value) ∈ s.handDown ↔
      ∃ key, s.Sets key ∧ name = .str key.name ∧ value = s.field key) ∧
    Entries.Distinct s.handDown ∧
    (∃ t, ofMapping (.mapping s.handDown) = .ok t ∧
      (t == s) = true ∧
      t.sameHash s = (if s.classNamespace.fixed then .ok true else .error .mistyped) ∧
      t.methods = s.methods ∧ t.middleware = s.middleware ∧
      Entries.keys t.constraints = Entries.keys s.constraints ∧
      Entries.keys t.parameters = Entries.keys s.parameters) ∧
    ∀ own : Settings,
      (own.merge (.settings s)).result = .ok (own.inherit s) ∧
      own.merge (.stated (.mapping s.handDown)) = own.merge (.settings s) ∧
      own.merge (.handedDown (.mapping s.handDown)) = own.merge (.settings s) := by
  have hread : ofMapping (.mapping s.handDown) = .ok s := ofMapping_handDown s
  refine ⟨fun name value => mem_handDown_iff, distinct_handDown s, ?_, fun own => ⟨?_, ?_, ?_⟩⟩
  · exact ⟨s, hread, beq_self s, sameHash_self s, rfl, rfl, rfl, rfl⟩
  · exact merge_result own (.settings s)
  · exact merge_congr hread
  · exact merge_congr hread

end Signpost.Settings
