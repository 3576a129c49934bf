import Signpost.Proofs.Outcome
import Signpost.Proofs.Value.Mapping
import Signpost.Value.Contents

namespace Signpost.Value

mutual

def proper : Value → Bool
  | list items => properAll items
  | tuple items => properAll items
  | mapping entries => properEntries entries
  | _ => true

def properAll : List Value → Bool
  | [] => true
  | x :: xs => proper x && properAll xs

def properEntries : List (Value × Value) → Bool
  | [] => true
  | entry :: entries =>
      properEntry entry && entries.all (fun later => !(entry.1 == later.1)) &&
        properEntries entries

def properEntry : Value × Value → Bool
  | (key, value) => key.fixed && value.proper

end

variable {a b : Value} {xs ys : List Value} {es fs : List (Value × Value)}

theorem properAll_iff : properAll xs = true ↔ ∀ x ∈ xs, x.proper = true := by
  induction xs with
  | nil => simp [properAll]
  | cons x xs ih => simp [properAll, ih]

theorem properEntries_iff :
    properEntries es = true ↔ Keyed es ∧ ∀ entry ∈ es, entry.2.proper = true := by
  induction es with
  | nil => exact ⟨fun _ => ⟨.nil, fun _ hmem => nomatch hmem⟩, fun _ => rfl⟩
  | cons entry es ih =>
      obtain ⟨key, value⟩ := entry
      simp only [properEntries, properEntry, Bool.and_eq_true, ih, List.all_eq_true,
        Bool.not_eq_true', List.forall_mem_cons]
      constructor
      · rintro ⟨⟨⟨hkey, hvalue⟩, hnew⟩, hkeyed, hvalues⟩
        refine ⟨⟨List.pairwise_cons.mpr ⟨hnew, hkeyed.distinct⟩, ?_⟩, hvalue, hvalues⟩
        exact List.forall_mem_cons.mpr ⟨hkey, hkeyed.fixed⟩
      · rintro ⟨⟨hdistinct, hfixed⟩, hvalue, hvalues⟩
        obtain ⟨hnew, hdistinct⟩ := List.pairwise_cons.mp hdistinct
        rw [List.forall_mem_cons] at hfixed
        exact ⟨⟨⟨hfixed.1, hvalue⟩, hnew⟩, ⟨hdistinct, hfixed.2⟩, hvalues⟩

theorem proper_mapping_iff :
    (mapping es).proper = true ↔ Keyed es ∧ ∀ entry ∈ es, entry.2.proper = true := by
  rw [proper]
  exact properEntries_iff

mutual

theorem proper_of_fixed (a : Value) (h : a.fixed = true) : a.proper = true := by
  cases a with
  | list => simp [fixed] at h
  | mapping => simp [fixed] at h
  | tuple xs => simpa [proper] using properAll_of_fixedAll xs (by simpa [fixed] using h)
  | _ => rfl

theorem properAll_of_fixedAll (xs : List Value) (h : fixedAll xs = true) :
    properAll xs = true := by
  cases xs with
  | nil => rfl
  | cons x xs =>
      simp only [fixedAll, Bool.and_eq_true] at h
      simp [properAll, proper_of_fixed x h.1, properAll_of_fixedAll xs h.2]

end

mutual

theorem same_symm (a : Value) {b : Value} (hproper : a.proper = true) (h : same a b = true) :
    same b a = true := by
  cases a with
  | list xs =>
      obtain ⟨ys, rfl, hxs⟩ := list_same_iff.mp h
      exact list_same_iff.mpr ⟨xs, rfl, sameAll_symm xs (by simpa [proper] using hproper) hxs⟩
  | tuple xs =>
      obtain ⟨ys, rfl, hxs⟩ := tuple_same_iff.mp h
      exact tuple_same_iff.mpr ⟨xs, rfl, sameAll_symm xs (by simpa [proper] using hproper) hxs⟩
  | mapping es =>
      obtain ⟨fs, rfl, hlength, -⟩ := mapping_same_iff.mp h
      obtain ⟨hkeyed, hvalues⟩ := proper_mapping_iff.mp hproper
      refine mapping_same_iff.mpr
        ⟨es, rfl, hlength.symm, sameEntries_iff.mpr fun other hother => ?_⟩
      obtain ⟨entry, hentry, hkey, hvalue⟩ := exists_partner_left h hkeyed hother
      have hback : same other.2 entry.2 = true :=
        sameEntries_symm es entry hentry (hvalues entry hentry) hvalue
      exact sameEntry_iff.mpr ⟨entry, hentry, beq_symm_of_fixed (hkeyed.fixed entry hentry) hkey,
        hback⟩
  | _ => exact beq_symm_of_fixed rfl h

theorem sameAll_symm (xs : List Value) {ys : List Value} (hproper : properAll xs = true)
    (h : sameAll xs ys = true) : sameAll ys xs = true := by
  match xs, ys with
  | [], [] => exact h
  | [], _ :: _ => simp [sameAll] at h
  | _ :: _, [] => simp [sameAll] at h
  | x :: xs, y :: ys =>
      simp only [properAll, sameAll, Bool.and_eq_true] at hproper h ⊢
      exact ⟨same_symm x hproper.1 h.1, sameAll_symm xs hproper.2 h.2⟩

theorem sameEntries_symm (entries : List (Value × Value)) :
    ∀ entry ∈ entries, entry.2.proper = true →
      ∀ {b}, same entry.2 b = true → same b entry.2 = true := by
  match entries with
  | [] => simp
  | (key, value) :: entries =>
      intro other hmem
      rcases List.mem_cons.mp hmem with rfl | hrest
      · exact fun hproper => same_symm value hproper
      · exact sameEntries_symm entries other hrest

end

-- What a list begins with is what an equal list begins with.
theorem isPrefixOf_of_sameAll {xs' ys' : List Value} (hxs : sameAll xs' xs = true)
    (hys : sameAll ys ys' = true) (h : xs.isPrefixOf ys = true) : xs'.isPrefixOf ys' = true := by
  induction xs generalizing xs' ys ys' with
  | nil =>
      cases xs' with
      | nil => rfl
      | cons => simp [sameAll] at hxs
  | cons x xs ih =>
      cases xs' with
      | nil => rfl
      | cons x' xs' =>
          cases ys with
          | nil => simp [List.isPrefixOf] at h
          | cons y ys =>
              cases ys' with
              | nil => simp [sameAll] at hys
              | cons y' ys' =>
                  simp only [List.isPrefixOf, sameAll, Bool.and_eq_true] at h hxs hys ⊢
                  exact ⟨beq_trans hxs.1 (beq_trans h.1 hys.1), ih hxs.2 hys.2 h.2⟩

theorem isPrefixOf_congr {xs' ys' : List Value} (hxsproper : properAll xs = true)
    (hysproper : properAll ys = true) (hxs : sameAll xs xs' = true) (hys : sameAll ys ys' = true) :
    xs.isPrefixOf ys = xs'.isPrefixOf ys' := by
  apply Bool.eq_iff_iff.mpr
  constructor
  · exact isPrefixOf_of_sameAll (sameAll_symm xs hxsproper hxs) hys
  · exact isPrefixOf_of_sameAll hxs (sameAll_symm ys hysproper hys)

theorem sameAll_append {xs' ys' : List Value} (hxs : sameAll xs xs' = true)
    (hys : sameAll ys ys' = true) : sameAll (xs ++ ys) (xs' ++ ys') = true := by
  rw [sameAll_iff] at hxs hys ⊢
  exact List.rel_append hxs hys

theorem items_eq_ok {value : Value} : value.items = .ok xs ↔ value.items? = some xs := by
  unfold items
  cases value.items? <;> simp

-- What is held by a proper value is proper.
theorem proper_of_items? {value : Value} (hproper : value.proper = true)
    (h : value.items? = some xs) : properAll xs = true := by
  cases value with
  | str s =>
      obtain rfl := Option.some.inj h
      refine properAll_iff.mpr fun x hmem => ?_
      obtain ⟨c, -, rfl⟩ := List.mem_map.mp hmem
      rfl
  | list items =>
      obtain rfl := Option.some.inj h
      simpa [proper] using hproper
  | tuple items =>
      obtain rfl := Option.some.inj h
      simpa [proper] using hproper
  | mapping entries =>
      obtain rfl := Option.some.inj h
      refine properAll_iff.mpr fun x hmem => ?_
      obtain ⟨entry, hentry, rfl⟩ := List.mem_map.mp hmem
      exact proper_of_fixed entry.1 ((proper_mapping_iff.mp hproper).1.fixed entry hentry)
  | _ => simp [items?] at h

-- Entries that are set into a proper mapping leave it proper.
theorem mem_set {key value : Value} {entry : Value × Value}
    (h : entry ∈ Entries.set es key value) : entry.2 = value ∨ entry ∈ es := by
  induction es with
  | nil => exact .inl (List.mem_singleton.mp h ▸ rfl)
  | cons first es ih =>
      unfold Entries.set at h
      split at h
      · rcases List.mem_cons.mp h with rfl | hmem
        · exact .inl rfl
        · exact .inr (List.mem_cons_of_mem _ hmem)
      · rcases List.mem_cons.mp h with rfl | hmem
        · exact .inr List.mem_cons_self
        · exact (ih hmem).imp_right (List.mem_cons_of_mem _)

theorem proper_update (hbase : (mapping es).proper = true)
    (hmore : ∀ entry ∈ fs, entry.1.fixed = true ∧ entry.2.proper = true) :
    (mapping (Entries.update es fs)).proper = true := by
  unfold Entries.update
  induction fs generalizing es with
  | nil => exact hbase
  | cons entry fs ih =>
      rw [List.forall_mem_cons] at hmore
      obtain ⟨hkeyed, hvalues⟩ := proper_mapping_iff.mp hbase
      refine ih
        (proper_mapping_iff.mpr ⟨hkeyed.set hmore.1.1 entry.2, fun other hmem => ?_⟩) hmore.2
      rcases mem_set hmem with hvalue | hmem
      · rw [hvalue]
        exact hmore.1.2
      · exact hvalues other hmem

theorem proper_of_entry {index : Nat} {item : Value} {entry : Value × Value}
    (hproper : item.proper = true) (h : Value.entry index item = .ok entry) :
    entry.1.fixed = true ∧ entry.2.proper = true := by
  unfold Value.entry at h
  split at h
  next key value hitems =>
    split at h
    next hkey =>
      obtain rfl := Except.ok.inj h
      exact ⟨hkey, properAll_iff.mp (proper_of_items? hproper hitems) value (by simp)⟩
    next => cases h
  next => cases h
  next => cases h

theorem proper_of_entriesFrom {index : Nat} (hproper : properAll xs = true)
    (h : entriesFrom index xs = .ok es) :
    ∀ entry ∈ es, entry.1.fixed = true ∧ entry.2.proper = true := by
  induction xs generalizing index es with
  | nil =>
      obtain rfl := Except.ok.inj h
      simp
  | cons x xs ih =>
      rw [properAll, Bool.and_eq_true] at hproper
      obtain ⟨first, hfirst, h⟩ := Except.bind_eq_ok.mp h
      obtain ⟨rest, hrest, h⟩ := Except.bind_eq_ok.mp h
      obtain rfl := Except.ok.inj h
      exact List.forall_mem_cons.mpr ⟨proper_of_entry hproper.1 hfirst, ih hproper.2 hrest⟩

theorem proper_of_entries {value : Value} (hproper : value.proper = true)
    (h : value.entries = .ok es) : (mapping es).proper = true := by
  unfold entries at h
  split at h
  next entries =>
    obtain rfl := Except.ok.inj h
    exact hproper
  next =>
    obtain ⟨held, hheld, h⟩ := Except.bind_eq_ok.mp h
    obtain ⟨found, hfound, h⟩ := Except.bind_eq_ok.mp h
    obtain rfl := Except.ok.inj h
    have hitems? : value.items? = some held := items_eq_ok.mp hheld
    exact proper_update (by rfl) (proper_of_entriesFrom (proper_of_items? hproper hitems?) hfound)

end Signpost.Value
