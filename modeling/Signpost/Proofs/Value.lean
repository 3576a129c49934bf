import Signpost.Proofs.Entries
import Signpost.Value

namespace Signpost.Value

variable {a b c : Value} {xs : List Value} {es fs : List (Value × Value)}

theorem sameEntries_iff : sameEntries es fs = true ↔ ∀ entry ∈ es, sameEntry entry fs = true := by
  induction es with
  | nil => simp [sameEntries]
  | cons entry es ih => simp [sameEntries, ih]

theorem sameEntry_iff {entry : Value × Value} : sameEntry entry es = true ↔
    ∃ other ∈ es, same entry.1 other.1 = true ∧ same entry.2 other.2 = true := by
  obtain ⟨key, value⟩ := entry
  simp [sameEntry]

mutual

theorem same_refl (v : Value) : same v v = true := by
  cases v with
  | list items => simpa [same] using sameAll_refl items
  | tuple items => simpa [same] using sameAll_refl items
  | mapping entries =>
      have hown := sameEntries_self entries
      simp only [same, beq_self_eq_true, Bool.true_and]
      exact sameEntries_iff.mpr fun entry hmem => sameEntry_iff.mpr ⟨entry, hmem, hown entry hmem⟩
  | _ => simp [same, sameLeaf, number?]

theorem sameAll_refl (items : List Value) : sameAll items items = true := by
  cases items with
  | nil => simp [sameAll]
  | cons item items => simp [sameAll, same_refl item, sameAll_refl items]

theorem sameEntries_self (entries : List (Value × Value)) :
    ∀ entry ∈ entries, same entry.1 entry.1 = true ∧ same entry.2 entry.2 = true := by
  cases entries with
  | nil => simp
  | cons entry entries =>
      obtain ⟨key, value⟩ := entry
      intro other hmem
      rcases List.mem_cons.mp hmem with rfl | hrest
      · exact ⟨same_refl key, same_refl value⟩
      · exact sameEntries_self entries other hrest

end

-- What a value with parts is the same as.
theorem list_same_iff : same (list xs) b = true ↔ ∃ ys, b = list ys ∧ sameAll xs ys = true := by
  cases b <;> simp [same, sameLeaf, number?]

theorem tuple_same_iff : same (tuple xs) b = true ↔ ∃ ys, b = tuple ys ∧ sameAll xs ys = true := by
  cases b <;> simp [same, sameLeaf, number?]

theorem mapping_same_iff : same (mapping es) b = true ↔
    ∃ fs, b = mapping fs ∧ es.length = fs.length ∧ sameEntries es fs = true := by
  cases b <;> simp [same, sameLeaf, number?]

theorem number_same_iff {n : Number.Magnitude} (h : a.number? = some n) :
    same a b = true ↔ b.number? = some n := by
  cases a <;> cases b <;> simp_all only [same, sameLeaf, number?, Option.some.injEq,
    beq_iff_eq, reduceCtorEq, Bool.false_eq_true] <;> exact eq_comm

theorem number_same_trans {n : Number.Magnitude} (hnumber : a.number? = some n)
    (h : same a b = true) (h' : same b c = true) : same a c = true := by
  have hb : b.number? = some n := (number_same_iff hnumber).mp h
  have hc : c.number? = some n := (number_same_iff hb).mp h'
  exact (number_same_iff hnumber).mpr hc

mutual

theorem same_trans (a : Value) {b c : Value} (h : same a b = true) (h' : same b c = true) :
    same a c = true := by
  cases a with
  | list xs =>
      obtain ⟨ys, rfl, hxs⟩ := list_same_iff.mp h
      obtain ⟨zs, rfl, hys⟩ := list_same_iff.mp h'
      exact list_same_iff.mpr ⟨zs, rfl, sameAll_trans xs hxs hys⟩
  | tuple xs =>
      obtain ⟨ys, rfl, hxs⟩ := tuple_same_iff.mp h
      obtain ⟨zs, rfl, hys⟩ := tuple_same_iff.mp h'
      exact tuple_same_iff.mpr ⟨zs, rfl, sameAll_trans xs hxs hys⟩
  | mapping es =>
      obtain ⟨fs, rfl, hlen, hes⟩ := mapping_same_iff.mp h
      obtain ⟨gs, rfl, hlen', hfs⟩ := mapping_same_iff.mp h'
      refine mapping_same_iff.mpr ⟨gs, rfl, hlen.trans hlen', ?_⟩
      refine sameEntries_iff.mpr fun entry hmem => ?_
      obtain ⟨other, hother, hkey, hvalue⟩ := sameEntry_iff.mp (sameEntries_iff.mp hes entry hmem)
      obtain ⟨third, hthird, hkey', hvalue'⟩ :=
        sameEntry_iff.mp (sameEntries_iff.mp hfs other hother)
      have htrans := sameEntries_trans es entry hmem
      exact sameEntry_iff.mpr ⟨third, hthird, htrans.1 hkey hkey', htrans.2 hvalue hvalue'⟩
  | bool _ => exact number_same_trans rfl h h'
  | int _ => exact number_same_trans rfl h h'
  | float _ => exact number_same_trans rfl h h'
  | _ =>
      -- Any other value is equal to itself only.
      cases b <;> simp_all [same, sameLeaf, number?]

theorem sameAll_trans (xs : List Value) {ys zs : List Value} (h : sameAll xs ys = true)
    (h' : sameAll ys zs = true) : sameAll xs zs = true := by
  match xs, ys, zs with
  | [], [], _ => exact h'
  | [], _ :: _, _ => simp [sameAll] at h
  | _ :: _, [], _ => simp [sameAll] at h
  | _ :: _, _ :: _, [] => simp [sameAll] at h'
  | x :: xs, y :: ys, z :: zs =>
      simp only [sameAll, Bool.and_eq_true] at h h' ⊢
      exact ⟨same_trans x h.1 h'.1, sameAll_trans xs h.2 h'.2⟩

theorem sameEntries_trans (entries : List (Value × Value)) :
    ∀ entry ∈ entries,
      (∀ {b c}, same entry.1 b = true → same b c = true → same entry.1 c = true) ∧
      (∀ {b c}, same entry.2 b = true → same b c = true → same entry.2 c = true) := by
  match entries with
  | [] => simp
  | (key, value) :: entries =>
      intro other hmem
      rcases List.mem_cons.mp hmem with rfl | hrest
      · exact ⟨same_trans key, same_trans value⟩
      · exact sameEntries_trans entries other hrest

end

theorem sameLeaf_comm (a b : Value) : sameLeaf a b = sameLeaf b a := by
  have hnumber : ∀ m n : Number.Magnitude, (m == n) = (n == m) := fun m n => Bool.beq_comm
  cases a <;> cases b <;> first | rfl | exact hnumber _ _ | exact Bool.beq_comm

mutual

-- A value that may be a key is equal to another one both ways round.
theorem same_comm_of_fixed (a b : Value) (h : a.fixed = true) : same a b = same b a := by
  cases a with
  | list => simp [fixed] at h
  | mapping => simp [fixed] at h
  | tuple xs =>
      cases b with
      | tuple ys => simpa [same] using sameAll_comm_of_fixed xs ys (by simpa [fixed] using h)
      | _ => simp [same, sameLeaf, number?]
  | _ => cases b <;> simp only [same] <;> exact sameLeaf_comm _ _

theorem sameAll_comm_of_fixed (xs ys : List Value) (h : fixedAll xs = true) :
    sameAll xs ys = sameAll ys xs := by
  match xs, ys with
  | [], [] => rfl
  | [], _ :: _ => simp [sameAll]
  | _ :: _, [] => simp [sameAll]
  | x :: xs, y :: ys =>
      simp only [fixedAll, Bool.and_eq_true] at h
      simp only [sameAll, same_comm_of_fixed x y h.1, sameAll_comm_of_fixed xs ys h.2]

end

mutual

-- What equals a value that cannot change cannot change either.
theorem fixed_of_same (a b : Value) (h : a.fixed = true) (hsame : same a b = true) :
    b.fixed = true := by
  cases a with
  | list => simp [fixed] at h
  | mapping => simp [fixed] at h
  | tuple xs =>
      obtain ⟨ys, rfl, hxs⟩ := tuple_same_iff.mp hsame
      simpa [fixed] using fixedAll_of_sameAll xs ys (by simpa [fixed] using h) hxs
  | _ => cases b <;> simp_all [same, sameLeaf, number?, fixed]

theorem fixedAll_of_sameAll (xs ys : List Value) (h : fixedAll xs = true)
    (hsame : sameAll xs ys = true) : fixedAll ys = true := by
  match xs, ys with
  | _, [] => rfl
  | [], _ :: _ => simp [sameAll] at hsame
  | x :: xs, y :: ys =>
      simp only [fixedAll, sameAll, Bool.and_eq_true] at h hsame ⊢
      exact ⟨fixed_of_same x y h.1 hsame.1, fixedAll_of_sameAll xs ys h.2 hsame.2⟩

end

instance : ReflBEq Value := ⟨same_refl _⟩

@[simp] theorem str_beq (s t : String) : (str s == str t) = (s == t) := by
  show same (str s) (str t) = _
  simp [same, sameLeaf]

@[simp] theorem beq_str_iff {s : String} : (a == str s) = true ↔ a = str s := by
  show same a (str s) = true ↔ _
  cases a <;> simp [same, sameLeaf, number?]

@[simp] theorem bne_null_iff : (a != null) = true ↔ a ≠ null := by
  show (!same a null) = true ↔ _
  cases a <;> simp [same, sameLeaf, number?]

@[simp] theorem bne_null_eq_false : (a != null) = false ↔ a = null := by
  rw [← Bool.not_eq_true, bne_null_iff, Classical.not_not]

theorem beq_trans (h : (a == b) = true) (h' : (b == c) = true) : (a == c) = true :=
  same_trans a h h'

theorem beq_comm_of_fixed (h : a.fixed = true) : (a == b) = (b == a) :=
  same_comm_of_fixed a b h

-- Of the keys that a mapping can have, each may be exchanged for an equal one.
theorem exchangeable_of_fixed {key : Value} (h : key.fixed = true) :
    Entries.Exchangeable key := by
  intro other hother k
  have hother' : (key == other) = true := (beq_comm_of_fixed h).trans hother
  constructor
  · apply Bool.eq_iff_iff.mpr
    exact ⟨fun hk => beq_trans hk hother, fun hk => beq_trans hk hother'⟩
  · rw [← beq_comm_of_fixed h]
    apply Bool.eq_iff_iff.mpr
    exact ⟨fun hk => beq_trans hother' hk, fun hk => beq_trans hother hk⟩

theorem isPrefixOf_refl (xs : List Value) : xs.isPrefixOf xs = true := by
  induction xs with
  | nil => rfl
  | cons x xs ih => simp [List.isPrefixOf, ih]

theorem isPrefixOf_append (xs ys : List Value) : xs.isPrefixOf (xs ++ ys) = true := by
  induction xs with
  | nil => rfl
  | cons x xs ih => simp [List.isPrefixOf, ih]

theorem isPrefixOf_trans {xs ys zs : List Value} (h : xs.isPrefixOf ys = true)
    (h' : ys.isPrefixOf zs = true) : xs.isPrefixOf zs = true := by
  induction xs generalizing ys zs with
  | nil => rfl
  | cons x xs ih =>
      cases ys with
      | nil => simp [List.isPrefixOf] at h
      | cons y ys =>
          cases zs with
          | nil => simp [List.isPrefixOf] at h'
          | cons z zs =>
              simp only [List.isPrefixOf, Bool.and_eq_true] at h h' ⊢
              exact ⟨beq_trans h.1 h'.1, ih h.2 h'.2⟩

end Signpost.Value
