import Mathlib.Data.List.Forall2
import Signpost.Proofs.Value

namespace Signpost.Value

variable {a b : Value} {xs ys : List Value} {es fs : List (Value × Value)}

-- Entries with equal keys and equal values.
def Alike (entry other : Value × Value) : Prop :=
  (entry.1 == other.1) = true ∧ (entry.2 == other.2) = true

theorem sameAll_iff :
    sameAll xs ys = true ↔ List.Forall₂ (fun x y : Value => (x == y) = true) xs ys := by
  induction xs generalizing ys with
  | nil => cases ys <;> simp [sameAll]
  | cons x xs ih =>
      cases ys with
      | nil => simp [sameAll]
      | cons y ys =>
          rw [sameAll, Bool.and_eq_true, List.forall₂_cons, ih]
          exact Iff.rfl

theorem str_eq_iff {s : String} : (str s == a) = true ↔ a = str s := by
  rw [beq_comm_of_fixed rfl, beq_str_iff]

theorem beq_symm_of_fixed (hfixed : a.fixed = true) (h : (a == b) = true) : (b == a) = true := by
  rwa [← beq_comm_of_fixed hfixed]

-- Of two equal values either both are equal to a given key or none is.
theorem beq_key_congr {key : Value} (hkey : key.fixed = true) (h : (a == b) = true) :
    (a == key) = (b == key) := by
  apply Bool.eq_iff_iff.mpr
  constructor
  · intro ha
    rw [← beq_comm_of_fixed hkey] at ha ⊢
    exact beq_trans ha h
  · exact beq_trans h

theorem beq_str_congr (h : (a == b) = true) (s : String) : (a == str s) = (b == str s) :=
  beq_key_congr rfl h

theorem bne_null_congr (h : (a == b) = true) : (a != null) = (b != null) :=
  congrArg not (beq_key_congr rfl h)

-- Where everything on the left has a partner on the right and no two have the same one, the
-- partners can be put first on the right, in the order of the left side.
theorem exists_perm_append_of_partners {α β : Type} {R : α → β → Prop} {left : List α}
    {right : List β} (hpartner : ∀ x ∈ left, ∃ y ∈ right, R x y)
    (hapart : left.Pairwise fun x later => ∀ y, R x y → ¬R later y) :
    ∃ ordered others, (ordered ++ others).Perm right ∧ List.Forall₂ R left ordered := by
  induction left generalizing right with
  | nil => exact ⟨[], right, .refl right, .nil⟩
  | cons x left ih =>
      rw [List.forall_mem_cons] at hpartner
      obtain ⟨hfirst, hapart⟩ := List.pairwise_cons.mp hapart
      obtain ⟨y, hy, hxy⟩ := hpartner.1
      obtain ⟨before, after, rfl⟩ := List.append_of_mem hy
      -- Without this partner the others still have theirs, as none of them shares it.
      have hrest : ∀ later ∈ left, ∃ z ∈ before ++ after, R later z := by
        intro later hlater
        obtain ⟨z, hz, hlz⟩ := hpartner.2 later hlater
        have hne : z ≠ y := fun he => hfirst later hlater y hxy (he ▸ hlz)
        refine ⟨z, ?_, hlz⟩
        rw [List.mem_append, List.mem_cons] at hz
        rw [List.mem_append]
        exact hz.imp_right fun hz => hz.resolve_left hne
      obtain ⟨ordered, others, hperm, hordered⟩ := ih hrest hapart
      exact ⟨y :: ordered, others, (hperm.cons y).trans List.perm_middle.symm, .cons hxy hordered⟩

theorem length_le_of_partners {α β : Type} {R : α → β → Prop} {left : List α} {right : List β}
    (hpartner : ∀ x ∈ left, ∃ y ∈ right, R x y)
    (hapart : left.Pairwise fun x later => ∀ y, R x y → ¬R later y) :
    left.length ≤ right.length := by
  obtain ⟨ordered, others, hperm, hordered⟩ := exists_perm_append_of_partners hpartner hapart
  rw [hordered.length_eq, ← hperm.length_eq, List.length_append]
  exact Nat.le_add_right _ _

-- Where there are as many on both sides, the whole right side is put in order.
theorem exists_perm_of_partners {α β : Type} {R : α → β → Prop} {left : List α} {right : List β}
    (hlength : left.length = right.length) (hpartner : ∀ x ∈ left, ∃ y ∈ right, R x y)
    (hapart : left.Pairwise fun x later => ∀ y, R x y → ¬R later y) :
    ∃ ordered, ordered.Perm right ∧ List.Forall₂ R left ordered := by
  obtain ⟨ordered, others, hperm, hordered⟩ := exists_perm_append_of_partners hpartner hapart
  have hcount := hperm.length_eq
  rw [List.length_append, ← hordered.length_eq, hlength] at hcount
  obtain rfl : others = [] := List.length_eq_zero_iff.mp (by omega)
  rw [List.append_nil] at hperm
  exact ⟨ordered, hperm, hordered⟩

-- No two entries with different keys are equal to the same one.
theorem apart_of_distinct (hdistinct : Entries.Distinct es)
    (hfixed : ∀ entry ∈ es, entry.1.fixed = true) :
    es.Pairwise fun entry later => ∀ other, Alike entry other → ¬Alike later other := by
  refine hdistinct.imp_of_mem fun {entry later} _ hlater hne other hentry hother => ?_
  rw [beq_trans hentry.1 (beq_symm_of_fixed (hfixed later hlater) hother.1)] at hne
  cases hne

-- Equal mappings hold equal entries, one for one.
theorem exists_perm_of_mapping_beq (h : (mapping es == mapping fs) = true)
    (hdistinct : Entries.Distinct es) (hfixed : ∀ entry ∈ es, entry.1.fixed = true) :
    ∃ ordered, ordered.Perm fs ∧ List.Forall₂ Alike es ordered := by
  obtain ⟨others, hothers, hlength, hsame⟩ := mapping_same_iff.mp h
  obtain rfl : fs = others := mapping.inj hothers
  refine exists_perm_of_partners hlength (fun entry hmem => ?_) (apart_of_distinct hdistinct hfixed)
  exact sameEntry_iff.mp (sameEntries_iff.mp hsame entry hmem)

theorem eq_of_key_beq {entry other : Value × Value} (hdistinct : Entries.Distinct es)
    (hentry : entry ∈ es) (hother : other ∈ es) (h : (entry.1 == other.1) = true)
    (h' : (other.1 == entry.1) = true) : entry = other := by
  induction es with
  | nil => cases hentry
  | cons first es ih =>
      obtain ⟨hnew, hdistinct⟩ := List.pairwise_cons.mp hdistinct
      rcases List.mem_cons.mp hentry with rfl | hlater
      · rcases List.mem_cons.mp hother with rfl | hlater
        · rfl
        · rw [hnew other hlater] at h
          cases h
      · rcases List.mem_cons.mp hother with rfl | hlater'
        · rw [hnew entry hlater] at h'
          cases h'
        · exact ih hdistinct hlater hlater'

-- Equal mappings hold equal values under equal keys.
theorem value_beq_of_key_beq {entry other : Value × Value}
    (h : (mapping es == mapping fs) = true) (hfs : Entries.Distinct fs)
    (hentry : entry ∈ es) (hfixed : entry.1.fixed = true) (hother : other ∈ fs)
    (hkey : (entry.1 == other.1) = true) : (entry.2 == other.2) = true := by
  obtain ⟨others, hothers, -, hsame⟩ := mapping_same_iff.mp h
  obtain rfl : fs = others := mapping.inj hothers
  obtain ⟨partner, hpartner, hkeys, hvalues⟩ :=
    sameEntry_iff.mp (sameEntries_iff.mp hsame entry hentry)
  have hback : (partner.1 == entry.1) = true := beq_symm_of_fixed hfixed hkeys
  have hback' : (other.1 == entry.1) = true := beq_symm_of_fixed hfixed hkey
  -- Both have the key of the entry, and a mapping has each key once.
  obtain rfl : partner = other :=
    eq_of_key_beq hfs hpartner hother (beq_trans hback hkey) (beq_trans hback' hkeys)
  exact hvalues

-- The entries that a mapping can have: each key comes once, and no key is a value that may change.
structure Keyed {α : Type} (entries : List (Value × α)) : Prop where
  distinct : Entries.Distinct entries
  fixed : ∀ entry ∈ entries, entry.1.fixed = true

-- What is found under a key is what is held under it.
theorem Keyed.get?_eq_some {α : Type} {entries : List (Value × α)} (h : Keyed entries)
    {key : Value} {value : α} :
    Entries.get? entries key = some value ↔
      ∃ entry ∈ entries, (entry.1 == key) = true ∧ entry.2 = value := by
  obtain ⟨hdistinct, hfixed⟩ := h
  induction entries with
  | nil => simp [Entries.get?]
  | cons first entries ih =>
      obtain ⟨hnew, hrest⟩ := List.pairwise_cons.mp hdistinct
      rw [List.forall_mem_cons] at hfixed
      rw [Entries.get?_cons]
      split
      next hfirst =>
        constructor
        · intro h
          exact ⟨first, List.mem_cons_self, hfirst, Option.some.inj h⟩
        · rintro ⟨entry, hmem, hentry, rfl⟩
          rcases List.mem_cons.mp hmem with rfl | hlater
          · rfl
          · -- A later entry under the key would have the key of the first one.
            have hsame := beq_trans hfirst (beq_symm_of_fixed (hfixed.2 entry hlater) hentry)
            rw [hnew entry hlater] at hsame
            cases hsame
      next hfirst =>
        rw [ih hrest hfixed.2]
        simp [hfirst]

theorem get?_eq_none_iff {α : Type} {entries : List (Value × α)} {key : Value} :
    Entries.get? entries key = none ↔ ∀ entry ∈ entries, (entry.1 == key) = false := by
  simp [Entries.get?]

-- Of equal mappings each entry on one side has a partner on the other.
theorem exists_partner (h : (mapping es == mapping fs) = true) {entry : Value × Value}
    (hmem : entry ∈ es) : ∃ other ∈ fs, Alike entry other := by
  obtain ⟨others, hothers, -, hsame⟩ := mapping_same_iff.mp h
  obtain rfl : fs = others := mapping.inj hothers
  exact sameEntry_iff.mp (sameEntries_iff.mp hsame entry hmem)

theorem exists_partner_left (h : (mapping es == mapping fs) = true) (hes : Keyed es)
    {other : Value × Value} (hmem : other ∈ fs) : ∃ entry ∈ es, Alike entry other := by
  obtain ⟨ordered, hperm, halike⟩ := exists_perm_of_mapping_beq h hes.distinct hes.fixed
  rw [← hperm.mem_iff] at hmem
  obtain ⟨i, hi, rfl⟩ := List.getElem_of_mem hmem
  have hbound : i < es.length := halike.length_eq ▸ hi
  exact ⟨es[i], List.getElem_mem hbound, halike.get hbound hi⟩

theorem mapping_beq_of_partners (hes : Keyed es) (hfs : Entries.Distinct fs)
    (hleft : ∀ entry ∈ es, ∃ other ∈ fs, Alike entry other)
    (hright : ∀ other ∈ fs, ∃ entry ∈ es, Alike entry other) :
    (mapping es == mapping fs) = true := by
  have hcount : es.length ≤ fs.length :=
    length_le_of_partners hleft (apart_of_distinct hes.distinct hes.fixed)
  have hcount' : fs.length ≤ es.length := by
    have hpartner : ∀ other ∈ fs, ∃ entry ∈ es, entry ∈ es ∧ Alike entry other := by
      intro other hother
      obtain ⟨entry, hentry, halike⟩ := hright other hother
      exact ⟨entry, hentry, hentry, halike⟩
    refine length_le_of_partners hpartner (hfs.imp fun {other later} hne entry hother hlater => ?_)
    rw [beq_trans (beq_symm_of_fixed (hes.fixed entry hother.1) hother.2.1) hlater.2.1] at hne
    cases hne
  refine mapping_same_iff.mpr ⟨fs, rfl, Nat.le_antisymm hcount hcount', ?_⟩
  exact sameEntries_iff.mpr fun entry hmem => sameEntry_iff.mpr (hleft entry hmem)

theorem fixed_of_mapping_beq (h : (mapping es == mapping fs) = true) (hes : Keyed es) :
    ∀ other ∈ fs, other.1.fixed = true := by
  intro other hother
  obtain ⟨entry, hentry, halike⟩ := exists_partner_left h hes hother
  exact fixed_of_same entry.1 other.1 (hes.fixed entry hentry) halike.1

-- Equal mappings hold equal values, or nothing, under a key.
theorem get?_rel (h : (mapping es == mapping fs) = true) (hes : Keyed es) (hfs : Keyed fs)
    {key : Value} (hkey : key.fixed = true) :
    Option.Rel (fun v w : Value => (v == w) = true) (Entries.get? es key)
      (Entries.get? fs key) := by
  cases hfound : Entries.get? es key with
  | none =>
      have hnone : Entries.get? fs key = none := by
        rw [get?_eq_none_iff] at hfound ⊢
        intro other hother
        obtain ⟨entry, hentry, halike⟩ := exists_partner_left h hes hother
        rw [← beq_key_congr hkey halike.1]
        exact hfound entry hentry
      rw [hnone]
      exact .none
  | some value =>
      obtain ⟨entry, hentry, hentrykey, rfl⟩ := hes.get?_eq_some.mp hfound
      obtain ⟨other, hother, halike⟩ := exists_partner h hentry
      rw [beq_key_congr hkey halike.1] at hentrykey
      rw [hfs.get?_eq_some.mpr ⟨other, hother, hentrykey, rfl⟩]
      exact .some halike.2

-- Mappings that hold equal values under every key are equal.
theorem mapping_beq_of_get? (hes : Keyed es) (hfs : Keyed fs)
    (h : ∀ key : Value, key.fixed = true →
      Option.Rel (fun v w : Value => (v == w) = true) (Entries.get? es key)
        (Entries.get? fs key)) :
    (mapping es == mapping fs) = true := by
  refine mapping_beq_of_partners hes hfs.distinct ?_ ?_
  · intro entry hentry
    have hrel := h entry.1 (hes.fixed entry hentry)
    rw [hes.get?_eq_some.mpr ⟨entry, hentry, same_refl entry.1, rfl⟩] at hrel
    generalize hfound : Entries.get? fs entry.1 = found at hrel
    cases hrel with
    | some hvalue =>
        obtain ⟨other, hother, hkey, rfl⟩ := hfs.get?_eq_some.mp hfound
        exact ⟨other, hother, beq_symm_of_fixed (hfs.fixed other hother) hkey, hvalue⟩
  · intro other hother
    have hrel := h other.1 (hfs.fixed other hother)
    rw [hfs.get?_eq_some.mpr ⟨other, hother, same_refl other.1, rfl⟩] at hrel
    generalize hfound : Entries.get? es other.1 = found at hrel
    cases hrel with
    | some hvalue =>
        obtain ⟨entry, hentry, hkey, rfl⟩ := hes.get?_eq_some.mp hfound
        exact ⟨entry, hentry, hkey, hvalue⟩

namespace Keyed

variable {α : Type} {entries base more : List (Value × α)}

theorem nil : Keyed ([] : List (Value × α)) := ⟨.nil, fun _ hmem => nomatch hmem⟩

theorem set (h : Keyed entries) {key : Value} (hkey : key.fixed = true) (value : α) :
    Keyed (Entries.set entries key value) where
  distinct := Entries.distinct_set h.distinct key value
  fixed := by
    intro entry hmem
    have hin := List.mem_map_of_mem (f := (·.1)) hmem
    rw [← Entries.keys, Entries.keys_set] at hin
    split at hin
    · obtain ⟨other, hother, hsame⟩ := List.mem_map.mp hin
      exact hsame ▸ h.fixed other hother
    · rcases List.mem_append.mp hin with hin | hin
      · obtain ⟨other, hother, hsame⟩ := List.mem_map.mp hin
        exact hsame ▸ h.fixed other hother
      · rwa [List.mem_singleton.mp hin]

theorem update (hbase : Keyed base) (hmore : ∀ entry ∈ more, entry.1.fixed = true) :
    Keyed (Entries.update base more) := by
  unfold Entries.update
  induction more generalizing base with
  | nil => exact hbase
  | cons entry more ih =>
      rw [List.forall_mem_cons] at hmore
      exact ih (hbase.set hmore.1 entry.2) hmore.2

theorem map {β : Type} (h : Keyed entries) (f : α → β) :
    Keyed (entries.map fun (name, value) => (name, f value)) where
  distinct := List.pairwise_map.mpr h.distinct
  fixed := by
    intro entry hmem
    obtain ⟨other, hother, rfl⟩ := List.mem_map.mp hmem
    exact h.fixed other hother

end Keyed

theorem rel_or {α β : Type} {R : α → β → Prop} {x y : Option α} {x' y' : Option β}
    (h : Option.Rel R x x') (h' : Option.Rel R y y') : Option.Rel R (x.or y) (x'.or y') := by
  cases h with
  | none => exact h'
  | some hrel => exact .some hrel

-- Equal mappings that are updated by equal ones stay equal.
theorem mapping_update_beq {more more' : List (Value × Value)} (hes : Keyed es) (hfs : Keyed fs)
    (hmore : Keyed more) (hmore' : Keyed more') (h : (mapping es == mapping fs) = true)
    (h' : (mapping more == mapping more') = true) :
    (mapping (Entries.update es more) == mapping (Entries.update fs more')) = true := by
  refine mapping_beq_of_get? (hes.update hmore.fixed) (hfs.update hmore'.fixed) fun key hkey => ?_
  rw [Entries.get?_update (exchangeable_of_fixed hkey) hmore.distinct,
    Entries.get?_update (exchangeable_of_fixed hkey) hmore'.distinct]
  exact rel_or (get?_rel h' hmore hmore' hkey) (get?_rel h hes hfs hkey)

end Signpost.Value
