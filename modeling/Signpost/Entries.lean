namespace Signpost.Entries

variable {κ α : Type} [BEq κ]

def get? (entries : List (κ × α)) (key : κ) : Option α :=
  (entries.find? (·.1 == key)).map (·.2)

def contains (entries : List (κ × α)) (key : κ) : Bool :=
  entries.any (·.1 == key)

-- A key that is set again keeps its place.
def set (entries : List (κ × α)) (key : κ) (value : α) : List (κ × α) :=
  match entries with
  | [] => [(key, value)]
  | entry :: rest =>
      if entry.1 == key then (entry.1, value) :: rest else entry :: set rest key value

-- The entries of `base` updated by those of `more`, one after the other.
def update (base more : List (κ × α)) : List (κ × α) :=
  more.foldl (fun entries entry => set entries entry.1 entry.2) base

def ofList (entries : List (κ × α)) : List (κ × α) :=
  update [] entries

def keys (entries : List (κ × α)) : List κ :=
  entries.map (·.1)

-- No key comes a second time.
def Distinct (entries : List (κ × α)) : Prop :=
  entries.Pairwise fun earlier later => (earlier.1 == later.1) = false

theorem keys_set (entries : List (κ × α)) (key : κ) (value : α) :
    keys (set entries key value) =
      if contains entries key then keys entries else keys entries ++ [key] := by
  induction entries with
  | nil => rfl
  | cons entry rest ih =>
      simp only [keys, contains] at ih
      cases h : entry.1 == key with
      | true => simp [set, contains, keys, h]
      | false =>
          cases hr : rest.any (·.1 == key) <;>
            simp [set, contains, keys, h, ih, hr, List.any_cons]

theorem distinct_iff_keys {entries : List (κ × α)} :
    Distinct entries ↔ (keys entries).Pairwise fun a b => (a == b) = false := by
  simp [Distinct, keys, List.pairwise_map]

theorem distinct_set {entries : List (κ × α)} (h : Distinct entries) (key : κ) (value : α) :
    Distinct (set entries key value) := by
  rw [distinct_iff_keys] at h ⊢
  rw [keys_set]
  split
  · exact h
  · next hnew =>
    refine List.pairwise_append.mpr ⟨h, by simp, fun a ha b hb => ?_⟩
    rw [List.mem_singleton.mp hb]
    simp only [contains, List.any_eq_true, not_exists, not_and, Bool.not_eq_true] at hnew
    obtain ⟨entry, he, rfl⟩ := List.mem_map.mp ha
    exact hnew entry he

theorem distinct_update {base : List (κ × α)} (h : Distinct base) (more : List (κ × α)) :
    Distinct (update base more) := by
  unfold update
  induction more generalizing base with
  | nil => exact h
  | cons entry more ih => exact ih (distinct_set h entry.1 entry.2)

theorem distinct_ofList (entries : List (κ × α)) : Distinct (ofList entries) :=
  distinct_update List.Pairwise.nil entries

theorem set_of_new {entries : List (κ × α)} {key : κ} (h : contains entries key = false)
    (value : α) : set entries key value = entries ++ [(key, value)] := by
  induction entries with
  | nil => rfl
  | cons entry rest ih =>
      simp only [contains, List.any_cons, Bool.or_eq_false_iff] at h
      simp [set, h.1, ih h.2]

-- Entries whose keys are new are put behind the others as they are.
theorem update_of_distinct {base more : List (κ × α)} (h : Distinct (base ++ more)) :
    update base more = base ++ more := by
  induction more generalizing base with
  | nil => simp [update]
  | cons entry more ih =>
      have hnew : contains base entry.1 = false := by
        simp only [Distinct, List.pairwise_append] at h
        simpa [contains] using fun key value hmem => h.2.2 (key, value) hmem entry (by simp)
      have hrest : Distinct (base ++ [entry] ++ more) := by simpa using h
      have hstep : update base (entry :: more) = update (base ++ [entry]) more := by
        rw [update, List.foldl_cons, set_of_new hnew]
        rfl
      rw [hstep, ih hrest, List.append_assoc]
      rfl

theorem ofList_of_distinct {entries : List (κ × α)} (h : Distinct entries) :
    ofList entries = entries :=
  update_of_distinct h

end Signpost.Entries
