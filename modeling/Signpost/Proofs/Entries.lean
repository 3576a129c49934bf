import Signpost.Entries

namespace Signpost.Entries

variable {κ α β : Type} [BEq κ] {base more entries : List (κ × α)} {key : κ}

theorem keys_prefix_set (entries : List (κ × α)) (key : κ) (value : α) :
    keys entries <+: keys (set entries key value) := by
  rw [keys_set]
  split
  · exact List.prefix_refl _
  · exact List.prefix_append _ _

theorem keys_prefix_update (base more : List (κ × α)) :
    keys base <+: keys (update base more) := by
  unfold update
  induction more generalizing base with
  | nil => exact List.prefix_refl _
  | cons entry more ih => exact (keys_prefix_set base entry.1 entry.2).trans (ih _)

theorem mem_keys_set [LawfulBEq κ] (entries : List (κ × α)) (key : κ) (value : α) :
    key ∈ keys (set entries key value) := by
  rw [keys_set]
  split
  next hin =>
    obtain ⟨entry, hmem, hkey⟩ := List.any_eq_true.mp hin
    rw [beq_iff_eq] at hkey
    exact hkey ▸ List.mem_map_of_mem hmem
  · exact List.mem_append_right _ (List.mem_singleton_self key)

theorem mem_keys_update [LawfulBEq κ] {entry : κ × α} (h : entry ∈ more) :
    entry.1 ∈ keys (update base more) := by
  induction more generalizing base with
  | nil => simp at h
  | cons first more ih =>
      rcases List.mem_cons.mp h with rfl | hrest
      · exact (keys_prefix_update _ more).subset (mem_keys_set base entry.1 entry.2)
      · exact ih hrest

-- An entry whose key is not among those that come in stays first, as it is.
theorem update_cons_of_new {entry : κ × α} (h : ∀ later ∈ more, (entry.1 == later.1) = false) :
    update (entry :: base) more = entry :: update base more := by
  unfold update
  induction more generalizing base with
  | nil => rfl
  | cons first more ih =>
      have hfirst : set (entry :: base) first.1 first.2 = entry :: set base first.1 first.2 := by
        simp [set, h first (by simp)]
      rw [List.foldl_cons, hfirst, ih fun later hmem => h later (List.mem_cons_of_mem _ hmem)]
      rfl

theorem update_of_prefix [ReflBEq κ] (h : keys base <+: keys more) (hmore : Distinct more) :
    update base more = more := by
  induction base generalizing more with
  | nil => exact ofList_of_distinct hmore
  | cons entry base ih =>
      cases more with
      | nil => simp [keys] at h
      | cons first more =>
          obtain ⟨hkey, hrest⟩ := List.cons_prefix_cons.mp h
          obtain ⟨hnew, hmore⟩ := List.pairwise_cons.mp hmore
          have hset : set (entry :: base) first.1 first.2 = first :: base := by
            simp [set, hkey]
          calc update (entry :: base) (first :: more)
              = update (first :: base) more := by rw [update, List.foldl_cons, hset]; rfl
            _ = first :: update base more := update_cons_of_new hnew
            _ = first :: more := by rw [ih hrest hmore]

theorem get?_cons (entry : κ × α) (entries : List (κ × α)) (key : κ) :
    get? (entry :: entries) key = if entry.1 == key then some entry.2 else get? entries key := by
  unfold get?
  rw [List.find?_cons]
  cases entry.1 == key <;> rfl

theorem get?_eq_none (h : ∀ entry ∈ entries, (entry.1 == key) = false) :
    get? entries key = none := by
  rw [get?, List.find?_eq_none.mpr fun entry hmem => by simp [h entry hmem]]
  rfl

-- Each key comes once, so what is found under it is what it came with.
theorem get?_of_mem [ReflBEq κ] {entry : κ × α} (h : Distinct entries) (hmem : entry ∈ entries) :
    get? entries entry.1 = some entry.2 := by
  induction entries with
  | nil => cases hmem
  | cons first entries ih =>
      obtain ⟨hnew, hrest⟩ := List.pairwise_cons.mp h
      rw [get?_cons]
      rcases List.mem_cons.mp hmem with rfl | hlater
      · rw [BEq.rfl, if_pos rfl]
      · rw [hnew entry hlater, if_neg Bool.false_ne_true, ih hrest hlater]

theorem mem_of_get? [LawfulBEq κ] {value : α} (h : get? entries key = some value) :
    (key, value) ∈ entries := by
  obtain ⟨entry, hentry, rfl⟩ := Option.map_eq_some_iff.mp h
  have hname := List.find?_some hentry
  rw [beq_iff_eq] at hname
  subst hname
  exact List.mem_of_find?_eq_some hentry

theorem get?_map (f : α → β) (entries : List (κ × α)) (key : κ) :
    get? (entries.map fun (name, value) => (name, f value)) key = (get? entries key).map f := by
  induction entries with
  | nil => rfl
  | cons entry entries ih =>
      rw [List.map_cons, get?_cons, get?_cons, ih]
      dsimp only
      cases entry.1 == key <;> rfl

-- A key that anything equal to it can stand for in a comparison, on either side.
def Exchangeable (key : κ) : Prop :=
  ∀ other, (other == key) = true →
    ∀ k, (k == other) = (k == key) ∧ (other == k) = (k == key)

-- No later entry has the key of an earlier one, or a key that equals it.
theorem Exchangeable.apart (hkey : Exchangeable key) {entry : κ × α}
    (hentry : (entry.1 == key) = true) (hnew : ∀ later ∈ more, (entry.1 == later.1) = false) :
    ∀ later ∈ more, (later.1 == key) = false := by
  intro later hmem
  rw [← (hkey entry.1 hentry later.1).2]
  exact hnew later hmem

-- What is found after an entry was set: its value under its own key, else what was there before.
theorem get?_set (hkey : Exchangeable key) (entries : List (κ × α)) (other : κ) (value : α) :
    get? (set entries other value) key =
      if other == key then some value else get? entries key := by
  induction entries with
  | nil => exact get?_cons (other, value) [] key
  | cons entry entries ih =>
      cases hset : entry.1 == other with
      | true =>
          have hsame : (entry.1 == key) = (other == key) := by
            cases hother : other == key with
            | true => rw [← (hkey other hother entry.1).1, hset]
            | false =>
                cases hentry : entry.1 == key with
                | true => rw [← hother, ← (hkey entry.1 hentry other).2, hset]
                | false => rfl
          simp only [set, hset, if_true, get?_cons, hsame]
          cases other == key <;> rfl
      | false =>
          simp only [set, hset, Bool.false_eq_true, if_false, get?_cons, ih]
          cases hother : other == key with
          | true =>
              have hentry : (entry.1 == key) = false := by
                rw [← (hkey other hother entry.1).1, hset]
              simp [hentry]
          | false => rfl

theorem get?_update_of_new (hkey : Exchangeable key)
    (hnew : ∀ entry ∈ more, (entry.1 == key) = false) :
    get? (update base more) key = get? base key := by
  unfold update
  induction more generalizing base with
  | nil => rfl
  | cons entry more ih =>
      rw [List.forall_mem_cons] at hnew
      rw [List.foldl_cons, ih hnew.2, get?_set hkey, hnew.1]
      rfl

-- An update counts before what it updates.
theorem get?_update (hkey : Exchangeable key) (hmore : Distinct more) :
    get? (update base more) key = (get? more key).or (get? base key) := by
  induction more generalizing base with
  | nil => rfl
  | cons entry more ih =>
      obtain ⟨hnew, hmore⟩ := List.pairwise_cons.mp hmore
      have hstep : update base (entry :: more) = update (set base entry.1 entry.2) more := rfl
      rw [hstep, ih hmore, get?_set hkey, get?_cons]
      cases hentry : entry.1 == key with
      | true =>
          rw [get?_eq_none (hkey.apart hentry hnew)]
          rfl
      | false => rfl

-- Of two entries that are set under equal keys, the later one counts.
theorem set_set (hkey : Exchangeable key) {other : κ} (h : (other == key) = true)
    (entries : List (κ × α)) (first value : α) :
    set (set entries other first) key value = set entries other value := by
  induction entries with
  | nil => simp [set, h]
  | cons entry entries ih =>
      have hsame : (entry.1 == other) = (entry.1 == key) := (hkey other h entry.1).1
      cases hentry : entry.1 == other with
      | true => simp [set, hentry, ← hsame]
      | false => simp [set, hentry, ← hsame, ih]

theorem contains_set (hkey : Exchangeable key) {other : κ} (h : (other == key) = true)
    (entries : List (κ × α)) (value : α) : contains (set entries other value) key = true := by
  induction entries with
  | nil => simp [set, contains, h]
  | cons entry entries ih =>
      have hsame : (entry.1 == other) = (entry.1 == key) := (hkey other h entry.1).1
      rw [contains] at ih
      cases hentry : entry.1 == other with
      | true => simp [set, contains, hentry, ← hsame]
      | false => simp [set, contains, hentry, ih]

-- A key that is there keeps its place, so another may be set before it or after it.
theorem set_comm (hkey : Exchangeable key) {other : κ} (hother : (other == key) = false)
    {entries : List (κ × α)} (hmem : contains entries key = true) (first value : α) :
    set (set entries other first) key value = set (set entries key value) other first := by
  induction entries with
  | nil => simp [contains] at hmem
  | cons entry entries ih =>
      cases hentry : entry.1 == key with
      | true =>
          have hapart : (entry.1 == other) = false := by rw [(hkey entry.1 hentry other).2, hother]
          simp [set, hentry, hapart]
      | false =>
          rw [contains, List.any_cons, hentry, Bool.false_or] at hmem
          cases hset : entry.1 == other with
          | true => simp [set, hentry, hset]
          | false => simp [set, hentry, hset, ih hmem]

-- What is there stays there.
theorem contains_set_of_contains (h : contains entries key = true) (other : κ) (value : α) :
    contains (set entries other value) key = true := by
  obtain ⟨entry, hmem, hkey⟩ := List.any_eq_true.mp h
  obtain ⟨entry', hmem', hsame⟩ :=
    List.mem_map.mp ((keys_prefix_set entries other value).subset (List.mem_map_of_mem hmem))
  refine List.any_eq_true.mpr ⟨entry', hmem', ?_⟩
  rw [hsame]
  exact hkey

theorem set_update_of_new (hkey : Exchangeable key)
    (hnew : ∀ entry ∈ more, (entry.1 == key) = false) (hmem : contains base key = true)
    (value : α) : set (update base more) key value = update (set base key value) more := by
  unfold update
  induction more generalizing base with
  | nil => rfl
  | cons entry more ih =>
      rw [List.forall_mem_cons] at hnew
      have hstays := contains_set_of_contains hmem entry.1 entry.2
      rw [List.foldl_cons, List.foldl_cons, ih hnew.2 hstays, set_comm hkey hnew.1 hmem]

-- An entry may be set before an update by the others or after it.
theorem update_set (hkey : Exchangeable key) (hmore : Distinct more) (value : α) :
    update base (set more key value) = set (update base more) key value := by
  induction more generalizing base with
  | nil => rfl
  | cons entry more ih =>
      obtain ⟨hnew, hmore⟩ := List.pairwise_cons.mp hmore
      cases hentry : entry.1 == key with
      | true =>
          have hlater := hkey.apart hentry hnew
          calc update base (set (entry :: more) key value)
              = update (set base entry.1 value) more := by rw [set, if_pos hentry]; rfl
            _ = update (set (set base entry.1 entry.2) key value) more := by
                rw [set_set hkey hentry]
            _ = set (update (set base entry.1 entry.2) more) key value :=
                (set_update_of_new hkey hlater (contains_set hkey hentry base entry.2) value).symm
      | false =>
          calc update base (set (entry :: more) key value)
              = update (set base entry.1 entry.2) (set more key value) := by
                rw [set, if_neg (Bool.eq_false_iff.mp hentry)]; rfl
            _ = set (update (set base entry.1 entry.2) more) key value := ih hmore

-- Updates may be taken together.
theorem update_update {added : List (κ × α)} (hmore : Distinct more)
    (hadded : ∀ entry ∈ added, Exchangeable entry.1) :
    update base (update more added) = update (update base more) added := by
  induction added generalizing more with
  | nil => rfl
  | cons entry added ih =>
      rw [List.forall_mem_cons] at hadded
      calc update base (update more (entry :: added))
          = update (update base (set more entry.1 entry.2)) added :=
            ih (distinct_set hmore entry.1 entry.2) hadded.2
        _ = update (set (update base more) entry.1 entry.2) added := by
            rw [update_set hadded.1 hmore]

-- A key is added to those seen before it, unless one of them equals it.
def addKey (seen : List κ) (key : κ) : List κ :=
  if seen.any (· == key) then seen else seen ++ [key]

-- The keys without repetition, each where it comes first.
def firsts (keys : List κ) : List κ := keys.eraseDupsBy fun later earlier => earlier == later

theorem firsts_eq (keys : List κ) : firsts keys = keys.foldl addKey [] := by
  have hloop : ∀ seen : List κ,
      List.eraseDupsBy.loop (fun later earlier => earlier == later) keys seen =
        keys.foldl addKey seen.reverse := by
    induction keys with
    | nil => intro seen; rfl
    | cons key keys ih =>
        intro seen
        rw [List.foldl_cons, addKey, List.any_reverse, List.eraseDupsBy.loop]
        cases seen.any (· == key) with
        | true => exact ih seen
        | false => simpa using ih (key :: seen)
  exact hloop []

theorem map_firsts [BEq β] {f : κ → β} (hf : ∀ a b, (f a == f b) = (a == b)) (keys : List κ) :
    (firsts keys).map f = firsts (keys.map f) := by
  have hfold : ∀ seen : List κ,
      (keys.foldl addKey seen).map f = (keys.map f).foldl addKey (seen.map f) := by
    induction keys with
    | nil => intro seen; rfl
    | cons key keys ih =>
        intro seen
        have hadd : (addKey seen key).map f = addKey (seen.map f) (f key) := by
          have hany : (seen.map f).any (· == f key) = seen.any (· == key) := by
            simp [List.any_map, Function.comp_def, hf]
          rw [addKey, addKey, hany]
          split <;> simp
        rw [List.map_cons, List.foldl_cons, List.foldl_cons, ih, hadd]
  rw [firsts_eq, firsts_eq]
  exact hfold []

theorem keys_update (base more : List (κ × α)) :
    keys (update base more) = (keys more).foldl addKey (keys base) := by
  unfold update
  induction more generalizing base with
  | nil => rfl
  | cons entry more ih =>
      have hset : keys (set base entry.1 entry.2) = addKey (keys base) entry.1 := by
        rw [keys_set, addKey, keys, List.any_map]
        rfl
      rw [List.foldl_cons, ih, hset]
      rfl

theorem get?_append (entries more : List (κ × α)) (key : κ) :
    get? (entries ++ more) key = (get? entries key).or (get? more key) := by
  induction entries with
  | nil => rfl
  | cons entry entries ih =>
      rw [List.cons_append, get?_cons, get?_cons, ih]
      cases entry.1 == key <;> rfl

-- Where keys that are equal are the same, any of them may stand for itself.
theorem exchangeable_of_lawful [LawfulBEq κ] (key : κ) : Exchangeable key := by
  intro other hother k
  obtain rfl : other = key := eq_of_beq hother
  exact ⟨rfl, Bool.beq_comm⟩

-- Of the values that come in under a key, the last one counts.
theorem get?_update_reverse (hkey : Exchangeable key) (base more : List (κ × α)) :
    get? (update base more) key = (get? more.reverse key).or (get? base key) := by
  induction more generalizing base with
  | nil => rfl
  | cons entry more ih =>
      have hstep : update base (entry :: more) = update (set base entry.1 entry.2) more := rfl
      rw [hstep, ih, get?_set hkey, List.reverse_cons, get?_append, get?_cons, Option.or_assoc]
      cases entry.1 == key <;> rfl

theorem get?_ofList (hkey : Exchangeable key) (entries : List (κ × α)) :
    get? (ofList entries) key = get? entries.reverse key := by
  rw [ofList, get?_update_reverse hkey]
  exact Option.or_none

theorem keys_ofList (entries : List (κ × α)) : keys (ofList entries) = firsts (keys entries) := by
  rw [ofList, keys_update, firsts_eq]
  rfl

-- Entries that come in one after the other may be put together in two parts.
theorem ofList_append (entries : List (κ × α)) (h : ∀ entry ∈ more, Exchangeable entry.1) :
    ofList (entries ++ more) = update (ofList entries) (ofList more) := by
  calc ofList (entries ++ more)
      = update (ofList entries) more := List.foldl_append
    _ = update (ofList entries) (ofList more) := (update_update List.Pairwise.nil h).symm

end Signpost.Entries
