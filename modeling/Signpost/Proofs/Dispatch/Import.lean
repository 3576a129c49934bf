import Signpost.Proofs.Entries
import Signpost.Proofs.Outcome
import Signpost.Proofs.Text.Cut
import Signpost.Registry

namespace Signpost

open Text (cutLast?)

namespace Modules

variable {σ : Type} {modules : Modules σ} {path front part : List Char} {error : Error}
  {found : Module σ}

-- No module fails when it is imported.
def Importable (modules : Modules σ) : Prop :=
  ∀ entry ∈ modules, ∃ attributes, entry.2.body = .ok attributes

-- A module is reached by its path if all that the path names before a full stop are packages.
structure Reaches (modules : Modules σ) (path : List Char) (found : Module σ) : Prop where
  named : path ≠ []
  absolute : path.head? ≠ some '.'
  present : Entries.get? modules (String.ofList path) = some found
  packages : ∀ front rest, path = front ++ '.' :: rest →
    ∃ package, Entries.get? modules (String.ofList front) = some package ∧
      package.isPackage = true

-- What an import comes to where no module fails.
inductive Loads (modules : Modules σ) (path : List Char) : Except Error (Loaded σ) → Prop
  | nameless (h : path = []) : Loads modules path (.error .emptyModuleName)
  | relative (h : path.head? = some '.') :
      Loads modules path (.error (.relativeModule (String.ofList path)))
  | missing {error : Error} (hnamed : path ≠ []) (habsolute : path.head? ≠ some '.')
      (hnone : ∀ found, ¬Reaches modules path found)
      (hmissing : isMissing (String.ofList path) error = true) :
      Loads modules path (.error error)
  | found {found : Module σ} {attributes : List (String × Attribute σ)}
      (hreaches : Reaches modules path found) (hbody : found.body = .ok attributes) :
      Loads modules path (.ok ⟨String.ofList path, found.isPackage, attributes⟩)

-- The first full stop that is cut at may be any but the last.
theorem eq_or_exists_of_concat {rest : List Char} (hpart : '.' ∉ part)
    (h : path ++ '.' :: part = front ++ '.' :: rest) :
    front = path ∨ ∃ more, path = front ++ '.' :: more := by
  rcases List.append_eq_append_iff.mp h with ⟨more, rfl, hrest⟩ | ⟨more, rfl, hrest⟩
  · cases more with
    | nil => exact .inl (List.append_nil _)
    | cons c more =>
        obtain ⟨rfl, rfl⟩ := List.cons.inj hrest
        simp at hpart
  · cases more with
    | nil => exact .inl (List.append_nil _).symm
    | cons c more =>
        obtain ⟨rfl, -⟩ := List.cons.inj hrest
        exact .inr ⟨more, rfl⟩

theorem reaches_concat_iff (hnamed : path ≠ []) (habsolute : path.head? ≠ some '.')
    (hpart : '.' ∉ part) :
    Reaches modules (path ++ '.' :: part) found ↔
      (∃ package, Reaches modules path package ∧ package.isPackage = true) ∧
        Entries.get? modules (String.ofList (path ++ '.' :: part)) = some found := by
  constructor
  · intro h
    obtain ⟨package, hpackage, hinner⟩ := h.packages path part rfl
    refine ⟨⟨package, ⟨hnamed, habsolute, hpackage, fun front rest hpath => ?_⟩, hinner⟩,
      h.present⟩
    exact h.packages front (rest ++ '.' :: part) (by simp [hpath])
  · rintro ⟨⟨package, hpackage, hinner⟩, hpresent⟩
    refine ⟨by simp, ?_, hpresent, fun front rest hpath => ?_⟩
    · obtain ⟨c, path, rfl⟩ := List.exists_cons_of_ne_nil hnamed
      exact habsolute
    · rcases eq_or_exists_of_concat hpart hpath with rfl | ⟨more, hmore⟩
      · exact ⟨package, hpackage.present, hinner⟩
      · exact hpackage.packages front more hmore

-- What is missing on the way to a module is missing on the way to all that is in it.
theorem isMissing_concat (h : isMissing (String.ofList path) error = true) (part : List Char) :
    isMissing (String.ofList (path ++ '.' :: part)) error = true := by
  have hholds {missing : String} (h : isMissing.holds (String.ofList path) missing = true) :
      isMissing.holds (String.ofList (path ++ '.' :: part)) missing = true := by
    simp only [isMissing.holds, Bool.and_eq_true, Bool.or_eq_true, beq_iff_eq, bne_iff_ne,
      List.isPrefixOf_iff_prefix, String.toList_append, String.toList_ofList] at h ⊢
    refine ⟨h.1, .inr ?_⟩
    rcases h.2 with rfl | hprefix
    · exact ⟨part, by simp⟩
    · exact hprefix.trans (List.prefix_append _ _)
  cases error <;> first | exact hholds h | cases h

theorem load_relative (h : path.head? = some '.') :
    modules.load (String.ofList path) = .error (.relativeModule (String.ofList path)) := by
  obtain ⟨rest, rfl⟩ := List.head?_eq_some_iff.mp h
  simp [load, Text.split]

theorem load_of_split {first : List Char} {parts : List (List Char)} (hfirst : first ≠ [])
    (hsplit : Text.split '.' path = first :: parts) :
    modules.load (String.ofList path) =
      modules.loadOne (String.ofList first) >>= fun package =>
        (parts.map String.ofList).foldlM modules.loadIn package := by
  have hnamed : String.ofList path ≠ "" := by
    rintro hpath
    obtain rfl : path = [] := by simpa using hpath
    obtain ⟨rfl, -⟩ := List.cons.inj hsplit
    exact hfirst rfl
  have hfirst : String.ofList first ≠ "" := by simpa using hfirst
  simp only [load, String.toList_ofList, hsplit, List.map_cons]
  rw [if_neg hnamed, if_neg hfirst]

theorem load_of_not_mem (hnamed : path ≠ []) (hplain : '.' ∉ path) :
    modules.load (String.ofList path) = modules.loadOne (String.ofList path) := by
  rw [load_of_split hnamed (Text.split_of_not_mem hplain)]
  exact bind_pure _

theorem exists_split (hnamed : path ≠ []) (habsolute : path.head? ≠ some '.') :
    ∃ first parts, first ≠ [] ∧ Text.split '.' path = first :: parts := by
  obtain ⟨c, path, rfl⟩ := List.exists_cons_of_ne_nil hnamed
  have hc : c ≠ '.' := by simpa using habsolute
  rw [Text.split, if_neg hc]
  cases Text.split '.' path with
  | nil => exact ⟨[c], [], by simp, rfl⟩
  | cons first parts => exact ⟨c :: first, parts, by simp, rfl⟩

-- A module in a package is imported when the package has been.
theorem load_concat (hnamed : path ≠ []) (habsolute : path.head? ≠ some '.')
    (hpart : '.' ∉ part) :
    modules.load (String.ofList (path ++ '.' :: part)) =
      modules.load (String.ofList path) >>= fun parent =>
        modules.loadIn parent (String.ofList part) := by
  obtain ⟨first, parts, hfirst, hsplit⟩ := exists_split hnamed habsolute
  have hlonger := Text.split_concat hpart path
  rw [hsplit, List.cons_append] at hlonger
  rw [load_of_split hfirst hsplit, load_of_split hfirst hlonger, bind_assoc, List.map_append]
  simp only [List.foldlM_append, List.map_cons, List.map_nil, List.foldlM_cons, List.foldlM_nil,
    bind_pure]

theorem loads_one (hmodules : modules.Importable) (hnamed : path ≠ []) (hplain : '.' ∉ path) :
    Loads modules path (modules.load (String.ofList path)) := by
  have habsolute : path.head? ≠ some '.' := fun h => hplain (List.mem_of_head? h)
  have hname : (String.ofList path != "") = true := by simpa using hnamed
  rw [load_of_not_mem hnamed hplain, loadOne]
  cases hget : Entries.get? modules (String.ofList path) with
  | none =>
      refine .missing hnamed habsolute (fun found hfound => ?_) ?_
      · rw [hfound.present] at hget
        cases hget
      · simp [isMissing, isMissing.holds, hname]
  | some found =>
      obtain ⟨attributes, hbody⟩ := hmodules _ (Entries.mem_of_get? hget)
      dsimp only
      rw [hbody, Except.bind_ok]
      refine .found ⟨hnamed, habsolute, hget, fun front rest hpath => ?_⟩ hbody
      exact absurd (by simp [hpath]) hplain

-- One step further into a package.
theorem Loads.concat (hmodules : modules.Importable) (hnamed : path ≠ [])
    (habsolute : path.head? ≠ some '.') (hpart : '.' ∉ part)
    (h : Loads modules path (modules.load (String.ofList path))) :
    Loads modules (path ++ '.' :: part) (modules.load (String.ofList (path ++ '.' :: part))) := by
  have hlonger : path ++ '.' :: part ≠ [] := by simp
  have habsolute' : (path ++ '.' :: part).head? ≠ some '.' := by
    obtain ⟨c, path, rfl⟩ := List.exists_cons_of_ne_nil hnamed
    exact habsolute
  have hname : String.ofList path ++ "." ++ String.ofList part =
      String.ofList (path ++ '.' :: part) := by
    rw [← String.toList_inj]
    simp
  have hself : isMissing.holds (String.ofList (path ++ '.' :: part))
      (String.ofList (path ++ '.' :: part)) = true := by
    simp [isMissing.holds]
  rw [load_concat hnamed habsolute hpart]
  generalize hload : modules.load (String.ofList path) = loaded at h
  cases h with
  | nameless h => exact absurd h hnamed
  | relative h => exact absurd h habsolute
  | missing _ _ hnone hmissing =>
      rw [Except.error_bind]
      refine .missing hlonger habsolute' (fun found hfound => ?_) (isMissing_concat hmissing part)
      obtain ⟨⟨package, hpackage, -⟩, -⟩ := (reaches_concat_iff hnamed habsolute hpart).mp hfound
      exact hnone package hpackage
  | @found package attributes hpackage hbody =>
      rw [Except.bind_ok, loadIn]
      dsimp only
      rw [hname]
      by_cases hinner : package.isPackage = true
      · rw [if_pos hinner, loadOne]
        cases hget : Entries.get? modules (String.ofList (path ++ '.' :: part)) with
        | none =>
            refine .missing hlonger habsolute' (fun found hfound => ?_) hself
            rw [hfound.present] at hget
            cases hget
        | some found =>
            obtain ⟨attributes', hbody'⟩ := hmodules _ (Entries.mem_of_get? hget)
            dsimp only
            rw [hbody', Except.bind_ok]
            refine .found ?_ hbody'
            exact (reaches_concat_iff hnamed habsolute hpart).mpr
              ⟨⟨package, hpackage, hinner⟩, hget⟩
      · rw [if_neg hinner]
        refine .missing hlonger habsolute' (fun found hfound => ?_) hself
        obtain ⟨⟨other, hother, hinner'⟩, -⟩ :=
          (reaches_concat_iff hnamed habsolute hpart).mp hfound
        obtain rfl := Option.some.inj (hpackage.present.symm.trans hother.present)
        exact hinner hinner'

-- The path is gone through from its last full stop to its first.
theorem loads (hmodules : modules.Importable) (path : List Char) :
    Loads modules path (modules.load (String.ofList path)) := by
  by_cases hnamed : path = []
  · subst hnamed
    exact .nameless rfl
  by_cases habsolute : path.head? = some '.'
  · rw [load_relative habsolute]
    exact .relative habsolute
  cases hcut : cutLast? '.' path with
  | none => exact loads_one hmodules hnamed (Text.cutLast?_eq_none_iff.mp hcut)
  | some cut =>
      obtain ⟨front, part⟩ := cut
      have hpath := Text.cutLast?_append hcut
      have hfront : front ≠ [] := by
        rintro rfl
        exact habsolute (by rw [hpath]; rfl)
      have habsolute' : front.head? ≠ some '.' := by
        obtain ⟨c, front, rfl⟩ := List.exists_cons_of_ne_nil hfront
        rwa [hpath] at habsolute
      have hshorter : front.length < path.length := by simp [hpath]
      have hconcat := (loads hmodules front).concat hmodules hfront habsolute'
        (Text.not_mem_of_cutLast? hcut)
      rwa [← hpath] at hconcat
termination_by path.length

end Modules

end Signpost
