import Mathlib.Data.List.DropRight
import Signpost.Dispatch
import Signpost.Proofs.Outcome
import Signpost.Proofs.Value

namespace Signpost

namespace Text

variable {chars cs : List Char} {separator base text : String}

def EndsOutside (chars cs : List Char) : Prop :=
  ∀ c ∈ cs.getLast?, c ∉ chars

-- A text that is `base` with separators behind it, as many of them as the text ends in.
structure Trails (separator base text : String) : Prop where
  trailing : ∃ k, text.toList = base.toList ++ (List.replicate k separator.toList).flatten
  bare : ¬ separator.toList <:+ base.toList

theorem trimEnd_eq_rdropWhile (chars cs : List Char) :
    trimEnd chars cs = cs.rdropWhile chars.contains := rfl

theorem trimEnd_eq_self_iff : trimEnd chars cs = cs ↔ EndsOutside chars cs := by
  rw [trimEnd_eq_rdropWhile, List.rdropWhile_eq_self_iff]
  constructor
  · intro h c hlast hmem
    obtain ⟨hne, rfl⟩ := List.mem_getLast?_eq_getLast hlast
    exact h hne (List.contains_iff_mem.mpr hmem)
  · intro h hne hmem
    exact h _ (List.getLast?_eq_some_getLast hne) (List.contains_iff_mem.mp hmem)

theorem endsOutside_trimEnd (chars cs : List Char) : EndsOutside chars (trimEnd chars cs) :=
  trimEnd_eq_self_iff.mp (List.rdropWhile_idempotent _ cs)

-- Nothing but characters of `chars` is lost.
theorem exists_trimEnd (chars cs : List Char) :
    ∃ dropped, cs = trimEnd chars cs ++ dropped ∧ ∀ c ∈ dropped, c ∈ chars := by
  refine ⟨cs.rtakeWhile chars.contains, ?_, fun c hmem => ?_⟩
  · exact (List.rdropWhile_append_rtakeWhile ..).symm
  · exact List.contains_iff_mem.mp (List.mem_rtakeWhile_imp hmem)

theorem trimEnd_append {tail : List Char} (h : ∀ c ∈ tail, c ∈ chars) :
    trimEnd chars (cs ++ tail) = trimEnd chars cs := by
  induction tail using List.reverseRecOn with
  | nil => rw [List.append_nil]
  | append_singleton tail c ih =>
      rw [List.forall_mem_append] at h
      have hc := List.contains_iff_mem.mpr (h.2 c (List.mem_singleton_self c))
      rw [trimEnd_eq_rdropWhile, ← List.append_assoc, List.rdropWhile_concat_pos _ _ _ hc]
      exact ih h.1

-- Every text may be read in this way. There is nothing to be read of a separator that is empty.
theorem exists_trails (hseparator : separator ≠ "") (text : String) :
    ∃ base, Trails separator base text := by
  by_cases hsuffix : separator.toList <:+ text.toList
  · obtain ⟨front, hfront⟩ := hsuffix
    have hshorter : front.length < text.length := by
      have hlength := congrArg List.length hfront
      rw [List.length_append, String.length_toList, String.length_toList] at hlength
      have hpositive : separator.length ≠ 0 := by simpa using hseparator
      omega
    obtain ⟨base, ⟨k, hk⟩, hbare⟩ := exists_trails hseparator (String.ofList front)
    refine ⟨base, ⟨k + 1, ?_⟩, hbare⟩
    rw [← hfront, List.replicate_succ', List.flatten_concat, ← List.append_assoc, ← hk,
      String.toList_ofList]
  · exact ⟨text, ⟨0, by simp⟩, hsuffix⟩
termination_by text.length
decreasing_by simpa using hshorter

theorem Trails.trimEnd_eq (h : Trails separator base text) :
    trimEnd separator.toList text.toList = trimEnd separator.toList base.toList := by
  obtain ⟨k, hk⟩ := h.trailing
  rw [hk]
  refine trimEnd_append fun c hmem => ?_
  obtain ⟨part, hpart, hc⟩ := List.mem_flatten.mp hmem
  rwa [List.eq_of_mem_replicate hpart] at hc

-- A separator of one character is whole wherever one of its characters is.
theorem Trails.endsOutside (h : Trails separator base text) (hlength : separator.length = 1) :
    EndsOutside separator.toList base.toList := by
  rw [← String.length_toList] at hlength
  obtain ⟨s, hs⟩ := List.length_eq_one_iff.mp hlength
  have hbare := h.bare
  rw [hs] at hbare ⊢
  intro c hlast hmem
  obtain rfl := List.mem_singleton.mp hmem
  exact hbare ⟨_, List.dropLast_append_getLast? c hlast⟩

end Text

namespace Dispatch

open Text (EndsOutside Trails)

variable {route : Route} {ref : MethodRef} {classNamespace separator base className : String}

theorem qualifiedName_of_namespace (hcallback : route.callback = .method ref)
    (hnamespace : route.classNamespace = .str classNamespace) (hne : classNamespace ≠ "") :
    qualifiedName route =
      .ok (qualify route.config.namespaceSeparator classNamespace ref.className) := by
  rw [qualifiedName, hcallback]
  dsimp only
  rw [hnamespace]
  exact if_neg hne

theorem qualify_eq_iff (h : Trails separator base classNamespace) :
    qualify separator classNamespace className = base ++ separator ++ className ↔
      EndsOutside separator.toList base.toList := by
  rw [qualify, String.append_left_inj, String.append_left_inj, h.trimEnd_eq,
    ← Text.trimEnd_eq_self_iff]
  constructor
  · intro heq
    have hlists := congrArg String.toList heq
    rwa [String.toList_ofList] at hlists
  · intro heq
    rw [heq, String.ofList_toList]

end Dispatch

-- The full name of the class of a method. What the namespace loses at its end are characters of
-- the separator only, and what is left ends in none of them, so the separator is not doubled. If
-- the separators that the namespace ends in are preceded by none of these characters, then these
-- separators are all it loses; so it is for each separator of one character.
theorem Dispatch.qualifiedName_trims {route : Route} {ref : MethodRef} {classNamespace : String}
    (hcallback : route.callback = .method ref)
    (hnamespace : route.classNamespace = .str classNamespace) (hne : classNamespace ≠ "")
    (hseparator : route.config.namespaceSeparator ≠ "") :
    let separator := route.config.namespaceSeparator
    (∃ base, Text.Trails separator base classNamespace) ∧
    (∃ kept dropped : String, classNamespace = kept ++ dropped ∧
      (∀ c ∈ dropped.toList, c ∈ separator.toList) ∧
      Text.EndsOutside separator.toList kept.toList ∧
      qualifiedName route = .ok (kept ++ separator ++ ref.className)) ∧
    ∀ base, Text.Trails separator base classNamespace →
      (qualifiedName route = .ok (base ++ separator ++ ref.className) ↔
        Text.EndsOutside separator.toList base.toList) ∧
      (separator.length = 1 →
        qualifiedName route = .ok (base ++ separator ++ ref.className)) := by
  intro separator
  have hname := qualifiedName_of_namespace hcallback hnamespace hne
  refine ⟨Text.exists_trails hseparator classNamespace, ?_, fun base hbase => ?_⟩
  · obtain ⟨dropped, hdropped, hmem⟩ := Text.exists_trimEnd separator.toList classNamespace.toList
    refine ⟨String.ofList (Text.trimEnd separator.toList classNamespace.toList),
      String.ofList dropped, ?_, ?_, ?_, hname⟩
    · rw [← String.ofList_append, ← hdropped, String.ofList_toList]
    · rwa [String.toList_ofList]
    · rw [String.toList_ofList]
      exact Text.endsOutside_trimEnd _ _
  · have hiff : qualifiedName route = .ok (base ++ separator ++ ref.className) ↔
        Text.EndsOutside separator.toList base.toList := by
      rw [hname, Except.ok.injEq]
      exact qualify_eq_iff hbase
    exact ⟨hiff, fun hlength => hiff.mpr (hbase.endsOutside hlength)⟩

-- Names joined by a separator of two characters, two of which trail.
theorem Dispatch.qualifiedName_trims_admin :
    let config : Config := { (default : Config) with namespaceSeparator := "::" }
    let settings : Value := .mapping [(.str "namespace", .str "app::admin::::")]
    ∃ route : Route,
      (Route.make config "/" (.str "Foo@bar") (.stated settings)).result = .ok route ∧
      Text.Trails "::" "app::admin" "app::admin::::" ∧
      qualifiedName route = .ok ("app::admin" ++ "::" ++ "Foo") := by
  intro config settings
  let foo : MethodRef := ⟨"Foo", "bar", by decide, by decide⟩
  have hseen : (Route.make config "/" (.str "Foo@bar") (.stated settings)).result.toOption.bind
      (fun route => some (decide (route.callback = .method foo),
        route.classNamespace == .str "app::admin::::",
        route.config.namespaceSeparator)) = some (true, true, "::") := by decide +kernel
  obtain ⟨route, hroute, hseen⟩ := Except.exists_ok_of_bind hseen
  simp only [Option.some.injEq, Prod.mk.injEq, decide_eq_true_eq, Value.beq_str_iff] at hseen
  obtain ⟨hcallback, hnamespace, hseparator⟩ := hseen
  have htrails : Text.Trails "::" "app::admin" "app::admin::::" := ⟨⟨2, by decide⟩, by decide⟩
  have houtside : Text.EndsOutside "::".toList "app::admin".toList := by
    rintro c ⟨⟩
    decide
  obtain ⟨-, -, hname⟩ := Dispatch.qualifiedName_trims hcallback hnamespace (by decide)
    (by rw [hseparator]; decide)
  rw [hseparator] at hname
  exact ⟨route, hroute, htrails, (hname "app::admin" htrails).1.mpr houtside⟩

-- A character that is no separator is lost where the separator has it.
theorem Dispatch.namespace_cut_short :
    let config : Config := { (default : Config) with namespaceSeparator := "__" }
    let settings : Value := .mapping [(.str "namespace", .str "app_")]
    Text.Trails "__" "app_" "app_" ∧
    ∃ route : Route,
      (Route.make config "/" (.str "Foo@bar") (.stated settings)).result = .ok route ∧
      route.classNamespace = .str "app_" ∧
      qualifiedName route = .ok "app__Foo" ∧ "app__Foo" ≠ "app_" ++ "__" ++ "Foo" := by
  intro config settings
  have hseen : (Route.make config "/" (.str "Foo@bar") (.stated settings)).result.toOption.bind
      (fun route => some (route.classNamespace == .str "app_", (qualifiedName route).toOption)) =
      some (true, some "app__Foo") := by decide +kernel
  obtain ⟨route, hroute, hseen⟩ := Except.exists_ok_of_bind hseen
  simp only [Option.some.injEq, Prod.mk.injEq, Value.beq_str_iff] at hseen
  obtain ⟨hnamespace, hname⟩ := hseen
  exact ⟨⟨⟨0, by decide⟩, by decide⟩, route, hroute, hnamespace, Except.eq_ok_of_toOption hname,
    by decide⟩

end Signpost
