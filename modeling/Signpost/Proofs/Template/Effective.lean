import Signpost.Proofs.Template.Layout

namespace Signpost.Template

variable {config : Config} {constraints others : Constraints} {template : String}

-- The names of the placeholders of a template, in order.
def names (config : Config) (template : String) : List String :=
  (((parts? config none template.toList).map slots).getD []).map (·.name)

theorem names_eq {parts : List Part} (h : parts? config none template.toList = some parts) :
    names config template = (slots parts).map (·.name) := by
  rw [names, h]
  rfl

theorem constraintFor_congr {name : String}
    (h : Entries.get? constraints (.str name) = Entries.get? others (.str name)) :
    constraintFor config constraints name = constraintFor config others name := by
  rw [constraintFor, constraintFor, h]

-- A placeholder's pattern is made of the constraint in force for it, and a literal's of none.
theorem pattern_congr {parts : List Part}
    (h : ∀ name ∈ (slots parts).map (·.name),
      constraintFor config constraints name = constraintFor config others name) :
    parts.flatMap (Part.pattern config constraints) =
      parts.flatMap (Part.pattern config others) := by
  induction parts with
  | nil => rfl
  | cons part parts ih =>
      rw [List.flatMap_cons, List.flatMap_cons]
      cases part with
      | literal c => rw [ih h]; rfl
      | slot slashed parameter =>
          have hfirst := h parameter.name (by simp [slots, Part.parameter?])
          have hrest : ∀ name ∈ (slots parts).map (·.name),
              constraintFor config constraints name = constraintFor config others name :=
            fun name hmem => h name (List.mem_cons_of_mem _ hmem)
          rw [ih hrest, Part.pattern, Part.pattern, hfirst]

-- Patterns of one template match alike where the same constraints are in force in it.
theorem same_of_ofTemplate {a b : Pattern}
    (ha : (Pattern.ofTemplate config constraints template).result = .ok a)
    (hb : (Pattern.ofTemplate config others template).result = .ok b)
    (h : ∀ name ∈ names config template,
      Entries.get? constraints (.str name) = Entries.get? others (.str name)) :
    a.regex = b.regex ∧ a.parameters = b.parameters := by
  obtain ⟨text, hread, hcompile⟩ := read_of_ofTemplate ha
  obtain ⟨text', hread', hcompile'⟩ := read_of_ofTemplate hb
  obtain ⟨parts, hparts, htext, hparameters, -⟩ := read_eq_ok hread
  obtain ⟨parts', hparts', htext', hparameters', -⟩ := read_eq_ok hread'
  obtain rfl : parts = parts' := Option.some.inj (hparts.symm.trans hparts')
  have hforce : ∀ name ∈ (slots parts).map (·.name),
      constraintFor config constraints name = constraintFor config others name := by
    intro name hmem
    rw [← names_eq hparts] at hmem
    exact constraintFor_congr (h name hmem)
  have hsame : text = text' := by
    apply String.toList_injective
    rw [htext, htext', pattern_congr hforce]
  subst hsame
  exact ⟨Except.ok.inj (hcompile.symm.trans hcompile'), hparameters.trans hparameters'.symm⟩

end Signpost.Template
