import Signpost.Proofs.Regex.Cutting
import Signpost.Proofs.Template.Binding

namespace Signpost

namespace Regex

-- Whether some way of matching takes the whole subject.
def matchesWhole (regex : Regex) (subject : String) : Bool :=
  (regex.node.run (fun s => if s.ahead.isEmpty then some s else none)
    (.start subject.toList)).isSome

theorem matchesWhole_iff {regex : Regex} {subject : String} :
    regex.matchesWhole subject = true ↔
      ∃ s ∈ regex.node.ends (.start subject.toList), s.ahead = [] := by
  rw [matchesWhole, Node.run_eq, List.findSome?_isSome_iff]
  refine exists_congr fun s => and_congr_right fun _ => ?_
  by_cases hend : s.ahead = []
  · simp [hend]
  · simp [hend]

variable {shift : Nat} {mode : Flags} {body : Node} {text : String} {regex : Regex}

-- The body of a group is also compiled alone, under the flags around the group.
theorem Embeds.compile (h : Embeds text regex shift mode body)
    (hdangles : dangles text.toList = false) (hascii : mode.ascii = false)
    (htemplate : mode.template = false) (hself : regex.node.selfContained false = true) :
    ∃ alone, Regex.compile text mode = .ok alone ∧ alone.node.selfContained false = true ∧
      Node.Moved shift regex.groups mode mode alone.node body := by
  obtain ⟨final, hread, houter, hflags, hasked, hmoved⟩ := h.alone
  have hfinish : final.finish = .ok (Node.ofRows final.level.mode final.level.rows) :=
    Reading.finish_eq_ok houter (hflags ▸ hascii) hasked
  have hself' : (Node.ofRow (Node.ofRows final.level.mode final.level.rows)).selfContained false =
      true := by
    rw [hmoved.selfContained_eq, ← h.moved.selfContained_eq, hself]
  have hcheck : (Node.ofRow (Node.ofRows final.level.mode final.level.rows)).check
      final.flags.template = .ok () := by
    rw [hflags, htemplate]
    exact check_of_selfContained hself'
  obtain ⟨alone, hcompile, hnode, -⟩ := compile_of_finish hdangles hread hfinish hcheck
  exact ⟨alone, hcompile, hnode ▸ hself', hnode ▸ hmoved⟩

end Regex

namespace Template

open Signpost.Regex

variable {config : Config} {constraints : Constraints} {mode : Flags} {groups index : Nat}
  {parts : List Part} {items : List Item} {body : Node} {parameter : Parameter}
  {template path : String} {pattern : Pattern}

-- The body of each placeholder is its constraint.
theorem Laid.embeds (h : Laid config constraints mode groups parts items)
    (hmem : .slot parameter index body ∈ items) :
    ∃ regex, compile (constraintFor config constraints parameter.name) {} = .ok regex ∧
      Embeds (constraintFor config constraints parameter.name) regex index mode body := by
  induction h with
  | nil => cases hmem
  | literal c _ ih => exact ih (by simpa using hmem)
  | @slot groups parts items regex own slashed other hcompile hbody _ ih =>
      rcases List.mem_cons.mp hmem with hhead | hmem
      · obtain ⟨rfl, rfl, rfl⟩ := Item.slot.inj hhead
        exact ⟨regex, hcompile, hbody⟩
      · exact ih hmem

-- Each binding was taken by the body of a placeholder of that name.
theorem exists_slot_of_bound {found : Spot} {name value : String}
    (hmem : (name, value) ∈ bindings items found) :
    ∃ parameter index body, .slot parameter index body ∈ items ∧ parameter.name = name ∧
      found.captured? index = some value.toList := by
  obtain ⟨⟨name', taken⟩, hbound, hentry⟩ := List.mem_map.mp hmem
  obtain ⟨rfl, rfl⟩ := Prod.mk.inj hentry
  obtain ⟨item, hitem, hbound⟩ := List.mem_filterMap.mp hbound
  cases item with
  | literal c => cases hbound
  | slot parameter index body =>
      obtain ⟨taken', hcaptured, hpair⟩ := Option.map_eq_some_iff.mp hbound
      obtain ⟨rfl, rfl⟩ := Prod.mk.inj hpair
      exact ⟨parameter, index, body, hitem, rfl, by rw [hcaptured, String.toList_ofList]⟩

-- What a placeholder is bound to is matched from end to end by its constraint, compiled alone
-- under the flags of templates.
theorem match?_constrained (hescape : config.escapeLiterals = true)
    (h : (Pattern.ofTemplate config constraints template).result = .ok pattern)
    {found : Bindings} (hmatch : pattern.match? path = .ok (some found)) {name value : String}
    (hbound : (name, value) ∈ found) :
    ∃ regex, compile (constraintFor config constraints name) {} = .ok regex ∧
      (regex.node.selfContained false = true →
        ∃ alone, compile (constraintFor config constraints name) config.flags = .ok alone ∧
          alone.matchesWhole value = true) := by
  obtain ⟨parts, items, hcompiled⟩ := compiled_of_ofTemplate hescape h
  rw [hcompiled.match?_eq path, Except.ok.injEq] at hmatch
  obtain ⟨spot, hspot, rfl⟩ := Option.map_eq_some_iff.mp hmatch
  obtain ⟨parameter, index, body, hitem, rfl, hcaptured⟩ := exists_slot_of_bound hbound
  obtain ⟨regex, hcompile, hembeds⟩ := hcompiled.laid.embeds hitem
  refine ⟨regex, hcompile, fun hself => ?_⟩
  have hdangles := (read_of_compile hcompile).1
  obtain ⟨alone, halone, hself', hmoved⟩ := hembeds.compile hdangles rfl rfl hself
  refine ⟨alone, halone, matchesWhole_iff.mpr ?_⟩
  rcases (hcompiled.supplied hspot).2 parameter index body hitem with
    ⟨taken, htaken, s, s', hend, hahead⟩ | ⟨-, hnone⟩
  · obtain rfl : taken = value.toList := Option.some.inj (htaken.symm.trans hcaptured)
    -- what the body left unread is what the constraint alone never saw
    exact hmoved.kept_ends rfl hself' hahead hend (List.nil_append s'.ahead).symm
  · rw [hnone] at hcaptured
    cases hcaptured

-- A constraint with a group of its own, and with parts that are settled by their first way.
theorem match?_constrained_code :
    ∃ pattern found alone,
      (Pattern.ofTemplate default [(.str "id", "(?>[0-9]+|(a|b)+)x*+")]
        "/\x7bid\x7d/\x7bslug?\x7d").result = .ok pattern ∧
      pattern.match? "/12x/ab" = .ok (some found) ∧ ("id", "12x") ∈ found ∧
      compile "(?>[0-9]+|(a|b)+)x*+" (default : Config).flags = .ok alone ∧
      alone.matchesWhole "12x" = true := by
  have hseen : (Pattern.ofTemplate default [(.str "id", "(?>[0-9]+|(a|b)+)x*+")]
      "/\x7bid\x7d/\x7bslug?\x7d").result.toOption.bind (fun pattern =>
        (pattern.match? "/12x/ab").toOption) = some (some [("id", "12x"), ("slug", "ab")]) := by
    decide +kernel
  obtain ⟨pattern, hpattern, hmatch⟩ := Except.exists_ok_of_bind hseen
  have hmatch := Except.eq_ok_of_toOption hmatch
  have hbound : ("id", "12x") ∈ [("id", "12x"), ("slug", "ab")] := List.mem_cons_self
  obtain ⟨regex, hcompile, hwhole⟩ := match?_constrained rfl hpattern hmatch hbound
  have hself : (compile "(?>[0-9]+|(a|b)+)x*+" {}).toOption.map (·.node.selfContained false) =
      some true := by decide +kernel
  have hconstraint : constraintFor default [(.str "id", "(?>[0-9]+|(a|b)+)x*+")] "id" =
      "(?>[0-9]+|(a|b)+)x*+" := by decide +kernel
  rw [hconstraint] at hcompile hwhole
  rw [hcompile] at hself
  obtain ⟨alone, halone, hend⟩ := hwhole (Option.some.inj hself)
  exact ⟨pattern, _, alone, hpattern, hmatch, hbound, halone, hend⟩

-- A path that binds `x` to a text which the constraint of `x` does not match alone.
def BoundUnlike (template constraint path value : String) : Prop :=
  ∃ pattern found alone,
    (Pattern.ofTemplate default [(.str "x", constraint)] template).result = .ok pattern ∧
    pattern.match? path = .ok (some found) ∧ ("x", value) ∈ found ∧
    compile constraint (default : Config).flags = .ok alone ∧ alone.matchesWhole value = false

theorem boundUnlike_of_seen {template constraint path value : String}
    (h : (Pattern.ofTemplate default [(.str "x", constraint)] template).result.toOption.bind
      (fun pattern => (pattern.match? path).toOption.bind fun matched => matched.bind fun found =>
        (compile constraint (default : Config).flags).toOption.bind fun alone =>
          if found.contains ("x", value) && !alone.matchesWhole value then some () else none) =
      some ()) : BoundUnlike template constraint path value := by
  obtain ⟨pattern, hpattern, h⟩ := Except.exists_ok_of_bind h
  obtain ⟨matched, hmatch, h⟩ := Except.exists_ok_of_bind h
  obtain ⟨found, rfl, h⟩ := Option.bind_eq_some_iff.mp h
  obtain ⟨alone, halone, h⟩ := Except.exists_ok_of_bind h
  split at h
  next hunlike =>
    rw [Bool.and_eq_true, List.contains_iff_mem, Bool.not_eq_true'] at hunlike
    exact ⟨pattern, found, alone, hpattern, hmatch, hunlike.1, halone, hunlike.2⟩
  · cases h

-- A constraint may refer to a group by its number, which is another one in the template, or it may
-- settle a part within a part that is settled.
theorem constraint_unlike_alone :
    BoundUnlike "/\x7ba\x7d/\x7bx\x7d" "([xy])\\1" "/x/yx" "yx" ∧
      BoundUnlike "/\x7ba\x7d/\x7bx\x7d" "(x)?(?(1)y|z)" "/k/y" "y" ∧
      BoundUnlike "/\x7bx\x7d" "(?>(?>aabc|a)a|aab)" "/aabc" "aab" := by
  refine ⟨boundUnlike_of_seen ?_, boundUnlike_of_seen ?_, boundUnlike_of_seen ?_⟩
  · decide +kernel
  · decide +kernel
  · decide +kernel

end Template

end Signpost
