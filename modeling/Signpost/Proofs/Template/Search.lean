import Signpost.Proofs.Template.Binding
import Signpost.Proofs.Template.Language
import Signpost.Proofs.Template.Trial

namespace Signpost.Template

open Signpost.Regex

variable {config : Config} {constraints : Constraints} {mode : Flags} {rules : String → Rule}
  {parts : List Part} {items : List Item} {fills : List (Option Fill)} {close : Bool}
  {groups index : Nat} {body : Node} {s : Spot}

theorem endsAlong_char (c : Char) (s : Spot) :
    endsAlong [(· == c)] s = if s.ahead.head? = some c then [s.pass [c]] else [] := by
  split
  next hhead =>
    obtain ⟨rest, hahead⟩ := List.head?_eq_some_iff.mp hhead
    exact endsAlong_take hahead (by simp)
  next hhead =>
    refine endsAlong_miss fun d hd => ?_
    rw [beq_eq_false_iff_ne]
    rintro rfl
    exact hhead hd

theorem ends_literal (hcase : mode.ignoreCase = false) (c : Char) (s : Spot) :
    (Node.one mode (.literal c.toNat)).ends s =
      if s.ahead.head? = some c then [s.pass [c]] else [] := by
  have haccepts : (fun d => (Atom.literal c.toNat).accepts mode d) = fun d => d == c := by
    funext d
    exact accepts_literal hcase c d
  rw [ends_one, haccepts, endsAlong_char]

theorem ends_slash (mode : Flags) (s : Spot) :
    (slash mode).ends s = (slashes s.ahead).map fun taken => s.pass (slashText taken) := by
  have haccepts : (fun d => (Atom.literal '/'.toNat).accepts mode d) = fun d => d == '/' := by
    funext d
    exact accepts_slash mode d
  rw [slash, optional, Node.ends_repeats_optional, ends_one, haccepts, endsAlong_char]
  unfold slashes
  split
  next hhead =>
    obtain ⟨rest, hahead⟩ := List.head?_eq_some_iff.mp hhead
    simp [hahead, slashText]
  next hhead =>
    split
    next rest hahead => simp [hahead] at hhead
    · simp [slashText]

theorem ends_stray (mode : Flags) (s : Spot) :
    (stray mode).ends s = (strays s.ahead).map fun taken => s.pass taken.toList := by
  have haccepts : (fun d => (Atom.other '/'.toNat).accepts mode d) = fun d => !(d == '/') := by
    funext d
    exact congrArg (!·) (accepts_slash mode d)
  rw [stray, optional, Node.ends_repeats_optional, ends_one, haccepts]
  cases hahead : s.ahead with
  | nil =>
      rw [endsAlong_miss (by simp [hahead])]
      simp [strays]
  | cons c rest =>
      by_cases hc : c = '/'
      · rw [endsAlong_miss (by simp [hahead, hc])]
        simp [strays, hc]
      · rw [endsAlong_take hahead (by simp [hc])]
        simp [strays, hc]

-- The spot behind a placeholder that was filled.
def Fill.pass (fill : Fill) (index : Nat) (s : Spot) : Spot :=
  ((((s.pass (slashText fill.slash)).begin index).pass fill.value).finish index).pass
    fill.stray.toList

@[simp] theorem Fill.pass_ahead (fill : Fill) (index : Nat) (s : Spot) :
    (fill.pass index s).ahead = s.ahead.drop fill.text.length := by
  simp [Fill.pass, Fill.text, Spot.begin, Spot.finish, Spot.pass, List.drop_drop, Nat.add_assoc]

-- The spot behind all items, each filled or left out.
def passAll : List Item → List (Option Fill) → Spot → Spot
  | .literal c :: items, fills, s => passAll items fills (s.pass [c])
  | .slot _ index _ :: items, some fill :: fills, s => passAll items fills (fill.pass index s)
  | .slot _ _ _ :: items, none :: fills, s => passAll items fills s
  | _, _, s => s

-- The node of a constraint matches the values of a rule.
def Follows (rule : Rule) (body : Node) : Prop :=
  ∀ s, List.Alike (body.ends s) ((rule.prefixes s.ahead).map s.pass)

theorem alike_ends_slotRow {rule : Rule} (mode : Flags) (hbody : Follows rule body) (index : Nat)
    (s : Spot) :
    List.Alike ((Node.ofRow (slotRow mode index body)).ends s)
      ((rule.fills s.ahead).map fun fill => fill.pass index s) := by
  have hstray (s : Spot) : (Node.ofRow [stray mode]).ends s =
      (strays s.ahead).map fun taken => s.pass taken.toList := by
    rw [Node.ofRow, Node.ends, ends_stray]
    exact List.flatMap_singleton' _
  have hgroup (s : Spot) : List.Alike ((Node.capture index body).ends s)
      ((rule.prefixes s.ahead).map fun value => ((s.begin index).pass value).finish index) := by
    rw [Node.ends]
    have h := (hbody (s.begin index)).map (·.finish index)
    rw [List.map_map] at h
    exact h
  rw [slotRow, Node.ofRow, Node.ends, ends_slash]
  simp only [Rule.fills, List.flatMap_map, List.map_flatMap, List.map_map]
  refine (List.Alike.refl _).flatMap fun taken => ?_
  rw [Node.ofRow, Node.ends]
  have h := (hgroup (s.pass (slashText taken))).flatMap fun s => List.Alike.of_eq (hstray s)
  rw [List.flatMap_map] at h
  exact h

theorem alike_ends_slotNodes {rule : Rule} (mode : Flags) (hbody : Follows rule body)
    (parameter : Parameter) (index : Nat) (s : Spot) :
    List.Alike ((Node.ofRow (slotNodes mode parameter index body)).ends s)
      (((rule.fills s.ahead).map fun fill => fill.pass index s) ++
        if parameter.required then [] else [s]) := by
  have hrow := alike_ends_slotRow mode hbody index s
  unfold slotNodes
  cases parameter.required with
  | true =>
      rw [if_pos rfl, if_pos rfl, List.append_nil]
      exact hrow
  | false =>
      rw [if_neg (by decide), if_neg (by decide), Node.ofRow, Node.ends]
      have hnil : (Node.ofRow []).ends = fun s' => [s'] := rfl
      rw [hnil, List.flatMap_singleton', optional, Node.ends_repeats_optional]
      exact hrow.append (.refl [s])

-- After the last part there may be a slash.
theorem ends_close (mode : Flags) (s : Spot) :
    (Node.ofRow [slash mode, .anchor mode .textEnd]).ends s =
      (closes s.ahead).map fun close => s.pass (slashText close) := by
  have hlast (s' : Spot) : (Node.ofRow [.anchor mode .textEnd]).ends s' =
      if s'.ahead = [] then [s'] else [] := by
    simp only [Node.ofRow, Node.ends, Anchor.holds, List.isEmpty_iff]
    split <;> simp
  rw [Node.ofRow, Node.ends, ends_slash]
  simp only [hlast, List.flatMap_map, closes]
  cases hahead : s.ahead with
  | nil => simp [slashes, slashText, hahead]
  | cons c rest =>
      by_cases hc : c = '/'
      · subst hc
        cases rest <;> simp [slashes, slashText, hahead]
      · have hone : slashes (c :: rest) = [false] := by
          unfold slashes
          split
          next h => exact absurd (List.cons.inj h).1 hc
          · rfl
        simp [hone, slashText, hahead, hc]

-- The constraint of each placeholder is the one that its rule states.
def Governed (config : Config) (constraints : Constraints) (rules : String → Rule)
    (parameters : List Parameter) : Prop :=
  ∀ parameter ∈ parameters,
    constraintFor config constraints parameter.name = (rules parameter.name).text ∧
      (rules parameter.name).Stated

theorem governed_of_stated {parameters : List Parameter}
    (hdefault : config.defaultPattern = "[\\w-]+")
    (h : ∀ parameter ∈ parameters,
      Entries.get? constraints (.str parameter.name) = (rules parameter.name).constraint? ∧
        (rules parameter.name).Stated) :
    Governed config constraints rules parameters := by
  intro parameter hmem
  obtain ⟨hconstraint, hstated⟩ := h parameter hmem
  refine ⟨?_, hstated⟩
  rw [constraintFor, hconstraint, hdefault, Rule.text]

theorem follows_of_moved {rule : Rule} {regex : Regex} (hcase : mode.ignoreCase = false)
    (hascii : mode.ascii = false) (hstated : rule.Stated)
    (hcompile : compile rule.text {} = .ok regex)
    (hbody : Node.Moved index regex.groups {} mode regex.node body) : Follows rule body := by
  obtain ⟨hsimple, hends⟩ := Rule.ends_compile hstated hcompile
  intro s
  rw [hbody.ends_eq hsimple hcase.symm hascii.symm]
  exact hends s

-- Searching what the parts of a template compile to is going through the trials.
theorem Laid.alike_trials (h : Laid config constraints mode groups parts items)
    (hcase : mode.ignoreCase = false) (hascii : mode.ascii = false)
    (hgoverned : Governed config constraints rules (slots parts)) (s : Spot) :
    List.Alike
      ((Node.ofRow (items.flatMap (Item.nodes mode) ++
        [slash mode, .anchor mode .textEnd])).ends s)
      ((trials rules parts s.ahead).map fun trial =>
        (passAll items trial.1 s).pass (slashText trial.2)) := by
  induction h generalizing s with
  | nil =>
      rw [trials, List.map_map]
      exact .of_eq (ends_close mode s)
  | literal c _ ih =>
      rw [List.flatMap_cons, Item.nodes, List.append_assoc, List.singleton_append, Node.ofRow,
        Node.ends, ends_literal hcase, trials]
      split
      · have h := ih hgoverned (s.pass [c])
        rw [Spot.pass_ahead, List.length_singleton, List.drop_one] at h
        rw [List.flatMap_singleton]
        exact h
      · exact .refl []
  | @slot groups parts items regex body slashed parameter hcompile hbody _ ih =>
      obtain ⟨htext, hstated⟩ := hgoverned parameter List.mem_cons_self
      rw [htext] at hcompile
      have hfollows := follows_of_moved hcase hascii hstated hcompile hbody.moved
      have hrest (s' : Spot) := ih (fun other hother =>
        hgoverned other (List.mem_cons_of_mem _ hother)) s'
      rw [List.flatMap_cons, List.append_assoc, Node.ends_ofRow_append, Item.nodes]
      have h := (alike_ends_slotNodes mode hfollows parameter (groups + 1) s).flatMap hrest
      rw [List.flatMap_append, List.flatMap_map] at h
      rw [trials, List.map_append, List.map_flatMap]
      simp only [Fill.pass_ahead] at h
      cases hrequired : parameter.required with
      | true =>
          simp only [hrequired, if_true, List.flatMap_nil, List.map_map] at h ⊢
          exact h
      | false =>
          simp only [hrequired, Bool.false_eq_true, if_false, List.flatMap_singleton,
            List.map_map] at h ⊢
          exact h

theorem passes_pass {text : List Char} (h : text <+: s.ahead) : s.Passes [] text (s.pass text) where
  behind := rfl
  ahead := by
    obtain ⟨rest, hrest⟩ := h
    rw [Spot.pass_ahead, ← hrest, List.drop_left]
  begun _ _ := rfl
  ended _ _ := rfl

theorem passes_fill {fill : Fill} (h : fill.text <+: s.ahead) (index : Nat) :
    s.Passes [index] fill.text (fill.pass index s) ∧
      (fill.pass index s).captured? index = some fill.value := by
  rw [Fill.text, List.append_assoc, append_prefix_iff, append_prefix_iff] at h
  obtain ⟨hslash, hvalue, hstray⟩ := h
  have hnone : ([] : List Nat) ⊆ [index] := List.nil_subset _
  have hbefore := passes_pass hslash
  have htaken : Spot.Passes [] ((s.pass (slashText fill.slash)).begin index) fill.value
      (((s.pass (slashText fill.slash)).begin index).pass fill.value) := passes_pass hvalue
  have hafter : Spot.Passes [] ((((s.pass (slashText fill.slash)).begin index).pass
      fill.value).finish index) fill.stray.toList (fill.pass index s) := passes_pass hstray
  constructor
  · exact ((hbefore.mono hnone).trans (Spot.passes_capture htaken)).trans (hafter.mono hnone)
  · rw [hafter.captured? List.not_mem_nil]
    exact Spot.captured?_finish htaken List.not_mem_nil

-- What a split fills in is what the placeholders are bound to.
theorem Laid.bindings_passAll (h : Laid config constraints mode groups parts items)
    (hfresh : Fresh groups s) (hsplit : Splits rules parts fills close s.ahead) :
    (∃ text, Marks groups s text (passAll items fills s)) ∧
      (passAll items fills s).ahead = slashText close ∧
      bindings items (passAll items fills s) = bound parts fills := by
  induction h generalizing s fills with
  | nil =>
      generalize hahead : s.ahead = path at hsplit
      cases hsplit
      exact ⟨⟨[], [], .refl [] s, by simp⟩, hahead, rfl⟩
  | @literal groups parts items c _ ih =>
      generalize hahead : s.ahead = path at hsplit
      cases hsplit with
      | literal _ hrest =>
          have hpass : s.Passes [] [c] (s.pass [c]) := passes_pass (by simp [hahead])
          have hrest : Splits rules parts fills close (s.pass [c]).ahead := by
            rwa [Spot.pass_ahead, hahead]
          obtain ⟨⟨text, hmarks⟩, hend, hbound⟩ :=
            ih (hfresh.passes hpass (by simp) (Nat.le_refl _)) hrest
          exact ⟨⟨_, .of_passes hpass (by simp) hmarks (Nat.le_refl _)⟩, hend, hbound⟩
  | @slot groups parts items regex body slashed parameter _ _ _ ih =>
      generalize hahead : s.ahead = path at hsplit
      cases hsplit with
      | @filled _ fills _ rest _ _ fill hvalue hstray hrest =>
          have hfront : fill.text <+: s.ahead := hahead ▸ List.prefix_append _ _
          obtain ⟨hpass, htaken⟩ := passes_fill hfront (groups + 1)
          have hrest : Splits rules parts fills close (fill.pass (groups + 1) s).ahead := by
            rwa [Fill.pass_ahead, hahead, List.drop_left]
          have hmore : ∀ index ∈ [groups + 1], index ≤ groups + 1 + regex.groups := by
            simp
          obtain ⟨⟨text, hmarks⟩, hend, hbound⟩ := ih (hfresh.passes hpass hmore (by omega)) hrest
          have hkept : (passAll items fills (fill.pass (groups + 1) s)).captured? (groups + 1) =
              some fill.value := (hmarks.captured? (by omega)).trans htaken
          refine ⟨⟨_, .of_passes hpass (by simp) hmarks (by omega)⟩, hend, ?_⟩
          simp only [bindings, passAll, List.filterMap_cons, Item.bound?, hkept] at hbound ⊢
          exact congrArg ((parameter.name, String.ofList fill.value) :: ·) hbound
      | @omitted _ fills _ _ _ _ hoptional hrest =>
          rw [← hahead] at hrest
          obtain ⟨⟨text, hmarks⟩, hend, hbound⟩ :=
            ih (hfresh.passes (.refl [] s) (by simp) (by omega)) hrest
          have hkept : (passAll items fills s).captured? (groups + 1) = none := by
            rw [hmarks.captured? (by omega)]
            exact hfresh.captured? (Nat.lt_succ_self groups)
          refine ⟨⟨_, .of_passes (.refl [] s) (by simp) hmarks (by omega)⟩, hend, ?_⟩
          simp only [bindings, passAll, List.filterMap_cons, Item.bound?, hkept] at hbound ⊢
          exact hbound

variable {template path : String} {pattern : Pattern}

-- A path is bound as the first of its trials says.
theorem Compiled.match?_eq_trials (h : Compiled config constraints template parts items pattern)
    (hcase : config.caseSensitive = true)
    (hgoverned : Governed config constraints rules (slots parts)) (path : String) :
    pattern.match? path =
      .ok ((trials rules parts path.toList).head?.map fun trial => bound parts trial.1) := by
  have hmode : config.flags.ignoreCase = false := by simp [Config.flags, hcase]
  have halike := h.laid.alike_trials hmode rfl hgoverned (.start path.toList)
  have hstart : (Spot.start path.toList).ahead = path.toList := rfl
  have hhead := halike.head?_eq
  rw [hstart, List.head?_map] at hhead
  rw [h.match?_eq, match?_eq_head?, h.node, ends_wholeNode, ← Node.ends_ofRow_append, hhead]
  cases htrial : (trials rules parts path.toList).head? with
  | none => rfl
  | some trial =>
      have hsplit := splits_of_mem_trials (List.mem_of_head? htrial)
      have hfresh : Fresh 0 (.start path.toList) := fun _ _ => rfl
      obtain ⟨-, hend, hbound⟩ := h.laid.bindings_passAll hfresh hsplit
      have hlast : Spot.Passes [] (passAll items trial.1 (.start path.toList))
          (slashText trial.2) _ := passes_pass (hend ▸ List.prefix_rfl)
      simp only [Option.map_some, bindings, bound?_passes hlast]
      exact congrArg (Except.ok ∘ some) hbound

end Signpost.Template
