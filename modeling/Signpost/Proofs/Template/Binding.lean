import Signpost.Proofs.Regex.Passage
import Signpost.Proofs.Template.Layout

namespace Signpost.Template

open Signpost.Regex

variable {config : Config} {constraints : Constraints} {mode : Flags} {parts : List Part}
  {items : List Item} {groups index : Nat} {body : Node} {s s' found : Spot}
  {values : List (List Char)} {text : List Char}

-- `values` stand in `text` one after the other, and no two of them share a character.
def InOrder : List (List Char) → List Char → Prop
  | [], _ => True
  | value :: values, text =>
      ∃ before after, text = before ++ value ++ after ∧ InOrder values after

theorem InOrder.after (h : InOrder values text) (front : List Char) :
    InOrder values (front ++ text) := by
  cases values with
  | nil => trivial
  | cons value values =>
      obtain ⟨before, after, rfl, hafter⟩ := h
      exact ⟨front ++ before, after, by simp, hafter⟩

theorem InOrder.before (h : InOrder values text) (more : List Char) :
    InOrder values (text ++ more) := by
  induction values generalizing text with
  | nil => trivial
  | cons value values ih =>
      obtain ⟨before, after, rfl, hafter⟩ := h
      exact ⟨before, after ++ more, by simp, ih hafter⟩

-- What a placeholder is bound to by a match that ends at `found`.
def Item.bound? (found : Spot) : Item → Option (String × List Char)
  | .literal _ => none
  | .slot parameter index _ => (found.captured? index).map (parameter.name, ·)

-- No group after the first `groups` has begun.
def Fresh (groups : Nat) (s : Spot) : Prop :=
  ∀ index, groups < index → s.begun.lookup index = none

theorem Fresh.captured? (h : Fresh groups s) (hindex : groups < index) :
    s.captured? index = none := by
  rw [Spot.captured?, Spot.span?, h index hindex]
  rfl

theorem Fresh.passes {more : Nat} {own : List Nat} (h : Fresh groups s)
    (hpass : s.Passes own text s') (hown : ∀ index ∈ own, index ≤ more) (hmore : groups ≤ more) :
    Fresh more s' := by
  intro index hindex
  have hout : index ∉ own := fun hin => Nat.not_le.mpr hindex (hown index hin)
  rw [hpass.begun index hout]
  exact h index (Nat.lt_of_le_of_lt hmore hindex)

-- A way of the node, wherever it stands, that takes `value` and nothing else.
def Takes (node : Node) (value : List Char) : Prop :=
  ∃ s s', s' ∈ node.ends s ∧ s.ahead = value ++ s'.ahead

theorem mem_ends_slotRow (h : s' ∈ (Node.ofRow (slotRow mode index body)).ends s)
    (hindex : index ∉ body.groups) :
    ∃ before value after, s.Passes (index :: body.groups) (before ++ value ++ after) s' ∧
      s'.captured? index = some value ∧ Takes body value := by
  obtain ⟨s₁, hslash, h⟩ := List.mem_flatMap.mp h
  obtain ⟨s₂, hgroup, h⟩ := List.mem_flatMap.mp h
  obtain ⟨s₃, hstray, h⟩ := List.mem_flatMap.mp h
  obtain rfl : s' = s₃ := List.mem_singleton.mp h
  obtain ⟨before, hbefore⟩ := Node.ends_passes hslash
  obtain ⟨after, hafter⟩ := Node.ends_passes hstray
  obtain ⟨b, hbody, rfl⟩ := List.mem_map.mp hgroup
  obtain ⟨value, hvalue⟩ := Node.ends_passes hbody
  have hnone : [] ⊆ index :: body.groups := List.nil_subset _
  refine ⟨before, value, after, ?_, ?_, s₁.begin index, b, hbody, hvalue.ahead⟩
  · exact ((hbefore.mono hnone).trans (Spot.passes_capture hvalue)).trans (hafter.mono hnone)
  · rw [hafter.captured? List.not_mem_nil]
    exact Spot.captured?_finish hvalue hindex

-- A placeholder takes a value, unless it is optional and passed over.
theorem mem_ends_slotNodes {parameter : Parameter}
    (h : s' ∈ (Node.ofRow (slotNodes mode parameter index body)).ends s)
    (hindex : index ∉ body.groups) :
    (∃ before value after, s.Passes (index :: body.groups) (before ++ value ++ after) s' ∧
      s'.captured? index = some value ∧ Takes body value) ∨
      (parameter.required = false ∧ s' = s) := by
  unfold slotNodes at h
  cases hrequired : parameter.required with
  | true =>
      rw [hrequired, if_pos rfl] at h
      exact .inl (mem_ends_slotRow h hindex)
  | false =>
      rw [hrequired, if_neg (by decide)] at h
      obtain ⟨s₁, hbracket, h⟩ := List.mem_flatMap.mp h
      obtain rfl : s' = s₁ := List.mem_singleton.mp h
      rw [optional, Node.ends_repeats_optional, List.mem_append, List.mem_singleton] at hbracket
      rcases hbracket with hrow | rfl
      · exact .inl (mem_ends_slotRow hrow hindex)
      · exact .inr ⟨rfl, rfl⟩

-- From `s` to `s'` by way of `text`, with marks only for groups after the first `groups`.
def Marks (groups : Nat) (s : Spot) (text : List Char) (s' : Spot) : Prop :=
  ∃ own, s.Passes own text s' ∧ ∀ index ∈ own, groups < index

theorem Marks.captured? (h : Marks groups s text s') (hindex : index ≤ groups) :
    s'.captured? index = s.captured? index := by
  obtain ⟨own, hpass, hown⟩ := h
  exact hpass.captured? fun hin => Nat.not_lt.mpr hindex (hown index hin)

theorem Marks.of_passes {own : List Nat} {more : Nat} {s₁ : Spot} {text' : List Char}
    (hpass : s.Passes own text s₁) (hown : ∀ index ∈ own, groups < index)
    (h : Marks more s₁ text' s') (hmore : groups ≤ more) :
    Marks groups s (text ++ text') s' := by
  obtain ⟨own', hpass', hown'⟩ := h
  refine ⟨own ++ own', ?_, fun index hindex => ?_⟩
  · exact (hpass.mono (List.subset_append_left _ _)).trans
      (hpass'.mono (List.subset_append_right _ _))
  · rcases List.mem_append.mp hindex with hin | hin
    · exact hown index hin
    · exact Nat.lt_of_le_of_lt hmore (hown' index hin)

-- A placeholder is bound to a text that its body takes, or it is optional and not bound.
def Supplied (found : Spot) (parameter : Parameter) (index : Nat) (body : Node) : Prop :=
  (∃ value, found.captured? index = some value ∧ Takes body value) ∨
    (parameter.required = false ∧ found.captured? index = none)

-- A match binds every required placeholder, and its values stand in order.
theorem Laid.captures (h : Laid config constraints mode groups parts items)
    (hfresh : Fresh groups s)
    (hend : found ∈ (Node.ofRow (items.flatMap (Item.nodes mode))).ends s) :
    ∃ text, Marks groups s text found ∧
      InOrder ((items.filterMap (Item.bound? found)).map Prod.snd) text ∧
      ∀ parameter index body, .slot parameter index body ∈ items →
        Supplied found parameter index body := by
  induction h generalizing s with
  | nil =>
      obtain rfl : found = s := List.mem_singleton.mp hend
      exact ⟨[], ⟨[], .refl [] found, by simp⟩, trivial, by simp⟩
  | literal c hlaid ih =>
      obtain ⟨s₁, hchar, hend⟩ := List.mem_flatMap.mp hend
      obtain ⟨c', hpass⟩ := Node.ends_passes hchar
      have hnone : ∀ index ∈ (Node.one mode (.literal c.toNat)).groups, False := by
        simp [Node.groups]
      have hfresh₁ : Fresh _ s₁ :=
        hfresh.passes hpass (fun index hin => (hnone index hin).elim) (Nat.le_refl _)
      obtain ⟨text, htext, horder, hall⟩ := ih hfresh₁ hend
      refine ⟨c' ++ text, ?_, horder.after c', ?_⟩
      · exact .of_passes hpass (fun index hin => (hnone index hin).elim) htext (Nat.le_refl _)
      · intro parameter index body hmem
        exact hall parameter index body (by simpa using hmem)
  | @slot groups parts items regex body slashed parameter hcompile hbody hlaid ih =>
      have hown : ∀ index ∈ (groups + 1) :: body.groups,
          groups < index ∧ index ≤ groups + 1 + regex.groups := by
        intro index hin
        rcases List.mem_cons.mp hin with rfl | hin
        · omega
        · have := hbody.moved.groups index hin
          omega
      have hindex : groups + 1 ∉ body.groups := fun hin => by
        have := hbody.moved.groups _ hin
        omega
      rw [List.flatMap_cons, Node.ends_ofRow_append] at hend
      obtain ⟨s₁, hslot, hend₁⟩ := List.mem_flatMap.mp hend
      rcases mem_ends_slotNodes hslot hindex with
        ⟨before, value, after, hpass, hvalue, htakes⟩ | ⟨hoptional, rfl⟩
      · have hfresh₁ : Fresh (groups + 1 + regex.groups) s₁ :=
          hfresh.passes hpass (fun index hin => (hown index hin).2) (by omega)
        obtain ⟨text, htext, horder, hall⟩ := ih hfresh₁ hend₁
        have hkept : found.captured? (groups + 1) = some value :=
          (htext.captured? (by omega)).trans hvalue
        refine ⟨before ++ value ++ after ++ text, ?_, ?_, ?_⟩
        · exact .of_passes hpass (fun index hin => (hown index hin).1) htext (by omega)
        · simp only [List.filterMap_cons, Item.bound?, hkept, Option.map_some, List.map_cons]
          exact ⟨before, after ++ text, by simp, horder.after after⟩
        · intro other index' body' hmem
          rcases List.mem_cons.mp hmem with hhead | hmem
          · obtain ⟨-, rfl, rfl⟩ := Item.slot.inj hhead
            exact .inl ⟨value, hkept, htakes⟩
          · exact hall other index' body' hmem
      · have hpass : s₁.Passes [] [] s₁ := .refl [] s₁
        obtain ⟨text, htext, horder, hall⟩ := ih (hfresh.passes hpass (by simp) (by omega)) hend₁
        have hkept : found.captured? (groups + 1) = none :=
          (htext.captured? (by omega)).trans (hfresh.captured? (Nat.lt_succ_self groups))
        refine ⟨text, .of_passes hpass (by simp) htext (by omega), ?_, ?_⟩
        · simpa only [List.filterMap_cons, Item.bound?, hkept, Option.map_none] using horder
        · intro other index' body' hmem
          rcases List.mem_cons.mp hmem with hhead | hmem
          · obtain ⟨rfl, rfl, -⟩ := Item.slot.inj hhead
            exact .inr ⟨hoptional, hkept⟩
          · exact hall other index' body' hmem

-- The bindings that a match gives, in the order of the template.
def bindings (items : List Item) (found : Spot) : Bindings :=
  (items.filterMap (Item.bound? found)).map fun (name, value) => (name, String.ofList value)

theorem Laid.keys_sublist (h : Laid config constraints mode groups parts items) (found : Spot) :
    (Entries.keys (bindings items found)).Sublist ((slots parts).map (·.name)) := by
  induction h with
  | nil => exact .slnil
  | literal c _ ih => exact ih
  | @slot groups parts items regex body slashed parameter _ _ _ ih =>
      simp only [bindings, List.filterMap_cons, Item.bound?]
      cases found.captured? (groups + 1) with
      | none => exact ih.cons _
      | some value => exact ih.cons_cons _

theorem Laid.names_eq (h : Laid config constraints mode groups parts items) :
    (items.filterMap Item.name?).map Prod.fst = (slots parts).map (·.name) := by
  induction h with
  | nil => rfl
  | literal c _ ih => exact ih
  | slot slashed parameter _ _ _ ih => exact congrArg (parameter.name :: ·) ih

theorem lookup_of_nodup {names : List (String × Nat)} (hnodup : (names.map Prod.fst).Nodup)
    {name : String} (h : (name, index) ∈ names) : names.lookup name = some index := by
  induction names with
  | nil => simp at h
  | cons entry names ih =>
      rw [List.map_cons, List.nodup_cons] at hnodup
      rcases List.mem_cons.mp h with rfl | hrest
      · exact List.lookup_cons_self
      · have hne : (name == entry.1) = false := by
          rw [beq_eq_false_iff_ne]
          rintro rfl
          exact hnodup.1 (List.mem_map.mpr ⟨_, hrest, rfl⟩)
        rw [List.lookup_cons, hne]
        exact ih hnodup.2 hrest

-- Binding parameter by parameter gives the bindings of the items.
theorem Laid.mapM_bind? {bind? : Parameter → Except Error (Option (String × String))}
    (h : Laid config constraints mode groups parts items)
    (hbind : ∀ parameter index body, .slot parameter index body ∈ items → bind? parameter =
      .ok ((found.captured? index).map fun value => (parameter.name, String.ofList value))) :
    ∃ bound, (slots parts).mapM bind? = .ok bound ∧ bound.filterMap id = bindings items found := by
  induction h with
  | nil => exact ⟨[], rfl, rfl⟩
  | literal c _ ih =>
      exact ih fun parameter index body hmem =>
        hbind parameter index body (List.mem_cons_of_mem _ hmem)
  | @slot groups parts items regex body slashed parameter _ _ _ ih =>
      obtain ⟨bound, hmap, hbound⟩ := ih fun other index body hmem =>
        hbind other index body (List.mem_cons_of_mem _ hmem)
      have hfirst := hbind parameter (groups + 1) body List.mem_cons_self
      refine ⟨(found.captured? (groups + 1)).map
        (fun value => (parameter.name, String.ofList value)) :: bound, ?_, ?_⟩
      · have hslots : slots (.slot slashed parameter :: parts) = parameter :: slots parts := rfl
        rw [hslots, List.mapM_cons, hfirst, Except.bind_ok, hmap]
        rfl
      · simp only [bindings, List.filterMap_cons, Item.bound?] at hbound ⊢
        cases found.captured? (groups + 1) with
        | none => exact hbound
        | some value => exact congrArg ((parameter.name, String.ofList value) :: ·) hbound

-- A whole pattern matches its items from the start on, and the end of the subject after them.
theorem ends_wholeNode (mode : Flags) (items : List Item) (subject : List Char) :
    (wholeNode mode items).ends (.start subject) =
      ((Node.ofRow (items.flatMap (Item.nodes mode))).ends (.start subject)).flatMap
        (Node.ofRow [slash mode, .anchor mode .textEnd]).ends := by
  have hstart : (Node.anchor mode .lineStart).ends (.start subject) = [.start subject] := by
    simp [Node.ends, Anchor.holds, Spot.start]
  rw [wholeNode, List.cons_append, Node.ofRow, Node.ends, hstart, List.flatMap_singleton,
    Node.ends_ofRow_append]

theorem bound?_passes (h : s.Passes [] text s') : Item.bound? s' = Item.bound? s := by
  funext item
  cases item with
  | literal c => rfl
  | slot parameter index body => simp only [Item.bound?, h.captured? List.not_mem_nil]

variable {template path : String} {pattern : Pattern}

-- What a match of the whole pattern took.
theorem Compiled.supplied (h : Compiled config constraints template parts items pattern)
    (hfound : pattern.regex.match? path = some found) :
    InOrder ((items.filterMap (Item.bound? found)).map Prod.snd) path.toList ∧
      ∀ parameter index body, .slot parameter index body ∈ items →
        Supplied found parameter index body := by
  have hend := List.mem_of_head? ((match?_eq_head? pattern.regex path).symm.trans hfound)
  rw [h.node, ends_wholeNode] at hend
  obtain ⟨s, hitems, hend⟩ := List.mem_flatMap.mp hend
  obtain ⟨after, hafter⟩ := Node.ends_passes hend
  have hfresh : Fresh 0 (.start path.toList) := fun _ _ => rfl
  obtain ⟨text, htext, horder, hall⟩ := h.laid.captures hfresh hitems
  obtain ⟨own, hpass, -⟩ := htext
  have hpath : path.toList = text ++ s.ahead := hpass.ahead
  refine ⟨?_, fun parameter index body hmem => ?_⟩
  · rw [bound?_passes hafter, hpath]
    exact horder.before s.ahead
  · rw [Supplied, hafter.captured? List.not_mem_nil]
    exact hall parameter index body hmem

theorem Compiled.captures (h : Compiled config constraints template parts items pattern)
    (hfound : pattern.regex.match? path = some found) :
    InOrder ((items.filterMap (Item.bound? found)).map Prod.snd) path.toList ∧
      ∀ parameter index body, .slot parameter index body ∈ items → parameter.required →
        ∃ value, found.captured? index = some value := by
  obtain ⟨horder, hsupplied⟩ := h.supplied hfound
  refine ⟨horder, fun parameter index body hmem hrequired => ?_⟩
  rcases hsupplied parameter index body hmem with ⟨value, hvalue, -⟩ | ⟨hoptional, -⟩
  · exact ⟨value, hvalue⟩
  · rw [hoptional] at hrequired
    exact absurd hrequired (by decide)

-- Matching a path never fails. It gives the bindings of the first way the pattern matches.
theorem Compiled.match?_eq (h : Compiled config constraints template parts items pattern)
    (path : String) :
    pattern.match? path = .ok ((pattern.regex.match? path).map (bindings items)) := by
  unfold Pattern.match?
  cases hfound : pattern.regex.match? path with
  | none => rfl
  | some found =>
      have hnodup : (pattern.regex.names.map Prod.fst).Nodup := by
        rw [h.names, h.laid.names_eq, ← h.parameters]
        exact h.sound.names
      have hbind : ∀ parameter index body, .slot parameter index body ∈ items →
          Pattern.bind? pattern.regex found parameter =
            .ok ((found.captured? index).map fun value =>
              (parameter.name, String.ofList value)) := by
        intro parameter index body hmem
        have hname : (parameter.name, index) ∈ pattern.regex.names := by
          rw [h.names]
          exact List.mem_filterMap.mpr ⟨_, hmem, rfl⟩
        have hindex : pattern.regex.index? parameter.name = some index :=
          lookup_of_nodup hnodup hname
        unfold Pattern.bind?
        rw [hindex]
        cases hvalue : found.captured? index with
        | some value => simp [hvalue]
        | none =>
            cases hrequired : parameter.required with
            | false => simp [hvalue]
            | true =>
                obtain ⟨value, hsome⟩ := (h.captures hfound).2 parameter index body hmem hrequired
                rw [hvalue] at hsome
                exact absurd hsome (by simp)
      obtain ⟨bound, hmap, hbound⟩ := h.laid.mapM_bind? hbind
      have hdistinct : Entries.Distinct (bindings items found) := by
        rw [Entries.distinct_iff_keys]
        refine List.Pairwise.imp (fun hne => beq_eq_false_iff_ne.mpr hne) ?_
        exact (h.laid.keys_sublist found).nodup (h.parameters ▸ h.sound.names)
      rw [h.parameters]
      dsimp only
      rw [hmap, Except.bind_ok, hbound, Entries.ofList_of_distinct hdistinct]
      rfl

end Signpost.Template
