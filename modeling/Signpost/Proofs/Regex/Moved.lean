import Mathlib.Data.List.Forall2
import Signpost.Regex.Node

namespace Signpost.Regex

-- The second node is the first one read under the flags `m'` instead of `m`, with its groups
-- counted on from `shift`. None of them comes after the first `groups`. What is known of the
-- widths of groups is left open.
inductive Node.Moved (shift groups : Nat) : Flags → Flags → Node → Node → Prop
  | empty {m m' : Flags} : Moved shift groups m m' .empty .empty
  | one {m m' : Flags} (atom : Atom) : Moved shift groups m m' (.one m atom) (.one m' atom)
  | anchor {m m' : Flags} (kind : Anchor) :
      Moved shift groups m m' (.anchor m kind) (.anchor m' kind)
  | backref {m m' : Flags} (index : Nat) (width width' : Width) :
      Moved shift groups m m' (.backref m index width) (.backref m' index width')
  | seq {m m' : Flags} {first first' second second' : Node}
      (hfirst : Moved shift groups m m' first first')
      (hsecond : Moved shift groups m m' second second') :
      Moved shift groups m m' (.seq first second) (.seq first' second')
  | alt {m m' : Flags} {first first' second second' : Node}
      (hfirst : Moved shift groups m m' first first')
      (hsecond : Moved shift groups m m' second second') :
      Moved shift groups m m' (.alt first second) (.alt first' second')
  | flagged {m m' : Flags} {body body' : Node} (added removed : Flags)
      (hbody : Moved shift groups (m.adjust added removed) (m'.adjust added removed) body body') :
      Moved shift groups m m' (.flagged body) (.flagged body')
  | capture {m m' : Flags} {body body' : Node} (index : Nat) (hpos : 0 < index)
      (hle : index ≤ groups) (hbody : Moved shift groups m m' body body') :
      Moved shift groups m m' (.capture index body) (.capture (shift + index) body')
  | atomic {m m' : Flags} {body body' : Node} (hbody : Moved shift groups m m' body body') :
      Moved shift groups m m' (.atomic body) (.atomic body')
  | repeats {m m' : Flags} {body body' : Node} (greed : Greed) (least : Nat)
      (most : Option Nat) (hbody : Moved shift groups m m' body body') :
      Moved shift groups m m' (.repeats greed least most body) (.repeats greed least most body')
  | look {m m' : Flags} {body body' : Node} (behind negated : Bool)
      (hbody : Moved shift groups m m' body body') :
      Moved shift groups m m' (.look behind negated body) (.look behind negated body')
  | choose {m m' : Flags} {present present' absent absent' : Node} (index : Nat)
      (hpresent : Moved shift groups m m' present present')
      (habsent : Moved shift groups m m' absent absent') :
      Moved shift groups m m' (.choose index present absent) (.choose index present' absent')

namespace Node

variable {shift groups : Nat} {m m' : Flags} {a a' b b' : Node}
  {nodes nodes' row row' : List Node} {rows rows' : List (List Node)}

theorem moved_ofRow (h : List.Forall₂ (Moved shift groups m m') row row') :
    Moved shift groups m m' (ofRow row) (ofRow row') := by
  induction h with
  | nil => exact .empty
  | cons hnode _ ih => exact .seq hnode ih

theorem moved_ofChoices (h : List.Forall₂ (Moved shift groups m m') nodes nodes') :
    Moved shift groups m m' (ofChoices nodes) (ofChoices nodes') := by
  induction h with
  | nil => exact .empty
  | cons hnode hnodes ih =>
      cases hnodes with
      | nil => exact hnode
      | cons => exact .alt hnode ih

-- All steps of a row are read under the same flags, so comparing them compares the rest.
theorem sameStep_moved (ha : Moved shift groups m m' a a') (hb : Moved shift groups m m' b b') :
    sameStep a b = sameStep a' b' := by
  cases ha <;> cases hb <;> simp [sameStep]

theorem setItems?_moved (h : List.Forall₂ (Moved shift groups m m') row row') :
    setItems? row = setItems? row' := by
  cases h with
  | nil => rfl
  | cons hnode hrow =>
      cases hnode with
      | one atom =>
          cases hrow with
          | nil => unfold setItems?; split <;> simp_all
          | cons => simp [setItems?]
      | _ => cases hrow <;> rfl

theorem head?_sameStep_moved (ha : Moved shift groups m m' a a')
    (h : List.Forall₂ (Moved shift groups m m') row row') :
    row.head?.any (sameStep a) = row'.head?.any (sameStep a') := by
  cases h with
  | nil => rfl
  | cons hnode _ => exact sameStep_moved ha hnode

theorem all_sameStep_moved (ha : Moved shift groups m m' a a')
    (h : List.Forall₂ (List.Forall₂ (Moved shift groups m m')) rows rows') :
    (rows.all fun row => row.head?.any (sameStep a)) =
      rows'.all fun row => row.head?.any (sameStep a') := by
  induction h with
  | nil => rfl
  | cons hrow _ ih => simp only [List.all_cons, head?_sameStep_moved ha hrow, ih]

theorem commonSteps_moved (h : List.Forall₂ (Moved shift groups m m') row row')
    (hrows : List.Forall₂ (List.Forall₂ (Moved shift groups m m')) rows rows') :
    List.Forall₂ (Moved shift groups m m') (commonSteps row rows).1 (commonSteps row' rows').1 ∧
      List.Forall₂ (List.Forall₂ (Moved shift groups m m')) (commonSteps row rows).2
        (commonSteps row' rows').2 := by
  induction h generalizing rows rows' with
  | nil => exact ⟨.nil, .cons .nil hrows⟩
  | @cons node node' row row' hnode hrow ih =>
      simp only [commonSteps, all_sameStep_moved hnode hrows]
      split
      · have htails : List.Forall₂ (List.Forall₂ (Moved shift groups m m'))
            (rows.map List.tail) (rows'.map List.tail) := by
          rw [List.forall₂_map_left_iff, List.forall₂_map_right_iff]
          refine hrows.imp fun _ _ h => ?_
          cases h with
          | nil => exact .nil
          | cons _ htail => exact htail
        exact ⟨.cons hnode (ih htails).1, (ih htails).2⟩
      · exact ⟨.nil, .cons (.cons hnode hrow) hrows⟩

theorem mapM_setItems?_moved
    (h : List.Forall₂ (List.Forall₂ (Moved shift groups m m')) rows rows') :
    rows.mapM setItems? = rows'.mapM setItems? := by
  induction h with
  | nil => rfl
  | cons hrow _ ih => simp only [List.mapM_cons, setItems?_moved hrow, ih]

theorem moved_ofRows (h : List.Forall₂ (List.Forall₂ (Moved shift groups m m')) rows rows') :
    List.Forall₂ (Moved shift groups m m') (ofRows m rows) (ofRows m' rows') := by
  cases h with
  | nil => exact .nil
  | cons hrow hrows =>
      cases hrows with
      | nil => exact hrow
      | cons hsecond hrows =>
          obtain ⟨hshared, hrest⟩ := commonSteps_moved hrow (.cons hsecond hrows)
          simp only [ofRows, mapM_setItems?_moved hrest]
          split
          · exact List.rel_append hshared (.cons (.one _) .nil)
          · refine List.rel_append hshared (.cons (moved_ofChoices ?_) .nil)
            rw [List.forall₂_map_left_iff, List.forall₂_map_right_iff]
            exact hrest.imp fun _ _ h => moved_ofRow h

end Node

end Signpost.Regex
