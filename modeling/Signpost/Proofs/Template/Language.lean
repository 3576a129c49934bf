import Signpost.Proofs.Template.Choice

namespace Signpost.Template

open Signpost.Regex

variable {regex : Regex} {rule : Rule}

-- One or more characters of a set.
def someNode (items : List SetItem) : Node :=
  .ofRow [.repeats .greedy 1 none (.one {} (.set false items))]

def hexItems : List SetItem := [.range 48 57, .range 97 102, .range 65 70]

def hexNode (count : Nat) : Node :=
  .repeats .greedy count (some count) (.one {} (.set false hexItems))

def hyphenNode : Node := .one {} (.literal '-'.toNat)

def uuidNode : Node := .ofRow (([8, 4, 4, 4, 12].map hexNode).intersperse hyphenNode)

theorem node_of_compile {text : String} {node : Node}
    (hnode : (compile text {}).map (·.node) = .ok node) (h : compile text {} = .ok regex) :
    regex.node = node := by
  rw [h] at hnode
  exact Except.ok.inj hnode

theorem compile_plain : (compile "[\\w-]+" {}).map (·.node) =
    .ok (someNode [.category .word false, .single 45]) := by
  decide +kernel

theorem compile_number : (compile Route.numberPattern {}).map (·.node) =
    .ok (someNode [.range 48 57]) := by
  decide +kernel

theorem compile_alpha : (compile Route.alphaPattern {}).map (·.node) =
    .ok (someNode [.range 97 122, .range 65 90]) := by
  decide +kernel

theorem compile_alphaNumeric : (compile Route.alphaNumericPattern {}).map (·.node) =
    .ok (someNode [.range 97 122, .range 65 90, .range 48 57]) := by
  decide +kernel

theorem compile_uuid : (compile Route.uuidPattern {}).map (·.node) = .ok uuidNode := by
  decide +kernel

theorem ends_someNode {items : List SetItem} {p : Char → Bool}
    (hitems : ∀ c, items.any (·.holds false c) = p c) (s : Spot) :
    (someNode items).ends s = (someRuns p s.ahead).map s.pass := by
  have haccepts : (fun c => (Atom.set false items).accepts {} c) = p := by
    funext c
    simp [Atom.accepts, acceptsItems, hitems]
  rw [someNode, Node.ofRow, Node.ends]
  simp only [ends_repeats_some, haccepts]
  exact List.flatMap_singleton' _

theorem holds_digit (c : Char) : [SetItem.range 48 57].any (·.holds false c) = c.isDigit := by
  have hrange : (SetItem.range 48 57).holds false c = c.isDigit := rfl
  rw [List.any_cons, List.any_nil, Bool.or_false, hrange]

theorem holds_alpha (c : Char) :
    [SetItem.range 97 122, .range 65 90].any (·.holds false c) = c.isAlpha := by
  have hlower : (SetItem.range 97 122).holds false c = c.isLower := rfl
  have hupper : (SetItem.range 65 90).holds false c = c.isUpper := by
    change _ = decide (c.val ≥ 'A'.val ∧ c.val ≤ 'Z'.val)
    rw [Bool.decide_and]
    rfl
  rw [List.any_cons, List.any_cons, List.any_nil, Bool.or_false, hlower, hupper, Bool.or_comm]
  rfl

theorem holds_alphaNumeric (c : Char) :
    [SetItem.range 97 122, .range 65 90, .range 48 57].any (·.holds false c) = c.isAlphanum := by
  rw [Char.isAlphanum, ← holds_alpha, ← holds_digit]
  simp only [List.any_cons, List.any_nil, Bool.or_false, Bool.or_assoc]

theorem holds_hex (c : Char) : hexItems.any (·.holds false c) = Rule.hexChar c := by
  have hdigit : (SetItem.range 48 57).holds false c = c.isDigit := rfl
  have hlower : (SetItem.range 97 102).holds false c = (decide ('a' ≤ c) && decide (c ≤ 'f')) := rfl
  have hupper : (SetItem.range 65 70).holds false c = (decide ('A' ≤ c) && decide (c ≤ 'F')) := rfl
  rw [hexItems, List.any_cons, List.any_cons, List.any_cons, List.any_nil, Bool.or_false, hdigit,
    hlower, hupper, Rule.hexChar, Bool.or_assoc]

theorem holds_plain (c : Char) :
    [SetItem.category .word false, .single 45].any (·.holds false c) = Rule.plainChar c := by
  have hhyphen : (SetItem.single 45).holds false c = (c == '-') := by
    change (c.toNat == '-'.toNat) = (c == '-')
    rw [Bool.eq_iff_iff, beq_iff_eq, beq_iff_eq]
    exact Char.toNat_inj
  have hword : (SetItem.category .word false).holds false c = Text.isWord c := by
    simp [SetItem.holds, Category.holds]
  rw [List.any_cons, List.any_cons, List.any_nil, Bool.or_false, hword, hhyphen, Rule.plainChar]

theorem ends_ofRow_along {row : List Node} {shapes : List (List (Char → Bool))}
    (h : List.Forall₂ (fun node shape => node.ends = endsAlong shape) row shapes) :
    (Node.ofRow row).ends = endsAlong shapes.flatten := by
  induction h with
  | nil => rfl
  | cons hnode _ ih =>
      funext s
      rw [Node.ofRow, Node.ends, hnode, ih, List.flatten_cons, endsAlong_append]

theorem ends_uuidNode : uuidNode.ends = endsAlong Rule.uuidShape := by
  have hhex (count : Nat) :
      (hexNode count).ends = endsAlong (List.replicate count Rule.hexChar) := by
    have haccepts : (fun c => (Atom.set false hexItems).accepts {} c) = Rule.hexChar := by
      funext c
      simp [Atom.accepts, acceptsItems, holds_hex]
    rw [hexNode, ends_repeats_count, haccepts]
  have hhyphen : hyphenNode.ends = endsAlong [(· == '-')] := by
    rw [hyphenNode, ends_one]
    congr 2
    funext c
    exact accepts_literal rfl '-' c
  refine ends_ofRow_along ?_
  exact .cons (hhex 8) (.cons hhyphen (.cons (hhex 4) (.cons hhyphen (.cons (hhex 4)
    (.cons hhyphen (.cons (hhex 4) (.cons hhyphen (.cons (hhex 12) .nil))))))))

-- A constraint matches the values of its language at the front of what lies ahead, best first.
theorem Rule.ends_compile (hstated : rule.Stated) (h : compile rule.text {} = .ok regex) :
    regex.node.simple = true ∧
      ∀ s, List.Alike (regex.node.ends s) ((rule.prefixes s.ahead).map s.pass) := by
  cases rule with
  | plain =>
      rw [node_of_compile compile_plain h]
      exact ⟨rfl, fun s => .of_eq (ends_someNode holds_plain s)⟩
  | number =>
      rw [node_of_compile compile_number h]
      exact ⟨rfl, fun s => .of_eq (ends_someNode holds_digit s)⟩
  | alpha =>
      rw [node_of_compile compile_alpha h]
      exact ⟨rfl, fun s => .of_eq (ends_someNode holds_alpha s)⟩
  | alphaNumeric =>
      rw [node_of_compile compile_alphaNumeric h]
      exact ⟨rfl, fun s => .of_eq (ends_someNode holds_alphaNumeric s)⟩
  | uuid =>
      rw [node_of_compile compile_uuid h]
      refine ⟨rfl, fun s => .of_eq ?_⟩
      rw [ends_uuidNode, endsAlong_eq, Rule.prefixes]
      split <;> rfl
  | among choices =>
      have hnode : regex.node = .ofRow (Node.ofRows {}
          ((choices.map String.toList).map (literals {}))) := by
        rw [List.map_map]
        exact node_of_choicePattern hstated.1 h
      rw [hnode]
      have hne : choices.map String.toList ≠ [] := by simpa using hstated.1
      exact ⟨simple_ofRows {} _, alike_ends_ofRows rfl hne⟩

end Signpost.Template
