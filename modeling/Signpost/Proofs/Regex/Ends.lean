import Signpost.Regex

namespace List

theorem findSome?_flatMap {α β γ : Type} (l : List α) (f : α → List β) (g : β → Option γ) :
    (l.flatMap f).findSome? g = l.findSome? fun a => (f a).findSome? g := by
  induction l with
  | nil => rfl
  | cons a l ih =>
      rw [flatMap_cons, findSome?_append, ih, findSome?_cons]
      cases (f a).findSome? g <;> rfl

theorem findSome?_some_eq_head? {α : Type} (l : List α) : l.findSome? some = l.head? := by
  cases l <;> rfl

theorem findSome?_toList {α β : Type} (a : Option α) (f : α → Option β) :
    a.toList.findSome? f = a.bind f := by
  cases a with
  | none => rfl
  | some a => simp

end List

namespace Signpost.Regex

abbrev Ends := Spot → List Spot

def endsExactly (body : Ends) : Nat → Ends
  | 0, s => [s]
  | count + 1, s => (body s).flatMap (endsExactly body count)

def endsUpTo (greedy : Bool) (body : Ends) : Nat → Ends
  | 0, s => [s]
  | count + 1, s =>
      let more := (body s).flatMap fun s' =>
        if s'.offset = s.offset then [s'] else endsUpTo greedy body count s'
      if greedy then more ++ [s] else s :: more

-- One round more: it ends where it began, or where a round of the body leads.
theorem mem_endsUpTo_succ {greedy : Bool} {body : Ends} {count : Nat} {s s' : Spot} :
    s' ∈ endsUpTo greedy body (count + 1) s ↔
      s' = s ∨ ∃ s₁ ∈ body s, if s₁.offset = s.offset then s' = s₁ else
        s' ∈ endsUpTo greedy body count s₁ := by
  have hmore : s' ∈ ((body s).flatMap fun s₁ =>
        if s₁.offset = s.offset then [s₁] else endsUpTo greedy body count s₁) ↔
      ∃ s₁ ∈ body s, if s₁.offset = s.offset then s' = s₁ else
        s' ∈ endsUpTo greedy body count s₁ := by
    rw [List.mem_flatMap]
    refine exists_congr fun s₁ => and_congr_right fun _ => ?_
    split
    · exact List.mem_singleton
    · exact Iff.rfl
  simp only [endsUpTo]
  split
  · rw [List.mem_append, List.mem_singleton, hmore, or_comm]
  · rw [List.mem_cons, hmore]

def firstExactly (body : Ends) : Nat → Spot → Option Spot
  | 0, s => some s
  | count + 1, s => (body s).head?.bind (firstExactly body count)

def firstUpTo (body : Ends) : Nat → Spot → Spot
  | 0, s => s
  | count + 1, s =>
      match (body s).head? with
      | none => s
      | some s' => if s'.offset = s.offset then s' else firstUpTo body count s'

namespace Node

def ends : Node → Ends
  | .empty, s => [s]
  | .one mode atom, s => (s.step? (atom.accepts mode ·)).toList
  | .anchor mode kind, s => if kind.holds mode s then [s] else []
  | .backref mode index _, s => ((s.captured? index).bind (s.follow? mode)).toList
  | .seq first second, s => (first.ends s).flatMap second.ends
  | .alt first second, s => first.ends s ++ second.ends s
  | .flagged body, s => body.ends s
  | .capture index body, s => (body.ends (s.begin index)).map (·.finish index)
  | .atomic body, s => (body.ends s).head?.toList
  | .repeats greed least most body, s =>
      match greed with
      | .greedy => (endsExactly body.ends least s).flatMap fun s =>
          endsUpTo true body.ends (rounds least most s) s
      | .lazy => (endsExactly body.ends least s).flatMap fun s =>
          endsUpTo false body.ends (rounds least most s) s
      | .possessive => ((firstExactly body.ends least s).map fun s' =>
          firstUpTo body.ends (rounds least most s') s').toList
  | .look behind negated body, s =>
      let found := (s.back? (if behind then body.width.least else 0)).bind (body.ends · |>.head?)
      if negated then if found.isSome then [] else [s]
      else (found.map s.withMarksOf).toList
  | .choose index present absent, s =>
      match s.span? index with
      | some _ => present.ends s
      | none => absent.ends s

end Node

section Repetition

variable {run : Next → Next} {body : Ends}

-- `run` is the search that goes with the ends `body`.
theorem exactly_eq (h : ∀ next s, run next s = (body s).findSome? next) (count : Nat)
    (next : Next) (s : Spot) :
    exactly run count next s = (endsExactly body count s).findSome? next := by
  induction count generalizing s with
  | zero => simp [exactly, endsExactly]
  | succ count ih =>
      simp only [exactly, endsExactly, h, List.findSome?_flatMap]
      congr 1
      funext s'
      exact ih s'

theorem upTo_eq (h : ∀ next s, run next s = (body s).findSome? next) (greedy : Bool)
    (count : Nat) (next : Next) (s : Spot) :
    upTo greedy run count next s = (endsUpTo greedy body count s).findSome? next := by
  induction count generalizing s with
  | zero => simp [upTo, endsUpTo]
  | succ count ih =>
      have hmore : run (fun s' =>
            if s'.offset = s.offset then next s' else upTo greedy run count next s') s =
          ((body s).flatMap fun s' => if s'.offset = s.offset then [s'] else
            endsUpTo greedy body count s').findSome? next := by
        rw [h, List.findSome?_flatMap]
        congr 1
        funext s'
        split
        · simp
        · exact ih s'
      simp only [upTo, endsUpTo, hmore]
      cases greedy with
      | true =>
          rw [if_pos rfl, if_pos rfl, List.findSome?_append, List.findSome?_singleton]
          generalize List.findSome? next _ = found
          cases found <;> rfl
      | false =>
          rw [if_neg (by decide), if_neg (by decide), List.findSome?_cons]
          cases next s <;> rfl

theorem exactlyFirst_eq (h : ∀ next s, run next s = (body s).findSome? next) (count : Nat)
    (s : Spot) : exactlyFirst run count s = firstExactly body count s := by
  induction count generalizing s with
  | zero => rfl
  | succ count ih =>
      simp only [exactlyFirst, firstExactly, h, List.findSome?_some_eq_head?]
      cases (body s).head? with
      | none => rfl
      | some s' => exact ih s'

theorem upToFirst_eq (h : ∀ next s, run next s = (body s).findSome? next) (count : Nat)
    (s : Spot) : upToFirst run count s = firstUpTo body count s := by
  induction count generalizing s with
  | zero => rfl
  | succ count ih =>
      simp only [upToFirst, firstUpTo, h, List.findSome?_some_eq_head?]
      cases (body s).head? with
      | none => rfl
      | some s' => simp only [ih s']

end Repetition

namespace Node

-- Trying what follows at each end in turn is what the search does.
theorem run_eq (node : Node) (next : Next) (s : Spot) :
    node.run next s = (node.ends s).findSome? next := by
  induction node generalizing next s with
  | empty => simp [run, ends]
  | one mode atom => simp only [run, ends, List.findSome?_toList]
  | anchor mode kind =>
      simp only [run, ends]
      split <;> simp
  | backref mode index width =>
      simp only [run, ends, List.findSome?_toList]
      cases s.captured? index <;> rfl
  | seq first second ih ih' =>
      simp only [run, ends, ih, List.findSome?_flatMap]
      congr 1
      funext s'
      exact ih' next s'
  | alt first second ih ih' =>
      simp only [run, ends, ih, ih', List.findSome?_append]
      cases (first.ends s).findSome? next <;> rfl
  | flagged body ih => exact ih next s
  | capture index body ih =>
      simp only [run, ends, ih, List.findSome?_map]
      rfl
  | atomic body ih =>
      simp only [run, ends, ih, List.findSome?_some_eq_head?, List.findSome?_toList]
  | repeats greed least most body ih =>
      cases greed with
      | greedy =>
          simp only [run, ends, exactly_eq ih, List.findSome?_flatMap]
          congr 1
          funext s'
          exact upTo_eq ih true _ next s'
      | lazy =>
          simp only [run, ends, exactly_eq ih, List.findSome?_flatMap]
          congr 1
          funext s'
          exact upTo_eq ih false _ next s'
      | possessive =>
          simp only [run, ends, exactlyFirst_eq ih, upToFirst_eq ih, List.findSome?_toList]
          cases firstExactly body.ends least s <;> rfl
  | look behind negated body ih =>
      have hfirst : body.run some = fun s => (body.ends s).head? := by
        funext s
        rw [ih, List.findSome?_some_eq_head?]
      simp only [run, ends, hfirst]
      generalize (s.back? _).bind _ = found
      cases found <;> cases negated <;> simp
  | choose index present absent ih ih' =>
      simp only [run, ends]
      cases s.span? index with
      | none => exact ih' next s
      | some span => exact ih next s

theorem ends_ofRow_append (row row' : List Node) (s : Spot) :
    (ofRow (row ++ row')).ends s = ((ofRow row).ends s).flatMap (ofRow row').ends := by
  induction row generalizing s with
  | nil => simp [ofRow, ends]
  | cons node row ih =>
      simp only [List.cons_append, ofRow, ends, List.flatMap_assoc]
      congr 1
      funext s'
      exact ih s'

-- What may be left out is tried first and left out last.
theorem ends_repeats_optional (body : Node) (s : Spot) :
    (repeats .greedy 0 (some 1) body).ends s = body.ends s ++ [s] := by
  have hrounds : rounds 0 (some 1) s = 1 := by
    simp only [rounds]
    omega
  simp only [ends, endsExactly, List.flatMap_singleton, hrounds, endsUpTo, if_true]
  simp

end Node

-- A match is the first end of the pattern at the start of the subject.
theorem match?_eq_head? (regex : Regex) (subject : String) :
    regex.match? subject = (regex.node.ends (.start subject.toList)).head? := by
  rw [Regex.match?, Node.run_eq, List.findSome?_some_eq_head?]

end Signpost.Regex
