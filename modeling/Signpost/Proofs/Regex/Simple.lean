import Signpost.Proofs.Regex.Alike
import Signpost.Proofs.Regex.Moved

namespace Signpost.Regex

-- The spot behind `text`, which lies ahead.
def Spot.pass (s : Spot) (text : List Char) : Spot :=
  { s with behind := text.reverse ++ s.behind, ahead := s.ahead.drop text.length }

variable {s : Spot} {p : Char → Bool} {mode : Flags} {atom : Atom}

@[simp] theorem Spot.pass_nil (s : Spot) : s.pass [] = s := rfl

@[simp] theorem Spot.pass_ahead (s : Spot) (text : List Char) :
    (s.pass text).ahead = s.ahead.drop text.length := rfl

@[simp] theorem Spot.pass_pass (s : Spot) (text text' : List Char) :
    (s.pass text).pass text' = s.pass (text ++ text') := by
  simp [Spot.pass, List.drop_drop]

theorem Spot.step?_eq (s : Spot) (p : Char → Bool) :
    s.step? p = (s.ahead.head?.filter p).map fun c => s.pass [c] := by
  obtain ⟨behind, ahead, begun, ended⟩ := s
  cases ahead with
  | nil => rfl
  | cons c ahead =>
      simp only [Spot.step?, List.head?_cons]
      cases hc : p c <;> simp [Option.filter, hc, Spot.pass]

-- The ends of one character after the other, each in its own class.
def endsAlong : List (Char → Bool) → Ends
  | [], s => [s]
  | p :: ps, s => (s.step? p).toList.flatMap (endsAlong ps)

-- Whether a text has one character for each class.
def fits : List (Char → Bool) → List Char → Bool
  | [], [] => true
  | p :: ps, c :: cs => p c && fits ps cs
  | _, _ => false

theorem length_of_fits {ps : List (Char → Bool)} {cs : List Char} (h : fits ps cs) :
    cs.length = ps.length := by
  fun_induction fits ps cs with
  | case1 => rfl
  | case2 p ps c cs ih =>
      rw [Bool.and_eq_true] at h
      simp [ih h.2]
  | case3 => simp at h

theorem exists_class_of_fits {ps : List (Char → Bool)} {cs : List Char} (h : fits ps cs) :
    ∀ c ∈ cs, ∃ p ∈ ps, p c = true := by
  fun_induction fits ps cs with
  | case1 => simp
  | case2 p ps c cs ih =>
      rw [Bool.and_eq_true] at h
      rw [List.forall_mem_cons]
      refine ⟨⟨p, List.mem_cons_self, h.1⟩, fun d hd => ?_⟩
      obtain ⟨q, hq, hholds⟩ := ih h.2 d hd
      exact ⟨q, List.mem_cons_of_mem _ hq, hholds⟩
  | case3 => simp at h

theorem endsAlong_eq (ps : List (Char → Bool)) (s : Spot) :
    endsAlong ps s =
      if fits ps (s.ahead.take ps.length) then [s.pass (s.ahead.take ps.length)] else [] := by
  induction ps generalizing s with
  | nil => simp [endsAlong, fits]
  | cons p ps ih =>
      cases hahead : s.ahead with
      | nil => simp [endsAlong, Spot.step?_eq, hahead, fits]
      | cons c ahead =>
          cases hc : p c with
          | false => simp [endsAlong, Spot.step?_eq, hahead, fits, hc, Option.filter]
          | true => simp [endsAlong, Spot.step?_eq, hahead, fits, hc, Option.filter, ih]

theorem endsAlong_append (ps qs : List (Char → Bool)) (s : Spot) :
    endsAlong (ps ++ qs) s = (endsAlong ps s).flatMap (endsAlong qs) := by
  induction ps generalizing s with
  | nil => simp [endsAlong]
  | cons p ps ih =>
      simp only [List.cons_append, endsAlong, List.flatMap_assoc]
      congr 1
      funext s'
      exact ih s'

theorem endsAlong_take {c : Char} {cs : List Char} (hahead : s.ahead = c :: cs)
    (hc : p c = true) : endsAlong [p] s = [s.pass [c]] := by
  simp [endsAlong, Spot.step?_eq, hahead, hc, Option.filter]

theorem endsAlong_miss (h : ∀ c ∈ s.ahead.head?, p c = false) : endsAlong [p] s = [] := by
  cases hhead : s.ahead.head? with
  | none => simp [endsAlong, Spot.step?_eq, hhead]
  | some c => simp [endsAlong, Spot.step?_eq, hhead, h c hhead, Option.filter]

theorem ends_one (mode : Flags) (atom : Atom) :
    (Node.one mode atom).ends = endsAlong [(atom.accepts mode ·)] := by
  funext s
  simp [Node.ends, endsAlong]

theorem endsExactly_along (p : Char → Bool) (count : Nat) :
    endsExactly (endsAlong [p]) count = endsAlong (List.replicate count p) := by
  induction count with
  | zero => rfl
  | succ count ih =>
      funext s
      rw [endsExactly, ih, ← endsAlong_append]
      rfl

theorem ends_repeats_greedy (least : Nat) (most : Option Nat) (body : Node) (s : Spot) :
    (Node.repeats .greedy least most body).ends s =
      (endsExactly body.ends least s).flatMap fun s =>
        endsUpTo true body.ends (rounds least most s) s := rfl

theorem ends_repeats_count (mode : Flags) (atom : Atom) (count : Nat) :
    (Node.repeats .greedy count (some count) (.one mode atom)).ends =
      endsAlong (List.replicate count (atom.accepts mode ·)) := by
  funext s
  have hrounds (s' : Spot) : rounds count (some count) s' = 0 := by simp [rounds]
  rw [ends_repeats_greedy, ends_one, endsExactly_along]
  simp [hrounds, endsUpTo]

-- The texts of characters in `p` at the front of a text, longest first.
def runs (p : Char → Bool) : List Char → List (List Char)
  | [] => [[]]
  | c :: cs => if p c then (runs p cs).map (c :: ·) ++ [[]] else [[]]

-- Those of them that are not empty.
def someRuns (p : Char → Bool) : List Char → List (List Char)
  | [] => []
  | c :: cs => if p c then (runs p cs).map (c :: ·) else []

theorem endsUpTo_along {count : Nat} (h : s.ahead.length ≤ count) :
    endsUpTo true (endsAlong [p]) count s = (runs p s.ahead).map s.pass := by
  induction count generalizing s with
  | zero =>
      have hahead : s.ahead = [] := List.length_eq_zero_iff.mp (Nat.le_zero.mp h)
      simp [endsUpTo, hahead, runs]
  | succ count ih =>
      rw [endsUpTo, if_pos rfl]
      cases hahead : s.ahead with
      | nil =>
          rw [endsAlong_miss (by simp [hahead])]
          simp [runs]
      | cons c ahead =>
          cases hc : p c with
          | false =>
              rw [endsAlong_miss (by simpa [hahead] using hc)]
              simp [runs, hc]
          | true =>
              have hlength : (s.pass [c]).ahead.length ≤ count := by
                rw [hahead, List.length_cons] at h
                simp only [Spot.pass_ahead, hahead, List.length_singleton, List.drop_one,
                  List.tail_cons]
                omega
              have hmoved : (s.pass [c]).offset ≠ s.offset := by simp [Spot.offset, Spot.pass]
              rw [endsAlong_take hahead hc, List.flatMap_singleton, if_neg hmoved, ih hlength]
              simp [runs, hc, hahead, Function.comp_def]

theorem ends_repeats_some (mode : Flags) (atom : Atom) (s : Spot) :
    (Node.repeats .greedy 1 none (.one mode atom)).ends s =
      (someRuns (atom.accepts mode ·) s.ahead).map s.pass := by
  have hrest (s' : Spot) : endsUpTo true (endsAlong [(atom.accepts mode ·)])
      (rounds 1 none s') s' = (runs (atom.accepts mode ·) s'.ahead).map s'.pass :=
    endsUpTo_along (Nat.le_succ _)
  have hfirst : endsExactly (endsAlong [(atom.accepts mode ·)]) 1 =
      endsAlong [(atom.accepts mode ·)] := endsExactly_along _ 1
  rw [ends_repeats_greedy, ends_one, hfirst]
  simp only [hrest]
  cases hahead : s.ahead with
  | nil =>
      rw [endsAlong_miss (by simp [hahead])]
      rfl
  | cons c ahead =>
      cases hc : atom.accepts mode c with
      | false =>
          rw [endsAlong_miss (by simpa [hahead] using hc)]
          simp [someRuns, hc]
      | true =>
          rw [endsAlong_take hahead hc]
          simp [someRuns, hc, hahead, Function.comp_def]

theorem mem_runs {path v : List Char} :
    v ∈ runs p path ↔ v <+: path ∧ ∀ c ∈ v, p c = true := by
  induction path generalizing v with
  | nil =>
      rw [runs, List.mem_singleton, List.prefix_nil]
      constructor
      · rintro rfl
        simp
      · exact And.left
  | cons c cs ih =>
      cases v with
      | nil =>
          rw [runs]
          split <;> simp
      | cons d v =>
          rw [runs]
          by_cases hc : p c = true
          · rw [if_pos hc]
            simp only [List.mem_append, List.mem_map, List.cons.injEq, List.mem_singleton,
              List.cons_ne_nil, or_false, List.cons_prefix_cons, List.forall_mem_cons]
            constructor
            · rintro ⟨w, hw, rfl, rfl⟩
              exact ⟨⟨rfl, (ih.mp hw).1⟩, hc, (ih.mp hw).2⟩
            · rintro ⟨⟨rfl, hfront⟩, -, hall⟩
              exact ⟨v, ih.mpr ⟨hfront, hall⟩, rfl, rfl⟩
          · rw [if_neg hc]
            simp only [List.mem_singleton, List.cons_ne_nil, false_iff, List.cons_prefix_cons,
              List.forall_mem_cons, not_and]
            rintro ⟨rfl, -⟩ hd
            exact absurd hd hc

theorem runs_eq (p : Char → Bool) (path : List Char) :
    runs p path = someRuns p path ++ [[]] := by
  cases path with
  | nil => rfl
  | cons c cs =>
      rw [runs, someRuns]
      split <;> rfl

theorem nil_not_mem_someRuns (p : Char → Bool) (path : List Char) : [] ∉ someRuns p path := by
  cases path with
  | nil => simp [someRuns]
  | cons c cs =>
      rw [someRuns]
      split <;> simp

theorem mem_someRuns {path v : List Char} :
    v ∈ someRuns p path ↔ v ≠ [] ∧ v <+: path ∧ ∀ c ∈ v, p c = true := by
  rw [← mem_runs, runs_eq, List.mem_append, List.mem_singleton]
  constructor
  · intro h
    refine ⟨?_, .inl h⟩
    rintro rfl
    exact nil_not_mem_someRuns p path h
  · rintro ⟨hne, h | h⟩
    · exact h
    · exact absurd h hne

-- Longer ones come first.
theorem pairwise_runs (p : Char → Bool) (path : List Char) :
    (runs p path).Pairwise fun v w => w.length < v.length := by
  induction path with
  | nil => simp [runs]
  | cons c cs ih =>
      rw [runs]
      split
      · rw [List.pairwise_append, List.pairwise_map]
        refine ⟨ih.imp fun h => by simpa using h, by simp, ?_⟩
        intro v hv w hw
        obtain ⟨v, -, rfl⟩ := List.mem_map.mp hv
        rw [List.mem_singleton.mp hw]
        simp
      · simp

theorem pairwise_someRuns (p : Char → Bool) (path : List Char) :
    (someRuns p path).Pairwise fun v w => w.length < v.length := by
  cases path with
  | nil => simp [someRuns]
  | cons c cs =>
      rw [someRuns]
      split
      · rw [List.pairwise_map]
        exact (pairwise_runs p cs).imp fun h => by simpa using h
      · exact .nil

-- The longest goes on to where the characters end.
theorem head?_runs {v rest : List Char} (hv : ∀ c ∈ v, p c = true)
    (hrest : ∀ c ∈ rest.head?, p c = false) : (runs p (v ++ rest)).head? = some v := by
  induction v with
  | nil =>
      cases rest with
      | nil => rfl
      | cons c rest => rw [List.nil_append, runs, if_neg (by simp [hrest c rfl]), List.head?_cons]
  | cons c v ih =>
      rw [List.forall_mem_cons] at hv
      rw [List.cons_append, runs, if_pos hv.1, List.head?_append, List.head?_map, ih hv.2]
      rfl

theorem head?_someRuns {v rest : List Char} (hne : v ≠ []) (hv : ∀ c ∈ v, p c = true)
    (hrest : ∀ c ∈ rest.head?, p c = false) : (someRuns p (v ++ rest)).head? = some v := by
  have hhead := head?_runs hv hrest
  rw [runs_eq, List.head?_append] at hhead
  cases hfirst : (someRuns p (v ++ rest)).head? with
  | some w => rwa [hfirst] at hhead
  | none =>
      rw [hfirst] at hhead
      exact absurd (Option.some.inj hhead).symm hne

-- A node that only takes characters, and takes the same ones under all flags that agree on case
-- and alphabet.
def Node.simple : Node → Bool
  | .empty => true
  | .one _ atom => atom != .any
  | .seq first second => first.simple && second.simple
  | .alt first second => first.simple && second.simple
  | .repeats _ _ _ body => body.simple
  | _ => false

theorem accepts_eq {m m' : Flags} (hcase : m.ignoreCase = m'.ignoreCase)
    (hascii : m.ascii = m'.ascii) (hatom : atom ≠ .any) (c : Char) :
    atom.accepts m' c = atom.accepts m c := by
  cases atom with
  | literal code => simp only [Atom.accepts, acceptsLiteral, hcase, hascii]
  | other code => simp only [Atom.accepts, acceptsLiteral, hcase, hascii]
  | any => exact absurd rfl hatom
  | set negated items => simp only [Atom.accepts, acceptsItems, hcase, hascii]

theorem Node.Moved.ends_eq {shift groups : Nat} {m m' : Flags} {node node' : Node}
    (h : Node.Moved shift groups m m' node node') (hsimple : node.simple = true)
    (hcase : m.ignoreCase = m'.ignoreCase) (hascii : m.ascii = m'.ascii) :
    node'.ends = node.ends := by
  induction h with
  | empty => rfl
  | one atom =>
      have hatom : atom ≠ .any := by simpa [Node.simple] using hsimple
      rw [ends_one, ends_one]
      congr 2
      funext c
      exact accepts_eq hcase hascii hatom c
  | seq _ _ ih ih' =>
      rw [Node.simple, Bool.and_eq_true] at hsimple
      funext s
      rw [Node.ends, Node.ends, ih hsimple.1 hcase hascii, ih' hsimple.2 hcase hascii]
  | alt _ _ ih ih' =>
      rw [Node.simple, Bool.and_eq_true] at hsimple
      funext s
      rw [Node.ends, Node.ends, ih hsimple.1 hcase hascii, ih' hsimple.2 hcase hascii]
  | repeats greed least most _ ih =>
      rw [Node.simple] at hsimple
      funext s
      cases greed <;> simp only [Node.ends, ih hsimple hcase hascii]
  | _ => simp [Node.simple] at hsimple

-- Nothing is left open where a simple node is read again.
theorem Node.Moved.unique {shift groups : Nat} {m m' : Flags} {node node' other : Node}
    (h : Node.Moved shift groups m m' node node') (h' : Node.Moved shift groups m m' node other)
    (hsimple : node.simple = true) : other = node' := by
  induction h generalizing other with
  | empty =>
      cases h'
      rfl
  | one atom =>
      cases h'
      rfl
  | seq _ _ ih ih' =>
      rw [Node.simple, Bool.and_eq_true] at hsimple
      cases h' with
      | seq hfirst hsecond => rw [ih hfirst hsimple.1, ih' hsecond hsimple.2]
  | alt _ _ ih ih' =>
      rw [Node.simple, Bool.and_eq_true] at hsimple
      cases h' with
      | alt hfirst hsecond => rw [ih hfirst hsimple.1, ih' hsecond hsimple.2]
  | repeats greed least most _ ih =>
      cases h' with
      | repeats _ _ _ hbody => rw [ih hbody hsimple]
  | _ => simp [Node.simple] at hsimple

end Signpost.Regex
