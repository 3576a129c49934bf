import Signpost.Proofs.Template.Split

namespace Signpost.Template

variable {rules : String → Rule} {rule : Rule} {parts : List Part} {path : List Char}

def slashes : List Char → List Bool
  | '/' :: _ => [true, false]
  | _ => [false]

def strays : List Char → List (Option Char)
  | [] => [none]
  | c :: _ => if c = '/' then [none] else [some c, none]

-- The ways to fill a placeholder from the front of a path.
def Rule.fills (rule : Rule) (path : List Char) : List Fill :=
  (slashes path).flatMap fun slash =>
    (rule.prefixes (path.drop (slashText slash).length)).flatMap fun value =>
      (strays ((path.drop (slashText slash).length).drop value.length)).map fun stray =>
        ⟨slash, value, stray⟩

-- A split together with whether a slash stands at the end.
abbrev Trial := List (Option Fill) × Bool

def Trial.after (fill : Option Fill) (trial : Trial) : Trial := (fill :: trial.1, trial.2)

def closes (path : List Char) : List Bool :=
  if path = [] then [false] else if path = ['/'] then [true] else []

def trials (rules : String → Rule) : List Part → List Char → List Trial
  | [], path => (closes path).map ([], ·)
  | .literal c :: parts, path => if path.head? = some c then trials rules parts path.tail else []
  | .slot _ parameter :: parts, path =>
      (((rules parameter.name).fills path).flatMap fun fill =>
        (trials rules parts (path.drop fill.text.length)).map (.after (some fill))) ++
      if parameter.required then [] else (trials rules parts path).map (.after none)

theorem mem_slashes {slash : Bool} : slash ∈ slashes path ↔ slashText slash <+: path := by
  cases slash with
  | false => simp [slashes, slashText]; split <;> simp
  | true =>
      simp only [slashes, slashText, if_true]
      split
      · simp
      next h =>
        simp only [List.mem_singleton, Bool.true_eq_false, false_iff]
        rintro ⟨rest, rfl⟩
        exact h rest rfl

theorem mem_strays {stray : Option Char} :
    stray ∈ strays path ↔ stray.toList <+: path ∧ stray ≠ some '/' := by
  cases path with
  | nil => cases stray <;> simp [strays]
  | cons c path =>
      cases stray with
      | none => simp [strays]; split <;> simp
      | some d =>
          by_cases hc : c = '/'
          · subst hc
            simp [strays]
          · simp only [strays, if_neg hc, Option.toList, List.cons_prefix_cons]
            constructor
            · intro h
              obtain rfl : d = c := by simpa using h
              simp [hc]
            · rintro ⟨⟨rfl, -⟩, -⟩
              simp

theorem mem_closes {close : Bool} : close ∈ closes path ↔ path = slashText close := by
  unfold closes slashText
  cases close with
  | false => split <;> [simp_all; (split <;> simp_all)]
  | true => split <;> [simp_all; (split <;> simp_all)]

theorem append_prefix_iff {front rest path : List Char} :
    front ++ rest <+: path ↔ front <+: path ∧ rest <+: path.drop front.length := by
  constructor
  · rintro ⟨more, rfl⟩
    simp
  · rintro ⟨⟨more, rfl⟩, h⟩
    simpa using h

-- What is tried is what fits.
theorem mem_fills {fill : Fill} : fill ∈ rule.fills path ↔
    fill.text <+: path ∧ rule.accepts fill.value = true ∧ fill.stray ≠ some '/' := by
  have hmem : fill ∈ rule.fills path ↔ fill.slash ∈ slashes path ∧
      fill.value ∈ rule.prefixes (path.drop (slashText fill.slash).length) ∧
      fill.stray ∈
        strays ((path.drop (slashText fill.slash).length).drop fill.value.length) := by
    simp only [Rule.fills, List.mem_flatMap, List.mem_map]
    constructor
    · rintro ⟨slash, hslash, value, hvalue, stray, hstray, rfl⟩
      exact ⟨hslash, hvalue, hstray⟩
    · rintro ⟨hslash, hvalue, hstray⟩
      exact ⟨_, hslash, _, hvalue, _, hstray, rfl⟩
  rw [hmem, mem_slashes, Rule.mem_prefixes, mem_strays, Fill.text, List.append_assoc,
    append_prefix_iff, append_prefix_iff]
  tauto

-- A placeholder that ends where the segment ends is filled so first.
theorem head?_fills {value rest : List Char} (hspelled : rule.Spelled)
    (hvalue : rule.accepts value = true) (hrest : ∀ c ∈ rest.head?, c = '/') (slash : Bool) :
    (rule.fills (slashText slash ++ value ++ rest)).head? = some ⟨slash, value, none⟩ := by
  have hslash : (slashes (slashText slash ++ value ++ rest)).head? = some slash := by
    cases slash with
    | true => rfl
    | false =>
        obtain ⟨hne, hnot⟩ := Rule.whole_of_accepts hspelled hvalue
        cases value with
        | nil => exact absurd rfl hne
        | cons c value =>
            unfold slashes
            split
            next h =>
              obtain rfl : c = '/' := (List.cons.inj h).1
              simp at hnot
            · rfl
  have hstray : strays rest = [none] := by
    cases rest with
    | nil => rfl
    | cons c rest => rw [strays, if_pos (hrest c rfl)]
  refine List.head?_flatMap_of_head? hslash ?_
  rw [List.append_assoc, List.drop_left]
  refine List.head?_flatMap_of_head? (Rule.head?_prefixes hspelled hvalue hrest) ?_
  rw [List.drop_left, hstray]
  rfl

theorem splits_of_mem_trials {trial : Trial} (h : trial ∈ trials rules parts path) :
    Splits rules parts trial.1 trial.2 path := by
  induction parts generalizing path trial with
  | nil =>
      obtain ⟨close, hclose, rfl⟩ := List.mem_map.mp h
      rw [mem_closes.mp hclose]
      exact .done close
  | cons part parts ih =>
      cases part with
      | literal c =>
          rw [trials] at h
          split at h
          next hhead =>
            obtain ⟨rest, rfl⟩ := List.head?_eq_some_iff.mp hhead
            exact .literal c (ih h)
          · simp at h
      | slot slashed parameter =>
          rw [trials, List.mem_append, List.mem_flatMap] at h
          rcases h with ⟨fill, hfill, h⟩ | h
          · obtain ⟨later, hlater, rfl⟩ := List.mem_map.mp h
            obtain ⟨⟨rest, rfl⟩, hvalue, hstray⟩ := mem_fills.mp hfill
            rw [List.drop_left] at hlater
            exact .filled slashed parameter fill hvalue hstray (ih hlater)
          · split at h
            · simp at h
            next hoptional =>
              obtain ⟨later, hlater, rfl⟩ := List.mem_map.mp h
              exact .omitted slashed parameter (by simpa using hoptional) (ih hlater)

theorem mem_trials_of_splits {fills : List (Option Fill)} {close : Bool}
    (h : Splits rules parts fills close path) : (fills, close) ∈ trials rules parts path := by
  induction h with
  | done close => exact List.mem_map.mpr ⟨close, mem_closes.mpr rfl, rfl⟩
  | literal c _ ih =>
      rw [trials, List.head?_cons, if_pos rfl]
      exact ih
  | @filled _ fills close rest slashed parameter fill hvalue hstray _ ih =>
      rw [trials, List.mem_append, List.mem_flatMap]
      refine .inl ⟨fill, mem_fills.mpr ⟨List.prefix_append _ _, hvalue, hstray⟩, ?_⟩
      rw [List.drop_left]
      exact List.mem_map.mpr ⟨(fills, close), ih, rfl⟩
  | @omitted _ fills close _ slashed parameter hoptional _ ih =>
      rw [trials, List.mem_append, hoptional, if_neg (by decide)]
      exact .inr (List.mem_map.mpr ⟨(fills, close), ih, rfl⟩)

theorem ranked_slashes (path : List Char) :
    (slashes path).Ranked fun a b => a = true ∧ b = false := by
  refine List.Pairwise.ranked ?_
  unfold slashes
  split <;> simp

theorem ranked_strays (path : List Char) :
    (strays path).Ranked fun a b => a.isSome = true ∧ b = none := by
  refine List.Pairwise.ranked ?_
  unfold strays
  split
  · simp
  · split <;> simp

-- Fills are tried in the order of precedence.
theorem headed_flatMap_fills {α : Type} {R : α → α → Prop} {next : Fill → List α}
    (hin : ∀ fill, (next fill).Headed R)
    (hacross : ∀ f g, f.Precedes rule g → ∀ x ∈ next f, ∀ y ∈ next g, R x y) :
    ((rule.fills path).flatMap next).Headed R := by
  simp only [Rule.fills, List.flatMap_assoc, List.flatMap_map]
  refine (ranked_slashes path).flatMap (fun slash _ => ?_) ?_
  · refine (Rule.ranked_prefixes rule _).flatMap (fun value _ => ?_) ?_
    · refine (ranked_strays _).flatMap (fun stray _ => hin _) ?_
      intro stray stray' h
      exact hacross _ _ (.inr ⟨rfl, .inr ⟨rfl, h⟩⟩)
    · intro value value' h x hx y hy
      obtain ⟨stray, -, hx⟩ := List.mem_flatMap.mp hx
      obtain ⟨stray', -, hy⟩ := List.mem_flatMap.mp hy
      exact hacross ⟨slash, value, stray⟩ ⟨slash, value', stray'⟩ (.inr ⟨rfl, .inl h⟩) x hx y hy
  · intro slash slash' h x hx y hy
    obtain ⟨value, -, hx⟩ := List.mem_flatMap.mp hx
    obtain ⟨stray, -, hx⟩ := List.mem_flatMap.mp hx
    obtain ⟨value', -, hy⟩ := List.mem_flatMap.mp hy
    obtain ⟨stray', -, hy⟩ := List.mem_flatMap.mp hy
    exact hacross ⟨slash, value, stray⟩ ⟨slash', value', stray'⟩ (.inl h) x hx y hy

theorem headed_trials (rules : String → Rule) (parts : List Part) (path : List Char) :
    (trials rules parts path).Headed fun x y => Precedes rules parts x.1 y.1 := by
  induction parts generalizing path with
  | nil =>
      rw [trials]
      refine List.Pairwise.headed ?_
      rw [closes]
      split
      · simp
      · split <;> simp
  | cons part parts ih =>
      cases part with
      | literal c =>
          rw [trials]
          split
          · intro x hx y hy
            exact (ih path.tail x hx y hy).imp_right (.literal c)
          · simp [List.Headed]
      | slot slashed parameter =>
          rw [trials]
          refine List.Headed.append (headed_flatMap_fills (fun fill => ?_) ?_) ?_ ?_
          · exact (ih _).map fun x y h => .later slashed parameter (some fill) h
          · intro f g h x hx y hy
            obtain ⟨x, -, rfl⟩ := List.mem_map.mp hx
            obtain ⟨y, -, rfl⟩ := List.mem_map.mp hy
            exact .fill slashed parameter h
          · split
            · simp [List.Headed]
            · exact (ih path).map fun x y h => .later slashed parameter none h
          · intro x hx y hy
            obtain ⟨fill, -, hx⟩ := List.mem_flatMap.mp hx
            obtain ⟨x, -, rfl⟩ := List.mem_map.mp hx
            split at hy
            · simp at hy
            · obtain ⟨y, -, rfl⟩ := List.mem_map.mp hy
              exact .present slashed parameter fill

theorem first_of_head?_trials {trial : Trial} (h : (trials rules parts path).head? = some trial) :
    First rules parts trial.1 path := by
  refine ⟨⟨trial.2, splits_of_mem_trials (List.mem_of_head? h)⟩, fun other close hother => ?_⟩
  have hmem : (other, close) ∈ trials rules parts path := mem_trials_of_splits hother
  exact (headed_trials rules parts path trial h _ hmem).imp_left (congrArg Prod.fst)

-- The first fill is right if the rest of the path can be split behind it.
theorem head?_trials_filled {fill : Fill} {fills : List (Option Fill)} {close : Bool}
    {parameter : Parameter} (hfill : ((rules parameter.name).fills path).head? = some fill)
    (hrest : (trials rules parts (path.drop fill.text.length)).head? = some (fills, close))
    (slashed : Bool) :
    (trials rules (.slot slashed parameter :: parts) path).head? =
      some (some fill :: fills, close) := by
  have hfirst : (((rules parameter.name).fills path).flatMap fun fill =>
      (trials rules parts (path.drop fill.text.length)).map (.after (some fill))).head? =
      some (Trial.after (some fill) (fills, close)) := by
    refine List.head?_flatMap_of_head? hfill ?_
    rw [List.head?_map, hrest, Option.map_some]
  rw [trials, List.head?_append, hfirst, Option.some_or]
  rfl

theorem head?_trials_omitted {fills : List (Option Fill)} {close : Bool} {parameter : Parameter}
    (hfill : (rules parameter.name).fills path = []) (hoptional : parameter.required = false)
    (hrest : (trials rules parts path).head? = some (fills, close)) (slashed : Bool) :
    (trials rules (.slot slashed parameter :: parts) path).head? = some (none :: fills, close) := by
  rw [trials, hfill, List.flatMap_nil, List.nil_append, hoptional, if_neg (by decide),
    List.head?_map, hrest]
  rfl

end Signpost.Template
