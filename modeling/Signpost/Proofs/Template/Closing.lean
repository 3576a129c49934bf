import Signpost.Proofs.Template.Search

namespace Signpost.Template

-- No choice has a slash in it.
def Rule.Slashless : Rule → Prop
  | .among choices => ∀ choice ∈ choices, '/' ∉ choice.toList
  | _ => True

def Part.Omissible (part : Part) : Prop :=
  ∃ slashed parameter, part = .slot slashed parameter ∧ parameter.required = false

variable {config : Config} {constraints : Constraints} {rules : String → Rule} {rule : Rule}
  {parts front behind : List Part} {fills fills' others : List (Option Fill)} {close : Bool}
  {path value : List Char}

theorem Rule.within_of_accepts (hstated : rule.Stated) (hslash : rule.Slashless)
    (h : rule.accepts value = true) : value ≠ [] ∧ '/' ∉ value := by
  cases rule with
  | among choices =>
      rw [Rule.accepts, List.contains_iff_mem] at h
      obtain ⟨choice, hmem, rfl⟩ := List.mem_map.mp h
      refine ⟨fun hempty => hstated.2 ?_, hslash choice hmem⟩
      rwa [← String.toList_eq_nil_iff.mp hempty]
  | _ =>
      refine Rule.whole_of_accepts ?_ h
      trivial

-- A slash at the end of a split is the last character of the path.
theorem splits_true_iff : Splits rules parts fills true path ↔
    ∃ front, path = front ++ ['/'] ∧ Splits rules parts fills false front := by
  constructor
  · intro h
    generalize hclose : true = close at h
    induction h with
    | done close =>
        subst hclose
        exact ⟨[], rfl, .done false⟩
    | literal c _ ih =>
        obtain ⟨front, rfl, hfront⟩ := ih hclose
        exact ⟨c :: front, rfl, .literal c hfront⟩
    | filled slashed parameter fill hvalue hstray _ ih =>
        obtain ⟨front, rfl, hfront⟩ := ih hclose
        exact ⟨fill.text ++ front, (List.append_assoc _ _ _).symm,
          .filled slashed parameter fill hvalue hstray hfront⟩
    | omitted slashed parameter hoptional _ ih =>
        obtain ⟨front, rfl, hfront⟩ := ih hclose
        exact ⟨front, rfl, .omitted slashed parameter hoptional hfront⟩
  · rintro ⟨front, rfl, h⟩
    generalize hclose : false = close at h
    induction h with
    | done close =>
        subst hclose
        exact .done true
    | literal c _ ih => exact .literal c (ih hclose)
    | filled slashed parameter fill hvalue hstray _ ih =>
        rw [List.append_assoc]
        exact .filled slashed parameter fill hvalue hstray (ih hclose)
    | omitted slashed parameter hoptional _ ih =>
        exact .omitted slashed parameter hoptional (ih hclose)

-- No value of a placeholder is empty or goes beyond a slash.
def Within (rules : String → Rule) (parts : List Part) : Prop :=
  ∀ parameter ∈ slots parts, ∀ value, (rules parameter.name).accepts value = true →
    value ≠ [] ∧ '/' ∉ value

theorem Within.tail {part : Part} (h : Within rules (part :: parts)) : Within rules parts := by
  cases part with
  | literal c => exact h
  | slot slashed parameter => exact fun other hmem => h other (List.mem_cons_of_mem _ hmem)

-- The empty path is split only by leaving everything out.
theorem omissible_of_splits_nil (hwithin : Within rules parts)
    (h : Splits rules parts fills close []) :
    (∀ part ∈ parts, part.Omissible) ∧ fills = List.replicate parts.length none := by
  generalize hpath : ([] : List Char) = path at h
  induction h with
  | done close => exact ⟨by simp, rfl⟩
  | literal c => cases hpath
  | filled slashed parameter fill hvalue hstray _ ih =>
      have hne := (hwithin parameter List.mem_cons_self _ hvalue).1
      have htext := (List.append_eq_nil_iff.mp hpath.symm).1
      simp only [Fill.text, List.append_eq_nil_iff] at htext
      exact absurd htext.1.2 hne
  | omitted slashed parameter hoptional _ ih =>
      obtain ⟨hrest, rfl⟩ := ih hwithin.tail hpath
      exact ⟨List.forall_mem_cons.mpr ⟨⟨slashed, parameter, rfl, hoptional⟩, hrest⟩, rfl⟩

-- No placeholder takes a slash at the end of what it takes.
theorem getLast?_text_ne {fill : Fill} (hvalue : fill.value ≠ [] ∧ '/' ∉ fill.value)
    (hstray : fill.stray ≠ some '/') : fill.text.getLast? ≠ some '/' := by
  intro hlast
  cases hend : fill.stray with
  | some c =>
      rw [Fill.text, hend, Option.toList_some, List.getLast?_concat] at hlast
      exact hstray (hend.trans hlast)
  | none =>
      rw [Fill.text, hend, Option.toList_none, List.append_nil,
        List.getLast?_append_of_ne_nil _ hvalue.1] at hlast
      exact hvalue.2 (List.mem_of_getLast? hlast)

-- A last character that does not end the front belongs to the rest.
theorem exists_of_concat_eq {c : Char} {text rest : List Char} (htext : text.getLast? ≠ some c)
    (h : path ++ [c] = text ++ rest) : ∃ more, path = text ++ more ∧ rest = more ++ [c] := by
  rcases List.eq_nil_or_concat rest with rfl | ⟨more, last, rfl⟩
  · rw [List.append_nil] at h
    exact absurd (h ▸ List.getLast?_concat) htext
  · rw [List.concat_eq_append, ← List.append_assoc] at h
    obtain ⟨hpath, hlast⟩ := List.append_inj' h rfl
    rw [← List.singleton_inj.mp hlast, List.concat_eq_append]
    exact ⟨more, hpath, rfl⟩

-- Where no slash stands at the end of a split, the last slash of the path is one of the template
-- with nothing taken behind it.
theorem exists_front_of_splits (hwithin : Within rules parts)
    (h : Splits rules parts fills false (path ++ ['/'])) :
    ∃ front behind fills', parts = front ++ .literal '/' :: behind ∧
      (∀ part ∈ behind, part.Omissible) ∧ Splits rules front fills' false path ∧
      fills = fills' ++ List.replicate behind.length none := by
  generalize hpath : path ++ ['/'] = text at h
  generalize hclose : false = close at h
  induction h generalizing path with
  | done close =>
      subst hclose
      simp [slashText] at hpath
  | @literal parts fills _ text c hrest ih =>
      cases path with
      | nil =>
          obtain ⟨rfl, rfl⟩ := List.cons.inj hpath
          obtain ⟨hbehind, rfl⟩ := omissible_of_splits_nil hwithin.tail hrest
          exact ⟨[], parts, [], rfl, hbehind, hclose ▸ .done false, rfl⟩
      | cons d path =>
          obtain ⟨rfl, htail⟩ := List.cons.inj hpath
          obtain ⟨front, behind, fills', rfl, hbehind, hfront, rfl⟩ := ih hwithin.tail htail hclose
          exact ⟨.literal d :: front, behind, fills', rfl, hbehind, .literal d hfront, rfl⟩
  | @filled parts fills _ text slashed parameter fill hvalue hstray hrest ih =>
      have hmine := hwithin parameter List.mem_cons_self _ hvalue
      obtain ⟨more, rfl, rfl⟩ := exists_of_concat_eq (getLast?_text_ne hmine hstray) hpath
      obtain ⟨front, behind, fills', rfl, hbehind, hfront, rfl⟩ := ih hwithin.tail rfl hclose
      exact ⟨.slot slashed parameter :: front, behind, some fill :: fills', rfl, hbehind,
        .filled slashed parameter fill hvalue hstray hfront, rfl⟩
  | omitted slashed parameter hoptional hrest ih =>
      obtain ⟨front, behind, fills', rfl, hbehind, hfront, rfl⟩ := ih hwithin.tail hpath hclose
      exact ⟨.slot slashed parameter :: front, behind, none :: fills', rfl, hbehind,
        .omitted slashed parameter hoptional hfront, rfl⟩

theorem length_of_splits (h : Splits rules parts fills close path) :
    fills.length = (slots parts).length := by
  induction h with
  | done close => rfl
  | literal c _ ih => exact ih
  | filled slashed parameter fill _ _ _ ih => exact congrArg (· + 1) ih
  | omitted slashed parameter _ _ ih => exact congrArg (· + 1) ih

theorem splits_omissible (hbehind : ∀ part ∈ behind, part.Omissible) :
    Splits rules behind (List.replicate behind.length none) false [] := by
  induction behind with
  | nil => exact .done false
  | cons part behind ih =>
      rw [List.forall_mem_cons] at hbehind
      obtain ⟨⟨slashed, parameter, rfl, hoptional⟩, hrest⟩ := hbehind
      exact .omitted slashed parameter hoptional (ih hrest)

-- A path that is split by the front of a template is split by the whole with one slash more.
theorem Splits.before (h : Splits rules front fills false path)
    (hbehind : ∀ part ∈ behind, part.Omissible) :
    Splits rules (front ++ .literal '/' :: behind) (fills ++ List.replicate behind.length none)
      false (path ++ ['/']) := by
  generalize hclose : false = close at h
  induction h with
  | done close =>
      subst hclose
      exact .literal '/' (splits_omissible hbehind)
  | literal c _ ih => exact .literal c (ih hclose)
  | filled slashed parameter fill hvalue hstray _ ih =>
      rw [List.append_assoc]
      exact .filled slashed parameter fill hvalue hstray (ih hclose)
  | omitted slashed parameter hoptional _ ih =>
      exact .omitted slashed parameter hoptional (ih hclose)

theorem bound_omissible (hbehind : ∀ part ∈ behind, part.Omissible) :
    bound behind (List.replicate behind.length none) = [] := by
  induction behind with
  | nil => rfl
  | cons part behind ih =>
      rw [List.forall_mem_cons] at hbehind
      obtain ⟨⟨slashed, parameter, rfl, hoptional⟩, hrest⟩ := hbehind
      exact ih hrest

theorem Splits.bound_before (h : Splits rules front fills close path)
    (hbehind : ∀ part ∈ behind, part.Omissible) :
    bound (front ++ .literal '/' :: behind) (fills ++ List.replicate behind.length none) =
      bound front fills := by
  induction h with
  | done close => exact bound_omissible hbehind
  | literal c _ ih => exact ih
  | filled slashed parameter fill _ _ _ ih =>
      exact congrArg ((parameter.name, String.ofList fill.value) :: ·) ih
  | omitted slashed parameter _ _ ih => exact ih

-- What is filled in alike behind the front makes no difference.
theorem precedes_before {last : List (Option Fill)} (hfills : fills.length = (slots front).length)
    (hothers : others.length = (slots front).length)
    (h : Precedes rules (front ++ behind) (fills ++ last) (others ++ last)) :
    Precedes rules front fills others := by
  induction front generalizing fills others with
  | nil =>
      rw [List.length_eq_zero_iff.mp hfills, List.length_eq_zero_iff.mp hothers] at h
      exact absurd h (precedes_asymm h)
  | cons part front ih =>
      cases part with
      | literal c =>
          cases h with
          | literal _ hrest => exact .literal c (ih hfills hothers hrest)
      | slot slashed parameter =>
          obtain ⟨fill, fills, rfl⟩ := List.exists_cons_of_length_eq_add_one hfills
          obtain ⟨other, others, rfl⟩ := List.exists_cons_of_length_eq_add_one hothers
          have hmore : fills.length = (slots front).length := Nat.succ.inj hfills
          have hmore' : others.length = (slots front).length := Nat.succ.inj hothers
          cases h with
          | present => exact .present slashed parameter _
          | fill _ _ hprecedes => exact .fill slashed parameter hprecedes
          | later _ _ _ hrest => exact .later slashed parameter fill (ih hmore hmore' hrest)

theorem Splits.close_eq_false (h : Splits rules parts fills close path)
    (hpath : path.getLast? ≠ some '/') : close = false := by
  cases close with
  | false => rfl
  | true =>
      obtain ⟨front, rfl, -⟩ := splits_true_iff.mp h
      exact absurd List.getLast?_concat hpath

-- A template that ends in a slash of its own splits only paths that do so too.
theorem exists_concat_of_splits {c : Char}
    (h : Splits rules (front ++ [.literal c]) fills false path) : ∃ start, path = start ++ [c] := by
  induction front generalizing fills path with
  | nil =>
      cases h with
      | literal _ hrest =>
          cases hrest
          exact ⟨[], rfl⟩
  | cons part front ih =>
      cases h with
      | literal d hrest =>
          obtain ⟨start, rfl⟩ := ih hrest
          exact ⟨d :: start, rfl⟩
      | filled _ _ fill _ _ hrest =>
          obtain ⟨start, rfl⟩ := ih hrest
          exact ⟨fill.text ++ start, (List.append_assoc _ _ _).symm⟩
      | omitted _ _ _ hrest => exact ih hrest

-- The front of a template splits a path first as the whole does with one slash more.
theorem First.of_before
    (h : First rules (front ++ .literal '/' :: behind)
      (fills ++ List.replicate behind.length none) (path ++ ['/']))
    (hfront : Splits rules front fills false path) (hbehind : ∀ part ∈ behind, part.Omissible)
    (hpath : path.getLast? ≠ some '/') : First rules front fills path := by
  refine ⟨⟨false, hfront⟩, fun other close hother => ?_⟩
  obtain rfl := hother.close_eq_false hpath
  rcases h.2 _ _ (hother.before hbehind) with hsame | hbefore
  · exact .inl (List.append_cancel_right hsame)
  · exact .inr (precedes_before (length_of_splits hfront) (length_of_splits hother) hbefore)

-- With one slash more a path is split first as without it, or as a front of the template splits it.
theorem first_closed (hwithin : Within rules parts) (hpath : path.getLast? ≠ some '/')
    (h : First rules parts fills path) (h' : First rules parts fills' (path ++ ['/'])) :
    fills' = fills ∨ ∃ front behind others, parts = front ++ .literal '/' :: behind ∧
      behind ≠ [] ∧ (∀ part ∈ behind, part.Omissible) ∧ First rules front others path ∧
      bound parts fills' = bound front others := by
  obtain ⟨⟨close, hsplit⟩, hfirst⟩ := h
  obtain rfl := hsplit.close_eq_false hpath
  obtain ⟨close', hsplit'⟩ := h'.1
  cases close' with
  | true =>
      obtain ⟨start, hstart, hback⟩ := splits_true_iff.mp hsplit'
      obtain rfl := (List.append_inj' hstart rfl).1
      left
      rcases hfirst fills' false hback with hsame | hbefore
      · exact hsame
      · rcases h'.2 fills true (splits_true_iff.mpr ⟨path, rfl, hsplit⟩) with hsame | hbefore'
        · exact hsame.symm
        · exact absurd hbefore' (precedes_asymm hbefore)
  | false =>
      obtain ⟨front, behind, others, rfl, hbehind, hfront, rfl⟩ :=
        exists_front_of_splits hwithin hsplit'
      right
      refine ⟨front, behind, others, rfl, ?_, hbehind, h'.of_before hfront hbehind hpath,
        hfront.bound_before hbehind⟩
      rintro rfl
      obtain ⟨start, rfl⟩ := exists_concat_of_splits hsplit
      exact hpath List.getLast?_concat

variable {template : String} {pattern : Pattern}

-- A path that is matched is matched with one slash more. Then the same is bound, or what is bound
-- by the front of the template up to a slash of its own that has only optional placeholders behind.
theorem match?_closed (rules : String → Rule) (hescape : config.escapeLiterals = true)
    (hcase : config.caseSensitive = true) (hdefault : config.defaultPattern = "[\\w-]+")
    (h : (Pattern.ofTemplate config constraints template).result = .ok pattern)
    (hrules : ∀ parameter ∈ pattern.parameters,
      Entries.get? constraints (.str parameter.name) = (rules parameter.name).constraint? ∧
        (rules parameter.name).Stated ∧ (rules parameter.name).Slashless) :
    ∃ parts, parts? config none template.toList = some parts ∧
      ∀ (path : String) (bindings : Bindings), path.toList.getLast? ≠ some '/' →
        pattern.match? path = .ok (some bindings) →
        ∃ bindings', pattern.match? (path ++ "/") = .ok (some bindings') ∧
          (bindings' = bindings ∨ ∃ front behind fills, parts = front ++ .literal '/' :: behind ∧
            behind ≠ [] ∧ (∀ part ∈ behind, part.Omissible) ∧
            First rules front fills path.toList ∧ bindings' = bound front fills) := by
  obtain ⟨parts, items, hcompiled⟩ := compiled_of_ofTemplate hescape h
  have hgoverned := governed_of_stated hdefault fun parameter hmem =>
    ⟨(hrules parameter hmem).1, (hrules parameter hmem).2.1⟩
  rw [hcompiled.parameters] at hgoverned hrules
  have hwithin : Within rules parts := fun parameter hmem _ =>
    Rule.within_of_accepts (hrules parameter hmem).2.1 (hrules parameter hmem).2.2
  refine ⟨parts, hcompiled.cut, fun path bindings hpath hmatch => ?_⟩
  rw [hcompiled.match?_eq_trials hcase hgoverned] at hmatch
  obtain ⟨⟨fills, close⟩, htrial, rfl⟩ := Option.map_eq_some_iff.mp (Except.ok.inj hmatch)
  have hfirst := first_of_head?_trials htrial
  have hsplit := splits_of_mem_trials (List.mem_of_head? htrial)
  obtain rfl := hsplit.close_eq_false hpath
  have hmore : (fills, true) ∈ trials rules parts (path ++ "/").toList := by
    rw [String.toList_append]
    exact mem_trials_of_splits (splits_true_iff.mpr ⟨_, rfl, hsplit⟩)
  obtain ⟨⟨fills', close'⟩, htrial'⟩ :=
    Option.isSome_iff_exists.mp (List.isSome_head?.mpr (List.ne_nil_of_mem hmore))
  have hfirst' := first_of_head?_trials htrial'
  rw [String.toList_append] at hfirst'
  refine ⟨bound parts fills', ?_, ?_⟩
  · rw [hcompiled.match?_eq_trials hcase hgoverned, htrial']
    rfl
  · rcases first_closed hwithin hpath hfirst hfirst' with rfl |
      ⟨front, behind, others, hparts, hne, hbehind, hfront, hbound⟩
    · exact .inl rfl
    · exact .inr ⟨front, behind, others, hparts, hne, hbehind, hfront, hbound⟩

-- A slash behind a number is not part of it, and an optional placeholder stays empty.
theorem match?_closed_item :
    ∃ pattern : Pattern,
      (Pattern.ofTemplate default [(.str "id", Route.numberPattern)]
        "/i/\x7bid\x7d/\x7bcolor?\x7d").result = .ok pattern ∧
      pattern.match? "/i/42" = .ok (some [("id", "42")]) ∧
      pattern.match? "/i/42/" = .ok (some [("id", "42")]) := by
  have hseen : ((Pattern.ofTemplate default [(.str "id", Route.numberPattern)]
      "/i/\x7bid\x7d/\x7bcolor?\x7d").result.toOption.bind fun pattern =>
        (pattern.match? "/i/42").toOption.map (pattern.parameters, ·)) =
      some ([⟨"id", true⟩, ⟨"color", false⟩], some [("id", "42")]) := by decide +kernel
  obtain ⟨pattern, h, hfound⟩ := Except.exists_ok_of_bind hseen
  obtain ⟨found, hfound, hsame⟩ := Option.map_eq_some_iff.mp hfound
  obtain ⟨hparameters, rfl⟩ := Prod.mk.inj hsame
  have hmatch := Except.eq_ok_of_toOption hfound
  have hparts : parts? default none "/i/\x7bid\x7d/\x7bcolor?\x7d".toList =
      some [.literal '/', .literal 'i', .slot true ⟨"id", true⟩, .slot true ⟨"color", false⟩] := by
    decide +kernel
  refine ⟨pattern, h, hmatch, ?_⟩
  have hclosing := match?_closed (fun name => if name = "id" then .number else .plain) rfl rfl rfl h
  rw [hparameters] at hclosing
  simp only [List.forall_mem_cons] at hclosing
  obtain ⟨parts, hcut, hclosing⟩ := hclosing
    ⟨⟨by decide +kernel, trivial, trivial⟩, ⟨by decide +kernel, trivial, trivial⟩, by simp⟩
  obtain ⟨bindings', hclosed, hsame⟩ := hclosing "/i/42" _ (by decide) hmatch
  obtain rfl := Option.some.inj (hparts.symm.trans hcut)
  rcases hsame with rfl | ⟨front, behind, fills, hparts, -, hbehind, -⟩
  · exact hclosed
  · rcases front with _ | ⟨_, _ | ⟨_, _ | ⟨_, _ | ⟨_, front⟩⟩⟩⟩
    · obtain rfl := (List.cons.inj hparts).2
      obtain ⟨_, _, h, -⟩ := hbehind (.literal 'i') List.mem_cons_self
      cases h
    all_goals simp at hparts

-- The slash of the template takes the one at the end, so `b` can have the value.
theorem closing_slash_taken :
    ∃ pattern : Pattern,
      (Pattern.ofTemplate default [] "/\x7bb?\x7d//\x7bc?\x7d").result = .ok pattern ∧
      pattern.match? "/v" = .ok (some [("c", "v")]) ∧
      pattern.match? ("/v" ++ "/") = .ok (some [("b", "v")]) := by
  have hseen : ((Pattern.ofTemplate default [] "/\x7bb?\x7d//\x7bc?\x7d").result.toOption.bind
      fun pattern => (pattern.match? "/v").toOption.bind fun found =>
        (pattern.match? ("/v" ++ "/")).toOption.map (found, ·)) =
      some (some [("c", "v")], some [("b", "v")]) := by decide +kernel
  obtain ⟨pattern, h, hfound⟩ := Except.exists_ok_of_bind hseen
  obtain ⟨found, hfound, hsame⟩ := Option.bind_eq_some_iff.mp hfound
  obtain ⟨found', hfound', hsame⟩ := Option.map_eq_some_iff.mp hsame
  obtain ⟨rfl, rfl⟩ := Prod.mk.inj hsame
  exact ⟨pattern, h, Except.eq_ok_of_toOption hfound, Except.eq_ok_of_toOption hfound'⟩

end Signpost.Template
