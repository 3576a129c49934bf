import Signpost.Proofs.Template.Search

namespace Signpost.Template

-- Whether what follows a placeholder begins with a slash, if anything follows.
def startsSlash : List Part → Bool
  | [] => true
  | .literal c :: _ => c == '/'
  | .slot slashed _ :: _ => slashed

-- Each placeholder is followed by a slash or the end.
def spaced : List Part → Bool
  | [] => true
  | .literal _ :: parts => spaced parts
  | .slot _ _ :: parts => startsSlash parts && spaced parts

-- Parts of which nothing but slashes is left when all values are left out.
def Part.optional : Part → Bool
  | .literal c => c == '/'
  | .slot _ parameter => !parameter.required

-- The first optional placeholder is followed by slashes and optional placeholders only.
def tailed : List Part → Bool
  | [] => true
  | .literal _ :: parts => tailed parts
  | .slot _ parameter :: parts =>
      if parameter.required then tailed parts else parts.all Part.optional

-- The path that results when the first placeholders are filled with `values`. The others are
-- left out together with their slashes.
def filled : List Part → List String → List Char
  | [], _ => []
  | .literal c :: parts, values => c :: filled parts values
  | .slot slashed _ :: parts, value :: values =>
      slashText slashed ++ value.toList ++ filled parts values
  | .slot _ _ :: parts, [] => filled parts []

variable {constraints : Constraints} {rules : String → Rule} {rule : Rule} {parts : List Part}
  {values : List String} {path : List Char}

theorem tailed_of_all (h : parts.all Part.optional = true) : tailed parts = true := by
  induction parts with
  | nil => rfl
  | cons part parts ih =>
      rw [List.all_cons, Bool.and_eq_true] at h
      cases part with
      | literal c => exact ih h.2
      | slot slashed parameter =>
          rw [tailed]
          split
          · exact ih h.2
          · exact h.2

theorem tailed_of_cons {part : Part} (h : tailed (part :: parts) = true) : tailed parts = true := by
  cases part with
  | literal c => exact h
  | slot slashed parameter =>
      rw [tailed] at h
      split at h
      · exact h
      · exact tailed_of_all h

theorem filled_nil (h : parts.all Part.optional = true) : ∀ c ∈ filled parts [], c = '/' := by
  induction parts with
  | nil => simp [filled]
  | cons part parts ih =>
      rw [List.all_cons, Bool.and_eq_true] at h
      cases part with
      | slot slashed parameter => exact ih h.2
      | literal c =>
          rw [filled, List.forall_mem_cons]
          exact ⟨by simpa [Part.optional] using h.1, ih h.2⟩

theorem head?_filled (hstart : startsSlash parts = true) (htail : tailed parts = true)
    (hrequired : ∀ parameter ∈ (slots parts).drop values.length, parameter.required = false) :
    ∀ c ∈ (filled parts values).head?, c = '/' := by
  cases parts with
  | nil => simp [filled]
  | cons part parts =>
      cases part with
      | literal c =>
          rintro _ ⟨rfl⟩
          exact beq_iff_eq.mp hstart
      | slot slashed parameter =>
          have hslashed : slashed = true := hstart
          cases values with
          | cons value values => simp [filled, hslashed, slashText]
          | nil =>
              have hoptional : parameter.required = false := hrequired parameter List.mem_cons_self
              rw [tailed, hoptional, if_neg (by decide)] at htail
              exact fun c hc => filled_nil htail c (List.mem_of_head? hc)

-- No value stands in a path of slashes.
theorem fills_eq_nil (hspelled : rule.Spelled) (hpath : ∀ c ∈ path, c = '/') :
    rule.fills path = [] := by
  rw [List.eq_nil_iff_forall_not_mem]
  intro fill hmem
  obtain ⟨hfront, hvalue, -⟩ := mem_fills.mp hmem
  obtain ⟨hne, hnot⟩ := Rule.whole_of_accepts hspelled hvalue
  obtain ⟨c, hc⟩ := List.exists_mem_of_ne_nil _ hne
  have hin : c ∈ path := hfront.subset (by simp [Fill.text, hc])
  exact hnot (hpath c hin ▸ hc)

-- Of slashes alone the first trial fills nothing.
theorem exists_head?_trials_nil (h : parts.all Part.optional = true)
    (hspelled : ∀ parameter ∈ slots parts, (rules parameter.name).Spelled) :
    ∃ fills, (trials rules parts (filled parts [])).head? = some (fills, false) ∧
      bound parts fills = [] := by
  induction parts with
  | nil => exact ⟨[], rfl, rfl⟩
  | cons part parts ih =>
      rw [List.all_cons, Bool.and_eq_true] at h
      cases part with
      | literal c =>
          obtain ⟨fills, hhead, hbound⟩ := ih h.2 hspelled
          refine ⟨fills, ?_, hbound⟩
          rw [filled, trials, List.head?_cons, if_pos rfl]
          exact hhead
      | slot slashed parameter =>
          have hoptional : parameter.required = false := by simpa [Part.optional] using h.1
          have hown := hspelled parameter List.mem_cons_self
          obtain ⟨fills, hhead, hbound⟩ :=
            ih h.2 fun other hmem => hspelled other (List.mem_cons_of_mem _ hmem)
          have hnone := fills_eq_nil hown (filled_nil h.2)
          exact ⟨none :: fills, head?_trials_omitted hnone hoptional hhead slashed, hbound⟩

-- The first trial of a path that results from filling is the filling. The induction is on the
-- parts of the template.
theorem exists_head?_trials (hspaced : spaced parts = true) (htail : tailed parts = true)
    (hspelled : ∀ parameter ∈ slots parts, (rules parameter.name).Spelled)
    (hlength : values.length ≤ (slots parts).length)
    (hrequired : ∀ parameter ∈ (slots parts).drop values.length, parameter.required = false)
    (hvalues : ∀ entry ∈ (slots parts).zip values,
      (rules entry.1.name).accepts entry.2.toList = true) :
    ∃ fills, (trials rules parts (filled parts values)).head? = some (fills, false) ∧
      bound parts fills = ((slots parts).map (·.name)).zip values := by
  induction parts generalizing values with
  | nil => exact ⟨[], rfl, rfl⟩
  | cons part parts ih =>
      cases part with
      | literal c =>
          obtain ⟨fills, hhead, hbound⟩ := ih hspaced htail hspelled hlength hrequired hvalues
          refine ⟨fills, ?_, hbound⟩
          rw [filled, trials, List.head?_cons, if_pos rfl]
          exact hhead
      | slot slashed parameter =>
          have hslots : slots (.slot slashed parameter :: parts) = parameter :: slots parts := rfl
          cases values with
          | nil =>
              have hoptional : parameter.required = false := hrequired parameter List.mem_cons_self
              rw [tailed, hoptional, if_neg (by decide)] at htail
              have hall : (Part.slot slashed parameter :: parts).all Part.optional = true := by
                rw [List.all_cons, Part.optional, hoptional, htail]
                rfl
              obtain ⟨fills, hhead, hbound⟩ := exists_head?_trials_nil hall hspelled
              exact ⟨fills, hhead, by rw [hbound, List.zip_nil_right]⟩
          | cons value values =>
              rw [spaced, Bool.and_eq_true] at hspaced
              rw [hslots, List.forall_mem_cons] at hspelled
              rw [hslots, List.length_cons, List.length_cons] at hlength
              rw [hslots, List.length_cons, List.drop_succ_cons] at hrequired
              rw [hslots, List.zip_cons_cons, List.forall_mem_cons] at hvalues
              have hlater := tailed_of_cons htail
              obtain ⟨fills, hhead, hbound⟩ := ih hspaced.2 hlater hspelled.2
                (Nat.le_of_succ_le_succ hlength) hrequired hvalues.2
              refine ⟨some ⟨slashed, value.toList, none⟩ :: fills, ?_, ?_⟩
              · have hend := head?_filled hspaced.1 hlater hrequired
                have hfill := head?_fills hspelled.1 hvalues.1 hend slashed
                refine head?_trials_filled hfill ?_ slashed
                simpa [Fill.text] using hhead
              · rw [hslots, bound, hbound, String.ofList_toList]
                rfl

variable {template : String} {pattern : Pattern}

-- Filling a template with values of its constraints and matching it gives the values back. All
-- required placeholders are filled, and as many of the optional ones as there are values.
theorem match?_filled (rules : String → Rule) (values : List String)
    (h : (Pattern.ofTemplate default constraints template).result = .ok pattern)
    (hparts : parts? default none template.toList = some parts)
    (hspaced : spaced parts = true) (htail : tailed parts = true)
    (hrules : ∀ parameter ∈ slots parts,
      Entries.get? constraints (.str parameter.name) = (rules parameter.name).constraint? ∧
        (rules parameter.name).Spelled)
    (hlength : values.length ≤ (slots parts).length)
    (hrequired : ∀ parameter ∈ (slots parts).drop values.length, parameter.required = false)
    (hvalues : ∀ entry ∈ (slots parts).zip values,
      (rules entry.1.name).accepts entry.2.toList = true) :
    pattern.match? (String.ofList (filled parts values)) =
      .ok (some (((slots parts).map (·.name)).zip values)) := by
  obtain ⟨parts', items, hcompiled⟩ := compiled_of_ofTemplate rfl h
  obtain rfl : parts' = parts := Option.some.inj (hcompiled.cut.symm.trans hparts)
  have hgoverned : Governed default constraints rules (slots parts') :=
    governed_of_stated rfl fun parameter hmem =>
      ⟨(hrules parameter hmem).1, (hrules parameter hmem).2.stated⟩
  obtain ⟨fills, hhead, hbound⟩ := exists_head?_trials hspaced htail
    (fun parameter hmem => (hrules parameter hmem).2) hlength hrequired hvalues
  rw [hcompiled.match?_eq_trials rfl hgoverned, String.toList_ofList, hhead, ← hbound]
  rfl

-- The number and the first of two optional values are filled in.
theorem match?_filled_item :
    ∃ (pattern : Pattern) (parts : List Part),
      (Pattern.ofTemplate default [(.str "id", Route.numberPattern)]
        "/i/\x7bid\x7d/\x7bcolor?\x7d/\x7bsize?\x7d").result = .ok pattern ∧
      parts? default none "/i/\x7bid\x7d/\x7bcolor?\x7d/\x7bsize?\x7d".toList = some parts ∧
      filled parts ["7", "red-1"] = "/i/7/red-1".toList ∧
      pattern.match? (String.ofList (filled parts ["7", "red-1"])) =
        .ok (some [("id", "7"), ("color", "red-1")]) := by
  have hok : (Pattern.ofTemplate default [(.str "id", Route.numberPattern)]
      "/i/\x7bid\x7d/\x7bcolor?\x7d/\x7bsize?\x7d").result.isOk = true := by decide +kernel
  obtain ⟨pattern, h⟩ := Except.exists_ok_of_isOk hok
  have hparts : parts? default none "/i/\x7bid\x7d/\x7bcolor?\x7d/\x7bsize?\x7d".toList =
      some [.literal '/', .literal 'i', .slot true ⟨"id", true⟩, .slot true ⟨"color", false⟩,
        .slot true ⟨"size", false⟩] := by decide +kernel
  refine ⟨pattern, _, h, hparts, rfl, ?_⟩
  refine match?_filled (fun name => if name = "id" then .number else .plain) ["7", "red-1"] h
    hparts rfl rfl ?_ (by decide) (by decide) (by decide +kernel)
  intro parameter hmem
  have hlist : parameter ∈ [(⟨"id", true⟩ : Parameter), ⟨"color", false⟩, ⟨"size", false⟩] := hmem
  simp only [List.mem_cons, List.not_mem_nil, or_false] at hlist
  rcases hlist with rfl | rfl | rfl
  · exact ⟨by decide +kernel, trivial⟩
  · exact ⟨by decide +kernel, trivial⟩
  · exact ⟨by decide +kernel, trivial⟩

end Signpost.Template
