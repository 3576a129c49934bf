import Signpost.Proofs.Template.Acceptance
import Signpost.Proofs.Template.Search

namespace Signpost.Template

open Signpost.Regex Signpost.Text

variable {config : Config} {constraints : Constraints} {mode : Flags} {groups : Nat}
  {items : List Item} {word text : List Char} {template : String}
  {pattern : Pattern} {c d : Char}

def Ascii (text : List Char) : Prop := ∀ c ∈ text, c.toNat < 128

instance : DecidablePred Ascii := fun text =>
  decidable_of_iff (text.all fun c => c.toNat < 128) (by simp [Ascii])

theorem parts?_of_not_mem (hopen : config.paramOpen ∉ text) :
    parts? config none text = some (text.map .literal) := by
  induction text with
  | nil => rfl
  | cons c text ih =>
      rw [List.mem_cons, not_or] at hopen
      rw [parts?, if_neg (Ne.symm hopen.1), ih hopen.2]
      cases text <;> rfl

theorem slots_of_literals (word : List Char) : slots (word.map .literal) = [] := by
  induction word with
  | nil => rfl
  | cons c word ih => exact ih

theorem Laid.items_eq (h : Laid config constraints mode groups (word.map .literal) items) :
    items = word.map .literal := by
  induction word generalizing items with
  | nil =>
      cases h
      rfl
  | cons c word ih =>
      cases h with
      | literal _ hrest => rw [ih hrest, List.map_cons]

theorem nodes_literals (mode : Flags) (word : List Char) :
    (word.map Item.literal).flatMap (Item.nodes mode) = literals mode word := by
  rw [List.flatMap_map]
  exact List.flatMap_pure_eq_map _ word

theorem bindings_literals (word : List Char) (found : Spot) :
    bindings (word.map .literal) found = [] := by
  induction word with
  | nil => rfl
  | cons c word ih => exact ih

-- Behind a text that fits the characters of the template there may be one slash.
theorem exists_mem_ends_literals (mode : Flags) (word path : List Char) :
    (∃ found, found ∈ (wholeNode mode (word.map .literal)).ends (.start path)) ↔
      ∃ text close, path = text ++ slashText close ∧
        fits (word.map fun c => (Atom.literal c.toNat).accepts mode) text = true := by
  have hstart : (Spot.start path).ahead = path := rfl
  rw [ends_wholeNode, nodes_literals, ends_literals_along, endsAlong_eq, List.length_map, hstart]
  constructor
  · rintro ⟨found, hfound⟩
    obtain ⟨s, hs, hclose⟩ := List.mem_flatMap.mp hfound
    split at hs
    next hfits =>
      obtain rfl := List.mem_singleton.mp hs
      rw [ends_close] at hclose
      obtain ⟨close, hclose, -⟩ := List.mem_map.mp hclose
      have hrest := mem_closes.mp hclose
      rw [Spot.pass_ahead, hstart] at hrest
      refine ⟨path.take word.length, close, ?_, hfits⟩
      rw [← hrest]
      exact (List.prefix_iff_eq_append.mp (List.take_prefix _ _)).symm
    · simp at hs
  · rintro ⟨text, close, rfl, hfits⟩
    have hlength : text.length = word.length := by
      rw [length_of_fits hfits, List.length_map]
    have htake : (text ++ slashText close).take word.length = text := by
      rw [← hlength, List.take_left]
    rw [htake, if_pos hfits, List.flatMap_singleton, ends_close]
    refine ⟨_, List.mem_map.mpr ⟨close, mem_closes.mpr ?_, rfl⟩⟩
    rw [Spot.pass_ahead, hstart, List.drop_left]

-- A path of a text that fits and of a slash that may be missing is folded like the template.
theorem fits_closed_iff {same : Char → Char → Bool} {fold : Char → Char} {path : List Char}
    (hslash : ∀ d ∈ path, (d == '/') = (fold d == fold '/'))
    (hsame : ∀ c ∈ word, ∀ d ∈ path, same c d = (fold d == fold c)) :
    (∃ text close, path = text ++ slashText close ∧ fits (word.map same) text = true) ↔
      path.map fold = word.map fold ∨ path.map fold = (word ++ ['/']).map fold := by
  have hfront {text last : List Char} (hpath : path = text ++ last) :
      fits (word.map same) text = true ↔ text.map fold = word.map fold :=
    fits_fold fun c hc d hd => hsame c hc d (hpath ▸ List.mem_append_left _ hd)
  constructor
  · rintro ⟨text, close, hpath, hfits⟩
    rw [hfront hpath] at hfits
    rw [hpath, List.map_append, List.map_append, hfits]
    cases close with
    | false => exact .inl (List.append_nil _)
    | true => exact .inr rfl
  · rintro (hpath | hpath)
    · have hwhole := (List.append_nil path).symm
      exact ⟨path, false, hwhole, (hfront hwhole).mpr hpath⟩
    · rw [List.map_append, List.map_eq_append_iff] at hpath
      obtain ⟨text, last, hpath, htext, hlast⟩ := hpath
      rw [List.map_singleton, List.map_eq_singleton_iff] at hlast
      obtain ⟨d, rfl, hd⟩ := hlast
      have hd' := hslash d (by simp [hpath])
      rw [hd, beq_self_eq_true, beq_iff_eq] at hd'
      subst hd'
      exact ⟨text, true, hpath, (hfront hpath).mpr htext⟩

-- Where characters are taken that are folded alike, paths are matched that are folded alike.
theorem Compiled.match?_literals
    (h : Compiled config constraints template (word.map .literal) items pattern)
    (fold : Char → Char) (path : String)
    (hsame : ∀ c ∈ '/' :: word, ∀ d ∈ path.toList,
      (Atom.literal c.toNat).accepts config.flags d = (fold d == fold c)) :
    pattern.match? path =
      .ok (if path.toList.map fold = word.map fold ∨
        path.toList.map fold = (word ++ ['/']).map fold then some [] else none) := by
  have hitems := h.laid.items_eq
  subst hitems
  simp only [List.forall_mem_cons, accepts_slash] at hsame
  have hfound := (exists_mem_ends_literals config.flags word path.toList).trans
    (fits_closed_iff hsame.1 hsame.2)
  rw [← h.node] at hfound
  rw [h.match?_eq, match?_eq_head?]
  cases hends : pattern.regex.node.ends (.start path.toList) with
  | nil =>
      rw [hends] at hfound
      rw [if_neg (hfound.not.mp (by simp))]
      rfl
  | cons found others =>
      rw [if_pos (hfound.mp ⟨found, hends ▸ List.mem_cons_self⟩), List.head?_cons, Option.map_some,
        bindings_literals]

theorem toNat_toLower (hc : c.toNat < 128) : c.toLower.toNat = asciiLower c.toNat := by
  have hall : ∀ code < 128, (Char.ofNat code).toLower.toNat = asciiLower code := by decide +kernel
  have h := hall c.toNat hc
  rwa [Char.ofNat_toNat] at h

-- The other small forms of an ASCII letter are not in ASCII.
theorem variantCodes_beyond :
    ∀ code < 128, ∀ other ∈ variantCodes (asciiLower code), 128 ≤ other := by
  decide +kernel

theorem isCased_ascii : ∀ code < 128, isCased code = isAsciiCased code := by
  decide +kernel

theorem asciiLower_lt {code : Nat} (h : code < 128) : asciiLower code < 128 := by
  unfold asciiLower
  split
  next hletter =>
    rw [Bool.and_eq_true, decide_eq_true_eq, decide_eq_true_eq] at hletter
    omega
  · exact h

-- A sign without case is the small form of itself only.
theorem asciiLower_eq_iff {code other : Nat} (h : isAsciiCased code = false) :
    asciiLower other = asciiLower code ↔ other = code := by
  simp only [isAsciiCased, Bool.or_eq_false_iff, Bool.and_eq_false_iff,
    decide_eq_false_iff_not] at h
  have hcode : asciiLower code = code := by
    simp only [asciiLower, Bool.and_eq_true, decide_eq_true_eq]
    rw [if_neg (by omega)]
  rw [hcode]
  simp only [asciiLower, Bool.and_eq_true, decide_eq_true_eq]
  split <;> omega

-- Where case is ignored, letters of ASCII are taken for each other if they have one small form.
theorem accepts_ascii (hcase : mode.ignoreCase = true) (hascii : mode.ascii = false)
    (hc : c.toNat < 128) (hd : d.toNat < 128) :
    (Atom.literal c.toNat).accepts mode d = (d.toLower == c.toLower) := by
  have hfold : (d.toLower == c.toLower) = (asciiLower d.toNat == asciiLower c.toNat) := by
    rw [← toNat_toLower hd, ← toNat_toLower hc, Bool.eq_iff_iff, beq_iff_eq, beq_iff_eq,
      Char.toNat_inj]
  have hsmall : lowerCode d.toNat = asciiLower d.toNat := if_pos hd
  have hsmall' : lowerCode c.toNat = asciiLower c.toNat := if_pos hc
  simp only [Atom.accepts, acceptsLiteral, hcase, hascii, hasCase, sameLetter, foldCode,
    Bool.true_and, Bool.false_eq_true, if_false, hsmall, hsmall', hfold]
  split
  next hcased =>
    have hnot : asciiLower d.toNat ∉ variantCodes (asciiLower c.toNat) := fun hmem =>
      Nat.not_le.mpr (asciiLower_lt hd) (variantCodes_beyond _ hc _ hmem)
    rw [Bool.eq_iff_iff]
    simp [hnot]
  next hcased =>
    rw [isCased_ascii _ hc, Bool.not_eq_true] at hcased
    rw [Bool.eq_iff_iff, beq_iff_eq, beq_iff_eq, asciiLower_eq_iff hcased]

theorem toList_toLower (text : String) : text.toLower.toList = text.toList.map Char.toLower :=
  String.toList_map

-- A template without placeholders is accepted, and it matches itself and nothing else, but for a
-- slash at the end. Where case is ignored so does what has the same small letters.
theorem match?_literal (config : Config) (constraints : Constraints) (template : String)
    (hescape : config.escapeLiterals = true) (hopen : config.paramOpen ∉ template.toList) :
    ∃ pattern, (Pattern.ofTemplate config constraints template).result = .ok pattern ∧
      (config.caseSensitive = true → ∀ path : String, pattern.match? path =
        .ok (if path = template ∨ path = template ++ "/" then some [] else none)) ∧
      (config.caseSensitive = false → Ascii template.toList →
        ∀ path : String, Ascii path.toList → pattern.match? path =
          .ok (if path.toLower = template.toLower ∨ path.toLower = (template ++ "/").toLower
            then some [] else none)) := by
  have hparts := parts?_of_not_mem hopen
  have hslots := slots_of_literals template.toList
  obtain ⟨pattern, h⟩ : ∃ pattern,
      (Pattern.ofTemplate config constraints template).result = .ok pattern :=
    exists_ofTemplate hescape hparts (by simp [hslots]) (by simp [hslots]) (by simp [hslots])
  obtain ⟨parts, items, hcompiled⟩ := compiled_of_ofTemplate hescape h
  obtain rfl := Option.some.inj (hcompiled.cut.symm.trans hparts)
  refine ⟨pattern, h, fun hcase path => ?_, fun hcase htemplate path hpath => ?_⟩
  · have hmode : config.flags.ignoreCase = false := by simp [Config.flags, hcase]
    rw [hcompiled.match?_literals id path fun c _ d _ => accepts_literal hmode c d]
    simp only [List.map_id, ← String.toList_inj, String.toList_append]
    rfl
  · have hmode : config.flags.ignoreCase = true := by simp [Config.flags, hcase]
    rw [hcompiled.match?_literals Char.toLower path fun c hc d hd =>
      accepts_ascii hmode rfl ?_ (hpath d hd)]
    · simp only [← String.toList_inj, String.toList_append, toList_toLower]
      rfl
    · rcases List.mem_cons.mp hc with rfl | hc
      · decide
      · exact htemplate c hc

-- A full stop stands for itself, and the case of letters counts only where it is not ignored.
theorem match?_literal_page :
    (∃ pattern, (Pattern.ofTemplate default [] "/a.html").result = .ok pattern ∧
      pattern.match? "/a.html/" = .ok (some []) ∧ pattern.match? "/a-html" = .ok none ∧
      pattern.match? "/A.html" = .ok none) ∧
    ∃ pattern, (Pattern.ofTemplate { (default : Config) with caseSensitive := false } []
      "/a.html").result = .ok pattern ∧ pattern.match? "/A.HTML/" = .ok (some []) := by
  obtain ⟨pattern, h, hexact, -⟩ := match?_literal default [] "/a.html" rfl (by decide)
  obtain ⟨folding, hfolding, -, hfolded⟩ :=
    match?_literal { (default : Config) with caseSensitive := false } [] "/a.html" rfl (by decide)
  refine ⟨⟨pattern, h, hexact rfl _, hexact rfl _, hexact rfl _⟩, folding, hfolding, ?_⟩
  have hsame : "/A.HTML/".toLower = ("/a.html" ++ "/").toLower := by
    rw [← String.toList_inj, toList_toLower, toList_toLower]
    decide
  exact (hfolded rfl (by decide) "/A.HTML/" (by decide)).trans (by rw [if_pos (.inr hsame)])

end Signpost.Template
