import Signpost.Callback
import Signpost.Proofs.Outcome
import Signpost.Proofs.Text.Cut
import Signpost.Proofs.Text.Space
import Signpost.Proofs.Value

namespace Signpost

-- A text in which a character comes once, and what stands before and behind it.
structure Text.Halves (s : Char) (text : String) (before after : List Char) : Prop where
  text_eq : text.toList = before ++ s :: after
  before : s ∉ before
  after : s ∉ after

namespace Callback

open Text (Halves Trims)

variable {s : Char} {text className method : String} {before after : List Char}

-- A mapping that names the class and its method, whatever else it holds.
structure Names (entries : List (Value × Value)) (className method : String) : Prop where
  className : Entries.get? entries (.str "controller") = some (.str className)
  method : Entries.get? entries (.str "method") = some (.str method) ∨
    Entries.get? entries (.str "method") = none ∧
      Entries.get? entries (.str "uses") = some (.str method)

theorem ofNames_eq_ok {callback : Callback} :
    ofNames className method = .ok callback ↔
      ∃ ref : MethodRef, callback = .method ref ∧ ref.className = className ∧
        ref.method = method := by
  unfold ofNames
  constructor
  · intro h
    split at h
    · split at h
      · obtain rfl := Except.ok.inj h
        exact ⟨_, rfl, rfl, rfl⟩
      · cases h
    · cases h
  · rintro ⟨ref, rfl, rfl, rfl⟩
    rw [dif_pos ref.className_ne, dif_pos ref.method_ne]

theorem ofNames_eq_error {error : Error} (h : ofNames className method = .error error) :
    error = .configuration (.callbackParts (.str className) (.str method)) := by
  unfold ofNames at h
  split at h
  · split at h
    · cases h
    · exact (Except.error.inj h).symm
  · exact (Except.error.inj h).symm

theorem ofMapping_of_names {entries : List (Value × Value)} (h : Names entries className method) :
    ofMapping entries = ofNames className method := by
  unfold ofMapping
  rcases h.method with hmethod | ⟨hmethod, huses⟩
  · simp [h.className, hmethod]
  · simp [h.className, hmethod, huses]

theorem ofText_of_halves (h : Halves s text before after) :
    ofText (String.singleton s) text =
      ofNames (String.ofList (Text.trim before)) (String.ofList (Text.trim after)) := by
  have hcut : Text.cut? [s] text.toList = some (before, after) :=
    Text.cut?_eq_some_iff.mpr ⟨h.text_eq, h.before⟩
  have hpart : Text.hasPart [s] after = false := by
    simp [Text.hasPart, Text.cut?_eq_none_iff.mpr h.after]
  simp [ofText, hcut, hpart]

theorem ofText_of_no_halves (h : ¬ ∃ before after, Halves s text before after) :
    ofText (String.singleton s) text =
      .error (.configuration (.callbackShape text (String.singleton s))) := by
  rw [ofText, String.toList_singleton]
  cases hcut : Text.cut? [s] text.toList with
  | none => rfl
  | some cut =>
      obtain ⟨before, after⟩ := cut
      obtain ⟨htext, hbefore⟩ := Text.cut?_eq_some_iff.mp hcut
      have hafter : Text.hasPart [s] after = true := by
        rw [Text.hasPart, Option.isSome_iff_ne_none, ne_eq, Text.cut?_eq_none_iff, not_not]
        by_contra hafter
        exact h ⟨before, after, htext, hbefore, hafter⟩
      simp [hafter]

-- Two names that are trimmed already are read back from the text that joins them.
theorem ofText_join (hclass : Text.Tight className.toList) (hmethod : Text.Tight method.toList)
    (hclass_free : s ∉ className.toList) (hmethod_free : s ∉ method.toList) :
    ofText (String.singleton s) (className ++ String.singleton s ++ method) =
      ofNames className method := by
  have hhalves : Halves s (className ++ String.singleton s ++ method) className.toList
      method.toList := ⟨by simp, hclass_free, hmethod_free⟩
  rw [ofText_of_halves hhalves, hclass.trim_eq, hmethod.trim_eq, String.ofList_toList,
    String.ofList_toList]

theorem ofText_of_trims (h : Halves s text before after) (hclass : Trims before className.toList)
    (hmethod : Trims after method.toList) :
    ofText (String.singleton s) text = ofNames className method := by
  rw [ofText_of_halves h, ← hclass.eq_trim, ← hmethod.eq_trim, String.ofList_toList,
    String.ofList_toList]

theorem exists_ofText_iff : (∃ callback, ofText (String.singleton s) text = .ok callback) ↔
    ∃ before after, Halves s text before after ∧
      (∃ c ∈ before, Text.isSpace c = false) ∧ ∃ c ∈ after, Text.isSpace c = false := by
  constructor
  · rintro ⟨callback, hcallback⟩
    by_cases h : ∃ before after, Halves s text before after
    · obtain ⟨before, after, hhalves⟩ := h
      rw [ofText_of_halves hhalves] at hcallback
      obtain ⟨ref, -, hclass, hmethod⟩ := ofNames_eq_ok.mp hcallback
      refine ⟨before, after, hhalves, Text.trim_ne_nil_iff.mp ?_, Text.trim_ne_nil_iff.mp ?_⟩
      · have hne := ref.className_ne
        rwa [hclass, ne_eq, String.ofList_eq_empty_iff] at hne
      · have hne := ref.method_ne
        rwa [hmethod, ne_eq, String.ofList_eq_empty_iff] at hne
    · rw [ofText_of_no_halves h] at hcallback
      cases hcallback
  · rintro ⟨before, after, hhalves, hbefore, hafter⟩
    let ref : MethodRef :=
      { className := String.ofList (Text.trim before)
        method := String.ofList (Text.trim after)
        className_ne := by simpa using Text.trim_ne_nil_iff.mpr hbefore
        method_ne := by simpa using Text.trim_ne_nil_iff.mpr hafter }
    refine ⟨.method ref, ?_⟩
    rw [ofText_of_halves hhalves]
    exact ofNames_eq_ok.mpr ⟨ref, rfl, rfl, rfl⟩

-- A text that states no callback is a fault of the configuration.
theorem exists_fault_of_ofText {error : Error}
    (h : ofText (String.singleton s) text = .error error) :
    ∃ fault, error = .configuration fault := by
  by_cases hhalves : ∃ before after, Halves s text before after
  · obtain ⟨before, after, hhalves⟩ := hhalves
    rw [ofText_of_halves hhalves] at h
    exact ⟨_, ofNames_eq_error h⟩
  · rw [ofText_of_no_halves hhalves] at h
    exact ⟨_, (Except.error.inj h).symm⟩

end Callback

-- A text is a callback exactly if the separator comes once in it, with something other than white
-- space on each side; any other text is a fault of the configuration. Whatever comes of a text in
-- which the separator comes once, the same comes of its two trimmed sides, stated as a pair, as a
-- mapping or as the text that joins them; and a callback that comes of it is read as itself.
theorem Callback.text_forms_agree {config : Config} {s : Char}
    (hseparator : config.callbackSeparator = String.singleton s) (text : String) :
    let stated := fun value => Callback.read config (.value value)
    ((∃ callback, stated (.str text) = .ok callback) ↔
      ∃ before after, Text.Halves s text before after ∧
        (∃ c ∈ before, Text.isSpace c = false) ∧ ∃ c ∈ after, Text.isSpace c = false) ∧
    (∀ error, stated (.str text) = .error error → ∃ fault, error = .configuration fault) ∧
    ∀ before after className method, Text.Halves s text before after →
      Text.Trims before className.toList → Text.Trims after method.toList →
      stated (.tuple [.str className, .str method]) = stated (.str text) ∧
      (∀ entries, Names entries className method →
        stated (.mapping entries) = stated (.str text)) ∧
      stated (.str (className ++ config.callbackSeparator ++ method)) = stated (.str text) ∧
      ∀ callback, stated (.str text) = .ok callback →
        Callback.read config (.callback callback) = .ok callback ∧
        callback.className? = some className ∧ callback.method? = some method ∧
        (s = '@' → callback.identifier = className ++ config.callbackSeparator ++ method) := by
  intro stated
  have hstated (text : String) : stated (.str text) = ofText (String.singleton s) text := by
    rw [← hseparator]
    rfl
  refine ⟨?_, ?_, ?_⟩
  · rw [hstated]
    exact exists_ofText_iff
  · rw [hstated]
    exact fun error => exists_fault_of_ofText
  intro before after className method hhalves hclass hmethod
  have htext : stated (.str text) = ofNames className method :=
    (hstated text).trans (ofText_of_trims hhalves hclass hmethod)
  refine ⟨htext.symm, fun entries hentries => ?_, ?_, fun callback hcallback => ?_⟩
  · rw [htext]
    exact ofMapping_of_names hentries
  · have hclass_free : s ∉ className.toList := fun hmem => hhalves.before (hclass.mem hmem)
    have hmethod_free : s ∉ method.toList := fun hmem => hhalves.after (hmethod.mem hmem)
    rw [htext, hstated, hseparator]
    exact ofText_join hclass.tight hmethod.tight hclass_free hmethod_free
  · obtain ⟨ref, rfl, rfl, rfl⟩ := ofNames_eq_ok.mp (htext.symm.trans hcallback)
    refine ⟨rfl, rfl, rfl, fun hat => ?_⟩
    rw [hseparator, hat]
    rfl

-- A text with white space around both of its names.
theorem Callback.text_forms_agree_users :
    let text := "\tUsers @ show\n"
    ∃ callback, Callback.read default (.value (.str text)) = .ok callback ∧
      Callback.read default (.value (.tuple [.str "Users", .str "show"])) = .ok callback ∧
      Callback.read default (.value (.mapping
        [(.str "uses", .str "show"), (.str "controller", .str "Users")])) = .ok callback ∧
      Callback.read default (.value (.str "Users@show")) = .ok callback ∧
      callback.identifier = "Users@show" := by
  intro text
  have hseparator : (default : Config).callbackSeparator = String.singleton '@' := rfl
  have hhalves : Text.Halves '@' text "\tUsers ".toList " show\n".toList :=
    ⟨by decide, by decide, by decide⟩
  have hclass : Text.Trims "\tUsers ".toList "Users".toList := Text.trims_trim _
  have hmethod : Text.Trims " show\n".toList "show".toList := Text.trims_trim _
  have hnames : Names [(.str "uses", .str "show"), (.str "controller", .str "Users")]
      "Users" "show" :=
    ⟨by simp [Entries.get?], .inr ⟨by simp [Entries.get?], by simp [Entries.get?]⟩⟩
  obtain ⟨hstates, -, hforms⟩ := Callback.text_forms_agree hseparator text
  obtain ⟨callback, hcallback⟩ := hstates.mpr
    ⟨_, _, hhalves, ⟨'U', by decide, by decide⟩, 's', by decide, by decide⟩
  obtain ⟨htuple, hmapping, hjoined, hread⟩ := hforms _ _ _ _ hhalves hclass hmethod
  obtain ⟨-, -, -, hidentifier⟩ := hread callback hcallback
  exact ⟨callback, hcallback, htuple.trans hcallback, (hmapping _ hnames).trans hcallback,
    hjoined.trans hcallback, hidentifier rfl⟩

end Signpost
