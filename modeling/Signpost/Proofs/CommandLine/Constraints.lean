import Signpost.CommandLine.Constraints
import Signpost.Proofs.Entries
import Signpost.Proofs.Outcome
import Signpost.Proofs.Text.Cut

namespace Signpost.CommandLine

variable {item : String} {option : String × String} {items : List String}
  {entries : List (String × String)}

-- A name that may be written before an equals sign.
def Nameable (name : String) : Prop :=
  name ≠ "" ∧ '=' ∉ name.toList

instance (name : String) : Decidable (Nameable name) :=
  inferInstanceAs (Decidable (_ ∧ _))

-- Text with an equals sign in it that does not come first.
def Assigns (item : String) : Prop :=
  '=' ∈ item.toList ∧ item.toList.head? ≠ some '='

def written (option : String × String) : String :=
  option.1 ++ "=" ++ option.2

theorem readConstraint_eq_ok_iff : readConstraint item = .ok option ↔
    item = written option ∧ Nameable option.1 := by
  obtain ⟨name, pattern⟩ := option
  unfold readConstraint
  constructor
  · intro h
    split at h
    next c front back hcut =>
      obtain ⟨rfl, rfl⟩ := Prod.mk.inj (Except.ok.inj h)
      obtain ⟨hitem, hfree⟩ := Text.cut?_eq_some_iff.mp hcut
      refine ⟨String.toList_injective ?_, by simp, by simpa using hfree⟩
      simp [written, hitem]
    next => cases h
  · rintro ⟨rfl, hne, hfree⟩
    dsimp only at hne hfree
    obtain ⟨c, front, hname⟩ := List.exists_cons_of_ne_nil (l := name.toList) (by simpa using hne)
    have hcut : Text.cut? ['='] (written (name, pattern)).toList =
        some (c :: front, pattern.toList) :=
      Text.cut?_eq_some_iff.mpr ⟨by simp [written, hname], hname ▸ hfree⟩
    rw [hcut]
    simp [← hname]

theorem assigns_of_readConstraint (h : readConstraint item = .ok option) : Assigns item := by
  obtain ⟨rfl, hne, hfree⟩ := readConstraint_eq_ok_iff.mp h
  obtain ⟨c, front, hname⟩ :=
    List.exists_cons_of_ne_nil (l := option.1.toList) (by simpa using hne)
  rw [hname, List.mem_cons, not_or] at hfree
  constructor
  · simp [written]
  · simpa [written, hname] using Ne.symm hfree.1

theorem exists_readConstraint_iff :
    (∃ option, readConstraint item = .ok option) ↔ Assigns item := by
  constructor
  · rintro ⟨option, h⟩
    exact assigns_of_readConstraint h
  · rintro ⟨hmem, hhead⟩
    obtain ⟨front, back, hitem, hfree⟩ := List.eq_append_cons_of_mem hmem
    refine ⟨(String.ofList front, String.ofList back), readConstraint_eq_ok_iff.mpr ⟨?_, ?_, ?_⟩⟩
    · exact String.toList_injective (by simp [written, hitem])
    · intro hempty
      rw [String.ofList_eq_empty_iff] at hempty
      simp [hitem, hempty] at hhead
    · simpa using hfree

theorem readConstraint_eq_error {error : Error} (h : readConstraint item = .error error) :
    error = .configuration (.whereOption item) := by
  unfold readConstraint at h
  split at h
  · cases h
  · exact (Except.error.inj h).symm

theorem readConstraints_eq (items : List String) : readConstraints items =
    items.mapM readConstraint >>= fun options => .ok (Entries.ofList options) :=
  rfl

-- What is read of a list are the entries that were written, taken one after the other.
theorem readConstraints_eq_ok_iff : readConstraints items = .ok entries ↔
    ∃ options, (items = options.map written ∧ ∀ option ∈ options, Nameable option.1) ∧
      entries = Entries.ofList options := by
  rw [readConstraints_eq, Except.bind_eq_ok]
  refine exists_congr fun options => and_congr ?_ ?_
  · exact Except.mapM_eq_ok_iff fun _ _ => readConstraint_eq_ok_iff
  · rw [Except.ok.injEq, eq_comm]

theorem exists_readConstraints_iff :
    (∃ entries, readConstraints items = .ok entries) ↔ ∀ item ∈ items, Assigns item := by
  rw [readConstraints_eq, Except.exists_bind_ok_iff, Except.exists_mapM_eq_ok_iff]
  exact forall₂_congr fun item _ => exists_readConstraint_iff

-- The first item that is no assignment is the one that is reported.
theorem exists_of_readConstraints_eq_error {error : Error}
    (h : readConstraints items = .error error) :
    ∃ front item back, items = front ++ item :: back ∧ (∀ earlier ∈ front, Assigns earlier) ∧
      ¬ Assigns item ∧ error = .configuration (.whereOption item) := by
  rw [readConstraints_eq, Except.bind_ok_eq_error_iff] at h
  obtain ⟨front, item, back, hitems, hfront, hitem⟩ := Except.exists_of_mapM_eq_error h
  refine ⟨front, item, back, hitems, ?_, fun hassigns => ?_, readConstraint_eq_error hitem⟩
  · exact fun earlier hmem => exists_readConstraint_iff.mp (hfront earlier hmem)
  · obtain ⟨option, hoption⟩ := exists_readConstraint_iff.mpr hassigns
    cases hoption.symm.trans hitem

-- A mapping is read back from the items that its entries are written as.
theorem readConstraints_written (hdistinct : Entries.Distinct entries)
    (hnames : ∀ entry ∈ entries, Nameable entry.1) :
    readConstraints (entries.map written) = .ok entries :=
  readConstraints_eq_ok_iff.mpr
    ⟨entries, ⟨rfl, hnames⟩, (Entries.ofList_of_distinct hdistinct).symm⟩

-- Items may be read in two parts, of which the second updates the first.
theorem readConstraints_append (items more : List String) :
    readConstraints (items ++ more) = readConstraints items >>= fun first =>
      readConstraints more >>= fun second => pure (Entries.update first second) := by
  rw [readConstraints_eq, readConstraints_eq, readConstraints_eq, List.mapM_append]
  cases items.mapM readConstraint with
  | error error => rfl
  | ok first =>
      cases more.mapM readConstraint with
      | error error => rfl
      | ok second =>
          exact congrArg Except.ok
            (Entries.ofList_append first fun _ _ => Entries.exchangeable_of_lawful _)

end Signpost.CommandLine

namespace Signpost

open CommandLine in
-- Items are read exactly if each of them has an equals sign that does not come first; else the
-- first that has none is reported. Each item is the name and the pattern that are read of it, and
-- what comes of the list has its names in the order in which they come first, each with its last
-- pattern. So a mapping is read back from its entries as they are written, and two lists that are
-- put together come to the first mapping updated by the second.
theorem CommandLine.readConstraints_decodes (items : List String) :
    ((∃ entries, readConstraints items = .ok entries) ↔ ∀ item ∈ items, Assigns item) ∧
    (∀ entries, readConstraints items = .ok entries →
      ∃ options : List (String × String), items = options.map written ∧
        (∀ option ∈ options, Nameable option.1) ∧
        Entries.keys entries = Entries.firsts (Entries.keys options) ∧
        ∀ name, Entries.get? entries name = Entries.get? options.reverse name) ∧
    (∀ error, readConstraints items = .error error →
      ∃ front item back, items = front ++ item :: back ∧ (∀ earlier ∈ front, Assigns earlier) ∧
        ¬ Assigns item ∧ error = .configuration (.whereOption item)) ∧
    (∀ entries, Entries.Distinct entries → (∀ entry ∈ entries, Nameable entry.1) →
      readConstraints (entries.map written) = .ok entries) ∧
    ∀ more, readConstraints (items ++ more) = readConstraints items >>= fun first =>
      readConstraints more >>= fun second => pure (Entries.update first second) := by
  refine ⟨exists_readConstraints_iff, fun entries h => ?_,
    fun error h => exists_of_readConstraints_eq_error h,
    fun entries hdistinct hnames => readConstraints_written hdistinct hnames,
    readConstraints_append items⟩
  obtain ⟨options, ⟨hitems, hnames⟩, rfl⟩ := readConstraints_eq_ok_iff.mp h
  exact ⟨options, hitems, hnames, Entries.keys_ofList options, fun name =>
    Entries.get?_ofList (Entries.exchangeable_of_lawful name) options⟩

-- A name that comes a second time, with an empty pattern, and a pattern with an equals sign in it.
theorem CommandLine.readConstraints_decodes_repeated :
    let items := ["id=[0-9]+", "q=a=b", "id="]
    let entries := [("id", ""), ("q", "a=b")]
    readConstraints items = .ok entries ∧
      (∃ options : List (String × String), items = options.map written ∧
        Entries.keys entries = Entries.firsts (Entries.keys options) ∧
        ∀ name, Entries.get? entries name = Entries.get? options.reverse name) ∧
      readConstraints (entries.map written) = .ok entries ∧
      readConstraints (items ++ ["q=c"]) = .ok [("id", ""), ("q", "c")] := by
  intro items entries
  have hread : readConstraints items = .ok entries := rfl
  have hdistinct : Entries.Distinct entries := by simp [Entries.Distinct, entries]
  have hnames : ∀ entry ∈ entries, Nameable entry.1 := by decide
  obtain ⟨-, hdecodes, -, hwritten, hjoined⟩ := CommandLine.readConstraints_decodes items
  obtain ⟨options, hitems, -, hkeys, hvalues⟩ := hdecodes entries hread
  exact ⟨hread, ⟨options, hitems, hkeys, hvalues⟩, hwritten entries hdistinct hnames,
    hjoined ["q=c"]⟩

end Signpost
