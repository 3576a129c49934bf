import Signpost.Proofs.Template.Search
import Signpost.Proofs.Template.Segment

namespace Signpost.Template

-- What a segment of a template contributes to a path.
inductive Piece
  | literal (text : List Char)
  | value (text : List Char)
deriving DecidableEq, Repr

def Piece.chars : Piece → List Char
  | .literal text => text
  | .value text => text

def Segment.piece? (bindings : Bindings) : Segment → Option Piece
  | .literal text => if text = [] then none else some (.literal text)
  | .slot parameter => (bindings.lookup parameter.name).map fun value => .value value.toList

-- The texts of a template that are not empty and the values it is bound to.
def pieces (segments : List Segment) (bindings : Bindings) : List Piece :=
  segments.filterMap (Segment.piece? bindings)

-- The segments of a path are pieces one after the other. A segment begins with any piece, and
-- only values are glued to it.
inductive Glued : List Piece → List (List Char) → Prop
  | nil : Glued [] []
  | start {pieces : List Piece} {path : List (List Char)} (piece : Piece)
      (hrest : Glued pieces path) : Glued (piece :: pieces) (piece.chars :: path)
  | join {pieces : List Piece} {path : List (List Char)} {value segment : List Char}
      (piece : Piece) (hrest : Glued (.value value :: pieces) (segment :: path)) :
      Glued (piece :: .value value :: pieces) ((piece.chars ++ segment) :: path)

def pathText (path : List (List Char)) : List Char := path.flatMap ('/' :: ·)

variable {rules : String → Rule} {parts : List Part} {fills fills' : List (Option Fill)}
  {close slashed : Bool} {pieces' : List Piece} {path : List (List Char)}
  {segments : List Segment} {tail value rest : List Char}

theorem Glued.length_le (h : Glued pieces' path) : path.length ≤ pieces'.length := by
  induction h with
  | nil => exact Nat.le_refl 0
  | start piece _ ih => exact Nat.succ_le_succ ih
  | join piece _ ih =>
      simp only [List.length_cons] at ih ⊢
      omega

-- No piece is glued to another only if there are as many segments as pieces.
theorem Glued.length_eq_iff (h : Glued pieces' path) :
    path.length = pieces'.length ↔ path = pieces'.map Piece.chars := by
  constructor
  · intro hlength
    induction h with
    | nil => rfl
    | start piece _ ih => rw [List.map_cons, ih (Nat.succ.inj hlength)]
    | join piece hrest =>
        have hle := hrest.length_le
        simp only [List.length_cons] at hlength hle
        omega
  · intro heq
    rw [heq, List.length_map]

-- What has no slash in it lies within one segment.
theorem rest_of_append (hvalue : '/' ∉ value) (h : value ++ rest = tail ++ pathText path) :
    ∃ tail', tail = value ++ tail' ∧ rest = tail' ++ pathText path := by
  induction value generalizing tail with
  | nil => exact ⟨tail, rfl, h⟩
  | cons c value ih =>
      rw [List.mem_cons, not_or] at hvalue
      cases tail with
      | nil =>
          cases path with
          | nil => simp [pathText] at h
          | cons segment path =>
              have hhead : c = '/' := (List.cons.inj h).1
              exact absurd hhead.symm hvalue.1
      | cons d tail =>
          obtain ⟨rfl, hmore⟩ := List.cons.inj h
          obtain ⟨tail', rfl, hrest⟩ := ih hvalue.2 hmore
          exact ⟨tail', rfl, hrest⟩

-- A slash is the end of the segment that was begun, and another one comes.
theorem rest_of_slash (htail : '/' ∉ tail) (h : '/' :: rest = tail ++ pathText path) :
    tail = [] ∧ ∃ segment path', path = segment :: path' ∧ rest = segment ++ pathText path' := by
  cases tail with
  | cons d tail =>
      obtain ⟨rfl, -⟩ := List.cons.inj h
      simp at htail
  | nil =>
      cases path with
      | nil => simp [pathText] at h
      | cons segment path => exact ⟨rfl, segment, path, rfl, (List.cons.inj h).2⟩

-- The pieces that are still to come, when `tail` is left of the segment that was begun.
def Continues (pieces : List Piece) (tail : List Char) (path : List (List Char)) : Prop :=
  if tail = [] then Glued pieces path
  else (∃ value more, pieces = .value value :: more) ∧ Glued pieces (tail :: path)

theorem Continues.glued {piece : Piece} (h : Continues pieces' tail path) :
    Glued (piece :: pieces') ((piece.chars ++ tail) :: path) := by
  unfold Continues at h
  split at h
  next hempty =>
    rw [hempty, List.append_nil]
    exact .start piece h
  · obtain ⟨⟨value, more, rfl⟩, hglued⟩ := h
    exact .join piece hglued

-- However `text` consists of what is left of a segment and of further segments, these are made of
-- `pieces`.
def Joins (pieces : List Piece) (text : List Char) : Prop :=
  ∀ tail path, text = tail ++ pathText path → '/' ∉ tail →
    (∀ segment ∈ path, segment ≠ [] ∧ '/' ∉ segment) → Continues pieces tail path

theorem joins_end (close : Bool) : Joins [] (slashText close) := by
  intro tail path htext htail hpath
  cases close with
  | false =>
      obtain ⟨rfl, hempty⟩ := List.append_eq_nil_iff.mp htext.symm
      cases path with
      | nil => exact .nil
      | cons => simp [pathText] at hempty
  | true =>
      obtain ⟨rfl, segment, path', rfl, hnil⟩ := rest_of_slash htail htext
      have hempty := (List.append_eq_nil_iff.mp hnil.symm).1
      exact absurd hempty (hpath segment List.mem_cons_self).1

-- No segment of a path is empty, so behind a slash there is a piece.
theorem Joins.slash (h : Joins pieces' rest) : Joins pieces' ('/' :: rest) := by
  intro tail path htext htail hpath
  obtain ⟨rfl, segment, path', rfl, hrest⟩ := rest_of_slash htail htext
  rw [List.forall_mem_cons] at hpath
  have hcontinues := h segment path' hrest hpath.1.2 hpath.2
  rw [Continues, if_neg hpath.1.1] at hcontinues
  exact hcontinues.2

theorem Joins.start {piece : Piece} (h : Joins pieces' rest) (hpiece : '/' ∉ piece.chars) :
    Joins (piece :: pieces') ('/' :: (piece.chars ++ rest)) := by
  intro tail path htext htail hpath
  obtain ⟨rfl, segment, path', rfl, hbegun⟩ := rest_of_slash htail htext
  obtain ⟨tail', rfl, hrest⟩ := rest_of_append hpiece hbegun
  rw [List.forall_mem_cons] at hpath
  have htail' : '/' ∉ tail' := fun hin => hpath.1.2 (List.mem_append_right _ hin)
  exact (h tail' path' hrest htail' hpath.2).glued

theorem Joins.join (h : Joins pieces' rest) (hvalue : '/' ∉ value) (hne : value ≠ []) :
    Joins (.value value :: pieces') (value ++ rest) := by
  intro tail path htext htail hpath
  obtain ⟨tail', rfl, hrest⟩ := rest_of_append hvalue htext
  have htail' : '/' ∉ tail' := fun hin => htail (List.mem_append_right _ hin)
  rw [Continues, if_neg (by simp [hne])]
  exact ⟨⟨value, pieces', rfl⟩, (h tail' path hrest htail' hpath).glued⟩

theorem keys_bound (h : Splits rules parts fills close rest) :
    (Entries.keys (bound parts fills)).Sublist ((slots parts).map (·.name)) := by
  induction h with
  | done => exact .slnil
  | literal _ _ ih => exact ih
  | filled _ _ _ _ _ _ ih => exact ih.cons_cons _
  | omitted _ _ _ _ ih => exact ih.cons _

theorem slots_layout_literal (slashed : Bool) (text : List Char) (segments : List Segment) :
    slots (layout slashed (.literal text :: segments)) = slots (layout true segments) :=
  slots_literals _ _

theorem bound_layout_literal (slashed : Bool) (text : List Char) (segments : List Segment)
    (fills : List (Option Fill)) :
    bound (layout slashed (.literal text :: segments)) fills = bound (layout true segments) fills :=
  bound_literals _ _ fills

theorem pieces_literal {text : List Char} (h : text ≠ []) (segments : List Segment)
    (bindings : Bindings) :
    pieces (.literal text :: segments) bindings = .literal text :: pieces segments bindings := by
  simp [pieces, Segment.piece?, h]

theorem pieces_cons_of_not_mem {name : String}
    (h : name ∉ (slots (layout slashed segments)).map (·.name)) (text : String)
    (bindings : Bindings) :
    pieces segments ((name, text) :: bindings) = pieces segments bindings := by
  induction segments generalizing slashed with
  | nil => rfl
  | cons segment segments ih =>
      cases segment with
      | literal text =>
          rw [slots_layout_literal] at h
          simp only [pieces, List.filterMap_cons, Segment.piece?] at ih ⊢
          rw [ih h]
      | slot parameter =>
          have hnot : name ∉ parameter.name :: (slots (layout true segments)).map (·.name) := h
          rw [List.mem_cons, not_or] at hnot
          have hne : (parameter.name == name) = false := by
            rw [beq_eq_false_iff_ne]
            exact Ne.symm hnot.1
          simp only [pieces, List.filterMap_cons, Segment.piece?, List.lookup_cons, hne] at ih ⊢
          rw [ih hnot.2]

theorem pieces_filled {parameter : Parameter} {fill : Fill}
    (hnodup : ((slots (layout slashed (.slot parameter :: segments))).map (·.name)).Nodup) :
    pieces (.slot parameter :: segments)
        (bound (layout slashed (.slot parameter :: segments)) (some fill :: fills)) =
      .value fill.value :: pieces segments (bound (layout true segments) fills) := by
  have hnot := (List.nodup_cons.mp hnodup).1
  have hrest := pieces_cons_of_not_mem hnot (String.ofList fill.value)
    (bound (layout true segments) fills)
  rw [← hrest]
  simp [pieces, Segment.piece?, layout, Segment.parts, bound]

theorem pieces_omitted {parameter : Parameter}
    (hnodup : ((slots (layout slashed (.slot parameter :: segments))).map (·.name)).Nodup)
    (hrest : Splits rules (layout true segments) fills close rest) :
    pieces (.slot parameter :: segments)
        (bound (layout slashed (.slot parameter :: segments)) (none :: fills)) =
      pieces segments (bound (layout true segments) fills) := by
  have hnot := (List.nodup_cons.mp hnodup).1
  have hlookup : (bound (layout true segments) fills).lookup parameter.name = none := by
    rw [List.lookup_eq_none_iff]
    intro binding hmem
    rw [bne_iff_ne]
    intro hname
    exact hnot ((keys_bound hrest).subset (List.mem_map.mpr ⟨binding, hmem, hname.symm⟩))
  simp [pieces, Segment.piece?, layout, Segment.parts, bound, hlookup]

theorem joins_slot {parameter : Parameter} (hspelled : ∀ name, (rules name).Spelled)
    (hnodup : ((slots (layout slashed (.slot parameter :: segments))).map (·.name)).Nodup)
    (hsplit : Splits rules (layout slashed (.slot parameter :: segments)) fills close rest)
    (hstray : ∀ fill, some fill ∈ fills → fill.stray = none)
    (hrest : ∀ fills rest, (∀ fill, some fill ∈ fills → fill.stray = none) →
      Splits rules (layout true segments) fills close rest →
        Joins (pieces segments (bound (layout true segments) fills)) rest) :
    Joins (pieces (.slot parameter :: segments)
      (bound (layout slashed (.slot parameter :: segments)) fills)) rest := by
  cases hsplit with
  | @omitted _ fills _ _ _ _ hoptional hsplit =>
      rw [pieces_omitted hnodup hsplit]
      exact hrest fills rest (fun fill hin => hstray fill (by simp [hin])) hsplit
  | @filled _ fills _ rest _ _ fill hvalue _ hsplit =>
      rw [pieces_filled hnodup]
      obtain ⟨hne, hslash⟩ := Rule.whole_of_accepts (hspelled _) hvalue
      have hjoins := hrest fills rest (fun other hin => hstray other (by simp [hin])) hsplit
      rw [Fill.text, hstray fill (by simp), Option.toList_none, List.append_nil, List.append_assoc]
      cases fill.slash with
      | true => exact hjoins.start hslash
      | false => exact hjoins.join hslash hne

-- A split without stray characters joins the pieces, segment by segment of the template.
theorem joins_of_splits (hspelled : ∀ name, (rules name).Spelled)
    (hplain : ∀ segment ∈ segments, segment.Plain)
    (hnodup : ((slots (layout true segments)).map (·.name)).Nodup)
    (hsplit : Splits rules (layout true segments) fills close rest)
    (hstray : ∀ fill, some fill ∈ fills → fill.stray = none) :
    Joins (pieces segments (bound (layout true segments) fills)) rest := by
  induction segments generalizing fills rest with
  | nil =>
      cases hsplit
      exact joins_end close
  | cons segment segments ih =>
      rw [List.forall_mem_cons] at hplain
      cases segment with
      | slot parameter =>
          exact joins_slot hspelled hnodup hsplit hstray fun fills rest hstray hsplit =>
            ih hplain.2 (List.nodup_cons.mp hnodup).2 hsplit hstray
      | literal text =>
          rw [slots_layout_literal] at hnodup
          rw [bound_layout_literal]
          obtain ⟨rest, rfl, hlater⟩ := rest_of_literals hsplit
          have hjoins := ih hplain.2 hnodup hlater hstray
          by_cases hempty : text = []
          · subst hempty
            exact hjoins.slash
          · rw [pieces_literal hempty]
            exact hjoins.start hplain.1.1

-- The first segment has no slash before it, so it is a placeholder or empty.
theorem glued_of_splits (hspelled : ∀ name, (rules name).Spelled)
    (hplain : ∀ segment ∈ segments, segment.Plain)
    (hnodup : ((slots (layout false segments)).map (·.name)).Nodup)
    (hsplit : Splits rules (layout false segments) fills close (pathText path))
    (hstray : ∀ fill, some fill ∈ fills → fill.stray = none)
    (hpath : ∀ segment ∈ path, segment ≠ [] ∧ '/' ∉ segment) :
    Glued (pieces segments (bound (layout false segments) fills)) path := by
  cases segments with
  | nil => exact joins_of_splits hspelled hplain hnodup hsplit hstray [] path rfl (by simp) hpath
  | cons segment segments =>
      rw [List.forall_mem_cons] at hplain
      cases segment with
      | slot parameter =>
          have hjoins := joins_slot hspelled hnodup hsplit hstray fun fills rest hstray hsplit =>
            joins_of_splits hspelled hplain.2 (List.nodup_cons.mp hnodup).2 hsplit hstray
          exact hjoins [] path rfl (by simp) hpath
      | literal text =>
          rw [slots_layout_literal] at hnodup
          rw [bound_layout_literal]
          obtain ⟨rest, htext, hlater⟩ := rest_of_literals hsplit
          have hfront : text ++ rest = [] ++ pathText path := htext.symm
          obtain ⟨tail', hnil, rfl⟩ := rest_of_append hplain.1.1 hfront
          obtain ⟨rfl, rfl⟩ := List.append_eq_nil_iff.mp hnil.symm
          exact joins_of_splits hspelled hplain.2 hnodup hlater hstray [] path rfl (by simp) hpath

def Piece.value? : Piece → Option (List Char)
  | .literal _ => none
  | .value text => some text

def Segment.isText : Segment → Bool
  | .literal text => !text.isEmpty
  | .slot _ => false

theorem values_sublist (pieces : List Piece) :
    (pieces.filterMap Piece.value?).Sublist (pieces.map Piece.chars) := by
  induction pieces with
  | nil => exact .slnil
  | cons piece pieces ih =>
      cases piece with
      | literal text => exact ih.cons _
      | value text => exact ih.cons_cons _

-- There is a piece for each text that is not empty and for each value.
theorem pieces_bound (hnodup : ((slots (layout slashed segments)).map (·.name)).Nodup)
    (hsplit : Splits rules (layout slashed segments) fills close rest) :
    (pieces segments (bound (layout slashed segments) fills)).length =
        segments.countP Segment.isText + (bound (layout slashed segments) fills).length ∧
      (pieces segments (bound (layout slashed segments) fills)).filterMap Piece.value? =
        (bound (layout slashed segments) fills).map fun binding => binding.2.toList := by
  induction segments generalizing slashed fills rest with
  | nil =>
      cases hsplit
      exact ⟨rfl, rfl⟩
  | cons segment segments ih =>
      cases segment with
      | literal text =>
          rw [slots_layout_literal] at hnodup
          rw [bound_layout_literal]
          obtain ⟨rest, -, hlater⟩ := rest_of_literals hsplit
          obtain ⟨hlength, hvalues⟩ := ih hnodup hlater
          by_cases hempty : text = []
          · subst hempty
            rw [List.countP_cons_of_neg (by simp [Segment.isText])]
            exact ⟨hlength, hvalues⟩
          · rw [pieces_literal hempty, List.countP_cons_of_pos (by simp [Segment.isText, hempty])]
            refine ⟨?_, hvalues⟩
            rw [List.length_cons]
            omega
      | slot parameter =>
          have hlater := (List.nodup_cons.mp hnodup).2
          rw [List.countP_cons_of_neg (by simp [Segment.isText])]
          cases hsplit with
          | omitted _ _ _ hsplit =>
              rw [pieces_omitted hnodup hsplit]
              exact ih hlater hsplit
          | filled _ _ fill _ _ hsplit =>
              obtain ⟨hlength, hvalues⟩ := ih hlater hsplit
              rw [pieces_filled hnodup]
              refine ⟨?_, ?_⟩
              · simp only [layout, Segment.parts, List.singleton_append, bound, List.length_cons]
                omega
              · simp [layout, Segment.parts, bound, Piece.value?, hvalues]

theorem mem_keys_bound (h : Splits rules parts fills close rest) {parameter : Parameter}
    (hmem : parameter ∈ slots parts) (hrequired : parameter.required = true) :
    parameter.name ∈ Entries.keys (bound parts fills) := by
  induction h with
  | done => simp [slots] at hmem
  | literal _ _ ih => exact ih hmem
  | filled _ _ _ _ _ _ ih =>
      rcases List.mem_cons.mp hmem with rfl | hmem
      · exact List.mem_cons_self
      · exact List.mem_cons_of_mem _ (ih hmem)
  | omitted _ _ hoptional _ ih =>
      rcases List.mem_cons.mp hmem with rfl | hmem
      · rw [hoptional] at hrequired
        exact absurd hrequired (by decide)
      · exact ih hmem

theorem mem_slots_layout {parameter : Parameter} (h : .slot parameter ∈ segments)
    (slashed : Bool) : parameter ∈ slots (layout slashed segments) := by
  induction segments generalizing slashed with
  | nil => simp at h
  | cons segment segments ih =>
      rcases List.mem_cons.mp h with rfl | hlater
      · exact List.mem_cons_self
      · cases segment with
        | literal text =>
            rw [slots_layout_literal]
            exact ih hlater true
        | slot other => exact List.mem_cons_of_mem _ (ih hlater true)

-- A stray character that a value could hold belongs to the value.
theorem exists_longer {fill : Fill} (hvalue : Rule.accepts .plain fill.value = true)
    (hstray : fill.stray ≠ none) (hplain : ∀ c ∈ fill.stray, Rule.plainChar c = true) :
    ∃ longer : Fill, longer.text = fill.text ∧ Rule.accepts .plain longer.value = true ∧
      longer.stray ≠ some '/' ∧ longer.Precedes .plain fill := by
  obtain ⟨c, hc⟩ := Option.ne_none_iff_exists'.mp hstray
  refine ⟨⟨fill.slash, fill.value ++ [c], none⟩, ?_, ?_, by simp, .inr ⟨rfl, .inl ?_⟩⟩
  · simp [Fill.text, hc]
  · rw [Rule.accepts, Rule.someOf_iff] at hvalue ⊢
    refine ⟨by simp, fun d hd => ?_⟩
    rcases List.mem_append.mp hd with hd | hd
    · exact hvalue.2 d hd
    · rw [List.mem_singleton.mp hd]
      exact hplain c hc
  · simp [Rule.Prefers]

theorem exists_precedes_of_stray {text : List Char} {fill : Fill}
    (h : Splits (fun _ => .plain) parts fills close text)
    (hplain : ∀ c ∈ text, c ≠ '/' → Rule.plainChar c = true) (hmem : some fill ∈ fills)
    (hstray : fill.stray ≠ none) :
    ∃ fills', Splits (fun _ => .plain) parts fills' close text ∧
      Precedes (fun _ => .plain) parts fills' fills := by
  induction h with
  | done => simp at hmem
  | literal c _ ih =>
      obtain ⟨fills', hsplit, hbefore⟩ := ih (fun d hd => hplain d (List.mem_cons_of_mem _ hd)) hmem
      exact ⟨fills', .literal c hsplit, .literal c hbefore⟩
  | omitted slashed parameter hoptional _ ih =>
      obtain ⟨fills', hsplit, hbefore⟩ := ih hplain (by simpa using hmem)
      exact ⟨none :: fills', .omitted slashed parameter hoptional hsplit,
        .later slashed parameter none hbefore⟩
  | @filled _ fills _ path slashed parameter other hvalue hother hrest ih =>
      rcases List.mem_cons.mp hmem with hhead | hlater
      · obtain rfl := Option.some.inj hhead
        have hchars : ∀ c ∈ fill.stray, Rule.plainChar c = true := fun c hc =>
          hplain c (by simp [Fill.text, Option.mem_def.mp hc]) fun hslash => hother (hslash ▸ hc)
        obtain ⟨longer, htext, haccepts, hno, hbefore⟩ := exists_longer hvalue hstray hchars
        rw [← htext]
        exact ⟨some longer :: fills, .filled slashed parameter longer haccepts hno hrest,
          .fill slashed parameter hbefore⟩
      · obtain ⟨fills', hsplit, hbefore⟩ :=
          ih (fun d hd => hplain d (List.mem_append_right _ hd)) hlater
        exact ⟨some other :: fills', .filled slashed parameter other hvalue hother hsplit,
          .later slashed parameter (some other) hbefore⟩

theorem First.stray_eq_none {text : List Char} (h : First (fun _ => .plain) parts fills text)
    (hplain : ∀ c ∈ text, c ≠ '/' → Rule.plainChar c = true) :
    ∀ fill, some fill ∈ fills → fill.stray = none := by
  intro fill hmem
  by_contra hstray
  obtain ⟨⟨close, hsplit⟩, hfirst⟩ := h
  obtain ⟨fills', hsplit', hbefore⟩ := exists_precedes_of_stray hsplit hplain hmem hstray
  rcases hfirst fills' close hsplit' with rfl | hback
  · exact precedes_asymm hbefore hbefore
  · exact precedes_asymm hbefore hback

variable {template : String} {pattern : Pattern} {bindings : Bindings}

-- A path that is bound is made of the texts of the template and the values, in their order: no
-- segment of it has anything else, and only values are glued to what stands before them. So it
-- has at most as many segments as there are texts and values. If it has that many, then each of
-- them is a segment of its own.
theorem match?_glues_segments (hsegments : Segmented template segments)
    (h : (Pattern.ofTemplate default [] template).result = .ok pattern)
    (hpath : ∀ segment ∈ path, Rule.accepts .plain segment = true)
    (hmatch : pattern.match? (String.ofList (pathText path)) = .ok (some bindings)) :
    Glued (pieces segments bindings) path ∧
      path.length ≤ segments.countP Segment.isText + bindings.length ∧
      (path.length = segments.countP Segment.isText + bindings.length ↔
        path = (pieces segments bindings).map Piece.chars) ∧
      (path.length = segments.countP Segment.isText + bindings.length →
        (bindings.map fun binding => binding.2.toList).Sublist path) ∧
      ∀ parameter, .slot parameter ∈ segments → parameter.required →
        parameter.name ∈ Entries.keys bindings := by
  obtain ⟨parts, items, hcompiled⟩ := compiled_of_ofTemplate rfl h
  have hparts : parts = layout false segments := by
    have hcut := hcompiled.cut
    rw [hsegments.text, parts?_layout hsegments.plain] at hcut
    exact (Option.some.inj hcut).symm
  subst hparts
  have hgoverned : Governed default [] (fun _ => .plain) (slots (layout false segments)) :=
    governed_of_stated rfl fun _ _ => ⟨rfl, trivial⟩
  have hnodup := hcompiled.sound.names
  rw [hcompiled.parameters] at hnodup
  rw [hcompiled.match?_eq_trials rfl hgoverned, String.toList_ofList] at hmatch
  obtain ⟨trial, htrial, rfl⟩ := Option.map_eq_some_iff.mp (Except.ok.inj hmatch)
  have hsplit := splits_of_mem_trials (List.mem_of_head? htrial)
  have hspelled : Rule.Spelled .plain := trivial
  have hsegment : ∀ segment ∈ path, segment ≠ [] ∧ '/' ∉ segment :=
    fun segment hmem => Rule.whole_of_accepts hspelled (hpath segment hmem)
  have hstray := (first_of_head?_trials htrial).stray_eq_none fun c hc hslash => by
    obtain ⟨segment, hmem, hc⟩ := List.mem_flatMap.mp hc
    have hplain := (Rule.someOf_iff.mp (hpath segment hmem)).2
    exact hplain c ((List.mem_cons.mp hc).resolve_left hslash)
  have hglued := glued_of_splits (fun _ => hspelled) hsegments.plain hnodup hsplit hstray hsegment
  obtain ⟨hlength, hvalues⟩ := pieces_bound hnodup hsplit
  rw [← hlength, ← hvalues]
  refine ⟨hglued, hglued.length_le, hglued.length_eq_iff, fun hwhole => ?_, ?_⟩
  · have hpieces := hglued.length_eq_iff.mp hwhole
    rw [hpieces]
    exact values_sublist _
  · intro parameter hmem hrequired
    exact mem_keys_bound hsplit (mem_slots_layout hmem false) hrequired

-- Each segment of this path is a text of the template or the value of `x`.
theorem match?_glues_segments_parent :
    ∃ pattern : Pattern,
      (Pattern.ofTemplate default [] "/a/\x7bx\x7d/b/\x7by?\x7d").result = .ok pattern ∧
      pattern.match? (String.ofList (pathText [['a'], ['1', '2'], ['b']])) =
        .ok (some [("x", "12")]) ∧
      [['1', '2']].Sublist [['a'], ['1', '2'], ['b']] := by
  have hseen : ((Pattern.ofTemplate default [] "/a/\x7bx\x7d/b/\x7by?\x7d").result.toOption.bind
      fun pattern => (pattern.match?
        (String.ofList (pathText [['a'], ['1', '2'], ['b']]))).toOption) =
      some (some [("x", "12")]) := by decide +kernel
  obtain ⟨pattern, h, hfound⟩ := Except.exists_ok_of_bind hseen
  have hmatch := Except.eq_ok_of_toOption hfound
  have hsegments : Segmented "/a/\x7bx\x7d/b/\x7by?\x7d"
      [.literal [], .literal ['a'], .slot ⟨"x", true⟩, .literal ['b'], .slot ⟨"y", false⟩] :=
    ⟨by decide +kernel, by decide +kernel⟩
  have hwhole := (match?_glues_segments hsegments h (by decide +kernel) hmatch).2.2.2.1 rfl
  exact ⟨pattern, h, hmatch, hwhole⟩

-- The segment of this path is cut in two, as the slash before `b` is missing.
theorem segment_cut_in_two :
    ∃ pattern : Pattern,
      Segmented "/\x7ba\x7d/\x7bb\x7d" [.literal [], .slot ⟨"a", true⟩, .slot ⟨"b", true⟩] ∧
      (Pattern.ofTemplate default [] "/\x7ba\x7d/\x7bb\x7d").result = .ok pattern ∧
      (∀ segment ∈ [['a', 'b', 'c']], Rule.accepts .plain segment = true) ∧
      pattern.match? (String.ofList (pathText [['a', 'b', 'c']])) =
        .ok (some [("a", "ab"), ("b", "c")]) ∧
      ¬[['a', 'b'], ['c']].Sublist [['a', 'b', 'c']] := by
  have hseen : ((Pattern.ofTemplate default [] "/\x7ba\x7d/\x7bb\x7d").result.toOption.bind
      fun pattern => (pattern.match? (String.ofList (pathText [['a', 'b', 'c']]))).toOption) =
      some (some [("a", "ab"), ("b", "c")]) := by decide +kernel
  obtain ⟨pattern, h, hfound⟩ := Except.exists_ok_of_bind hseen
  have hsegments : Segmented "/\x7ba\x7d/\x7bb\x7d"
      [.literal [], .slot ⟨"a", true⟩, .slot ⟨"b", true⟩] :=
    ⟨by decide +kernel, by decide +kernel⟩
  exact ⟨pattern, hsegments, h, by decide +kernel, Except.eq_ok_of_toOption hfound, by decide⟩

end Signpost.Template
