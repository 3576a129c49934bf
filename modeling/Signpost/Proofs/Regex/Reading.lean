import Signpost.Proofs.Regex.Scanning
import Signpost.Regex.Reading

namespace Signpost.Regex

-- The node that a quantifier would repeat.
def Piece.repeatable? : Piece → Option Node
  | .part node => some node
  | .bare row => some (Node.ofRow row)
  | .fixed _ | .counted _ => none

namespace Reading

variable {r r' : Reading} {lexeme : Lexeme} {t : Token} {ts rest : List Token}

def repeatLast (r : Reading) (node : Node) : Reading :=
  { r with level := { r.level with row := { r.level.row with last := some (.counted node) } } }

-- The places that a step keeps for its messages, and what it keeps for groups that look back,
-- are left open.
inductive Step : Reading → Lexeme → Reading → Prop
  | blank (r : Reading) : Step r .blank r
  | atom (r : Reading) (atom : Atom) :
      Step r (.atom atom) (r.push (.part (.one r.level.mode atom)))
  | anchor (r : Reading) (kind : Anchor) :
      Step r (.anchor kind) (r.push (.fixed (.anchor r.level.mode kind)))
  | backref (r : Reading) (index digits : Nat) (width : Width) :
      Step r (.backref index digits) (r.push (.part (.backref r.level.mode index width)))
  | namedBackref (r : Reading) (name : String) (index : Nat) (width : Width)
      (found : r.index? name = some index) :
      Step r (.namedBackref name) (r.push (.part (.backref r.level.mode index width)))
  | quantifier (r : Reading) (greed : Greed) (least : Nat) (most : Option Nat) (node : Node)
      (found : r.level.row.last.bind Piece.repeatable? = some node) :
      Step r (.quantifier greed least most) (r.repeatLast (.repeats greed least most node))
  | capture (r : Reading) (name : Option String) (mark : Nat) :
      Step r (.opening (.capture name))
        (enter
          { r with
            widths := r.widths ++ [none]
            names := r.names ++ (name.map fun name => (name, r.widths.length + 1)).toList }
          (.capture (r.widths.length + 1)) r.level.mode mark)
  | bare (r : Reading) (mark : Nat) : Step r (.opening .bare) (r.enter .bare r.level.mode mark)
  | flagged (r : Reading) (added removed : Flags) (mark : Nat) :
      Step r (.opening (.flagged added removed))
        (r.enter .flagged (r.level.mode.adjust added removed) mark)
  | atomic (r : Reading) (mark : Nat) :
      Step r (.opening .atomic) (r.enter .atomic r.level.mode mark)
  | look (r : Reading) (behind negated outermost : Bool) (before : Option Nat) (mark : Nat) :
      Step r (.opening (.look behind negated))
        (enter { r with behind := before } (.look behind negated outermost) r.level.mode mark)
  | chooseNamed (r : Reading) (name : String) (index mark : Nat)
      (found : r.index? name = some index) :
      Step r (.opening (.choose (.named name))) (r.enter (.choose index) r.level.mode mark)
  | chooseNumbered (r : Reading) (index length : Nat) (asked : List (Nat × Nat)) (mark : Nat) :
      Step r (.opening (.choose (.numbered index length)))
        (enter { r with asked } (.choose index) r.level.mode mark)
  | bar (r : Reading) :
      Step r .bar { r with level := { r.level with choices := r.level.rows, row := {} } }
  | closing (r : Reading) (parent : Level) (outer : List Level) (widths : List (Option Width))
      (before : Option Nat) (hopen : r.outer = parent :: outer)
      (hwidths : widths.length = r.widths.length) :
      Step r .closing
        { r with level := parent.push r.level.piece, outer, widths, behind := before }
  | flags (r : Reading) (added : Flags) (hwhole : r.outer = []) :
      Step r (.flags added)
        { r with
          flags := r.flags.union added
          level := { r.level with mode := r.flags.union added } }

theorem step_of_pushQuantifier {greed : Greed} {least before after : Nat} {most : Option Nat}
    (h : r.pushQuantifier greed least most before after = .ok r') :
    Step r (.quantifier greed least most) r' := by
  unfold pushQuantifier at h
  dsimp only at h
  split at h
  · simp at h
  · simp at h
  · simp at h
  next node hlast =>
    rw [← Except.ok.inj h]
    exact .quantifier r greed least most node (by rw [hlast]; rfl)
  next row hlast =>
    rw [← Except.ok.inj h]
    exact .quantifier r greed least most (Node.ofRow row) (by rw [hlast]; rfl)

theorem eq_of_pushBackref {index after offset : Nat}
    (h : r.pushBackref index after offset = .ok r') :
    ∃ width, r' = r.push (.part (.backref r.level.mode index width)) := by
  unfold pushBackref at h
  split at h
  next width _ =>
    obtain ⟨_, _, h⟩ := Except.bind_eq_ok.mp h
    exact ⟨width, (Except.ok.inj h).symm⟩
  · simp at h

theorem step_of_openGroup {opening : Opening} {before after : Nat}
    (h : r.openGroup opening before after = .ok r') : Step r (.opening opening) r' := by
  cases opening with
  | capture name =>
      simp only [openGroup, openCapture] at h
      split at h
      next hname =>
        rw [← Except.ok.inj h]
        simpa [enter] using Step.capture r none before
      next name =>
        split at h
        · simp at h
        next hnew =>
          rw [← Except.ok.inj h]
          exact .capture r (some name) before
  | bare => exact Except.ok.inj h ▸ .bare r before
  | flagged added removed => exact Except.ok.inj h ▸ .flagged r added removed before
  | atomic => exact Except.ok.inj h ▸ .atomic r before
  | look behind negated =>
      simp only [openGroup] at h
      rw [← Except.ok.inj h]
      split
      · exact .look r behind negated _ (some r.widths.length) before
      · exact .look r behind negated _ r.behind before
  | choose condition =>
      cases condition with
      | named name =>
          simp only [openGroup, openChoice] at h
          split at h
          · simp at h
          next index hfound =>
            obtain ⟨_, _, h⟩ := Except.bind_eq_ok.mp h
            exact Except.ok.inj h ▸ .chooseNamed r name index before hfound
      | numbered index length =>
          simp only [openGroup, openChoice] at h
          obtain ⟨_, _, h⟩ := Except.bind_eq_ok.mp h
          exact Except.ok.inj h ▸ .chooseNumbered r index length _ before

theorem step_of_close {before : Nat} (h : r.close before = .ok r') : Step r .closing r' := by
  unfold close at h
  split at h
  next =>
    obtain ⟨_, _, h⟩ := Except.bind_eq_ok.mp h
    simp at h
  next parent outer hopen =>
    dsimp only at h
    split at h
    next index _ =>
      rw [← Except.ok.inj h]
      exact .closing r parent outer _ r.behind hopen (by simp)
    · exact Except.ok.inj h ▸ .closing r parent outer r.widths none hopen rfl
    · exact Except.ok.inj h ▸ .closing r parent outer r.widths r.behind hopen rfl

theorem step_of_step {before after : Nat} (h : r.step lexeme before after = .ok r') :
    Step r lexeme r' := by
  cases lexeme with
  | blank => exact Except.ok.inj h ▸ .blank r
  | atom atom => exact Except.ok.inj h ▸ .atom r atom
  | anchor kind => exact Except.ok.inj h ▸ .anchor r kind
  | backref index digits =>
      simp only [step] at h
      split at h
      · obtain ⟨width, rfl⟩ := eq_of_pushBackref h
        exact .backref r index digits width
      · simp at h
  | namedBackref name =>
      simp only [step] at h
      split at h
      next index hfound =>
        obtain ⟨width, rfl⟩ := eq_of_pushBackref h
        exact .namedBackref r name index width hfound
      · simp at h
  | quantifier greed least most => exact step_of_pushQuantifier h
  | opening opening => exact step_of_openGroup h
  | bar =>
      simp only [step, Reading.bar] at h
      split at h
      · simp at h
      · exact Except.ok.inj h ▸ .bar r
  | closing => exact step_of_close h
  | flags added =>
      simp only [step, setFlags] at h
      split at h
      next hstart =>
        have hwhole : r.outer = [] := by simp_all
        exact Except.ok.inj h ▸ .flags r added hwhole
      · simp at h

@[simp] theorem read_nil (r : Reading) (skip : Nat) : r.read skip [] = .ok r := by
  cases skip <;> rfl

theorem read_skip (r : Reading) (front : List Token) :
    r.read front.length (front ++ rest) = r.read 0 rest := by
  induction front with
  | nil => rfl
  | cons t front ih => exact ih

theorem read_cons (h : scan r.level.mode.verbose t ts = .ok (lexeme, rest)) :
    r.read 0 (t :: ts) =
      r.step lexeme (size (t :: ts)) (size rest) >>= fun r₁ => r₁.read 0 rest := by
  -- what a scan leaves is an end of the tokens, so skipping the others reads it
  have hskip (r₁ : Reading) : r₁.read (ts.length - rest.length) ts = r₁.read 0 rest := by
    obtain ⟨front, rfl⟩ := scan_suffix h
    rw [List.length_append, Nat.add_sub_cancel, read_skip]
  rw [read, h]
  simp only [Except.bind_ok, hskip]

theorem read_cons_eq_ok :
    r.read 0 (t :: ts) = .ok r' ↔
      ∃ lexeme rest r₁, scan r.level.mode.verbose t ts = .ok (lexeme, rest) ∧
        r.step lexeme (size (t :: ts)) (size rest) = .ok r₁ ∧ r₁.read 0 rest = .ok r' := by
  constructor
  · intro h
    have hread := h
    obtain ⟨⟨lexeme, rest⟩, hscan, -⟩ := Except.bind_eq_ok.mp h
    rw [read_cons hscan] at hread
    obtain ⟨r₁, hstep, hread⟩ := Except.bind_eq_ok.mp hread
    exact ⟨lexeme, rest, r₁, hscan, hstep, hread⟩
  · rintro ⟨lexeme, rest, r₁, hscan, hstep, h⟩
    rw [read_cons hscan, hstep]
    exact h

-- Induction along a reading that succeeds, from its end.
theorem read_induction {final : Reading}
    {motive : (r : Reading) → (ts : List Token) → r.read 0 ts = .ok final → Prop}
    (done : motive final [] (read_nil final 0))
    (step : ∀ r t ts lexeme rest r₁ (h : r.read 0 (t :: ts) = .ok final)
      (h₁ : r₁.read 0 rest = .ok final), scan r.level.mode.verbose t ts = .ok (lexeme, rest) →
      r.step lexeme (size (t :: ts)) (size rest) = .ok r₁ → motive r₁ rest h₁ →
      motive r (t :: ts) h)
    (h : r.read 0 ts = .ok final) : motive r ts h := by
  induction hn : ts.length using Nat.strongRecOn generalizing r ts with
  | _ n ih =>
      cases ts with
      | nil =>
          obtain rfl : r = final := by simpa using h
          exact done
      | cons t ts =>
          obtain ⟨lexeme, rest, r₁, hscan, hstep, h₁⟩ := read_cons_eq_ok.mp h
          have hlt : rest.length < n := by
            have := (scan_suffix hscan).length_le
            rw [List.length_cons] at hn
            omega
          exact step r t ts lexeme rest r₁ h h₁ hscan hstep (ih rest.length hlt h₁ rfl)

-- Flags for the whole pattern have no place inside a group.
theorem Step.ne_flags (h : Step r lexeme r') (houter : r.outer ≠ []) (added : Flags) :
    lexeme ≠ .flags added := by
  rintro rfl
  cases h with
  | flags _ hwhole => exact houter hwhole

theorem Step.flags_eq (h : Step r lexeme r') (hlexeme : ∀ added, lexeme ≠ .flags added) :
    r'.flags = r.flags := by
  cases h with
  | flags added hwhole => exact absurd rfl (hlexeme added)
  | _ => rfl

-- Groups are only ever added, and so are their names.
theorem Step.grown (h : Step r lexeme r') :
    r.widths.length ≤ r'.widths.length ∧ r.names <+: r'.names := by
  cases h with
  | capture name mark => exact ⟨by simp [enter], List.prefix_append _ _⟩
  | closing parent outer widths before hopen hwidths =>
      exact ⟨Nat.le_of_eq hwidths.symm, List.prefix_refl _⟩
  | _ => exact ⟨Nat.le_refl _, List.prefix_refl _⟩

theorem grown_of_read (h : r.read 0 ts = .ok r') :
    r.widths.length ≤ r'.widths.length ∧ r.names <+: r'.names := by
  induction h using read_induction with
  | done => exact ⟨Nat.le_refl _, List.prefix_refl _⟩
  | step r t ts lexeme rest r₁ h h₁ hscan hstep ih =>
      obtain ⟨hwidths, hnames⟩ := (step_of_step hstep).grown
      exact ⟨Nat.le_trans hwidths ih.1, hnames.trans ih.2⟩

-- A name is only given to a group if no group has it yet.
theorem nodup_names_of_step {before after : Nat} (h : (r.names.map Prod.fst).Nodup)
    (hstep : r.step lexeme before after = .ok r') : (r'.names.map Prod.fst).Nodup := by
  cases step_of_step hstep with
  | capture name mark =>
      cases name with
      | none => simpa [enter] using h
      | some name =>
          simp only [step, openGroup, openCapture] at hstep
          split at hstep
          · cases hstep
          next hnew =>
            have hfresh : ∀ group ∈ r.names, group.1 ≠ name := by
              simpa [index?] using hnew
            simp only [enter, Option.map_some, Option.toList_some, List.map_append,
              List.map_singleton]
            refine List.nodup_append.mpr ⟨h, by simp, ?_⟩
            intro other hother last hlast
            obtain ⟨group, hgroup, rfl⟩ := List.mem_map.mp hother
            exact List.mem_singleton.mp hlast ▸ hfresh group hgroup
  | _ => exact h

theorem nodup_names_of_read (h : (r.names.map Prod.fst).Nodup) (hread : r.read 0 ts = .ok r') :
    (r'.names.map Prod.fst).Nodup := by
  induction hread using read_induction with
  | done => exact h
  | step r t ts lexeme rest r₁ hread h₁ hscan hstep ih => exact ih (nodup_names_of_step h hstep)

end Reading

end Signpost.Regex
