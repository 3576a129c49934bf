import Signpost.Proofs.Regex.Reading
import Signpost.Proofs.Regex.Refusal

namespace Signpost.Regex

open Except

variable {ts rest : List Token}

-- Flags are set by their letters for the whole of a pattern.
def HoldsFlags (ts : List Token) (letters : List Char) : Prop :=
  .plain '(' :: .plain '?' :: letters.map Token.plain ++ [.plain ')'] <:+: ts ∧
    ∀ c ∈ letters, (Flags.ofLetter? c).isSome = true

def SetsFlag (ts : List Token) (letter : Char) : Prop :=
  ∃ letters, HoldsFlags ts letters ∧ letter ∈ letters

-- The limits that a pattern exceeds.
inductive Exceeds (text : String) : Error → Prop
  | count {error : Error} (overruns : Overruns (tokens text.toList) error) : Exceeds text error
  | alphabets (ascii : SetsFlag (tokens text.toList) 'a')
      (unicode : SetsFlag (tokens text.toList) 'u') : Exceeds text .alphabetsClash

-- A scan that gives flags has read a group that sets some.
theorem holdsFlags_of_scan {verbose : Bool} {t : Token} {all : Flags}
    (h : scan verbose t ts = .ok (.flags all, rest)) :
    ∃ letters, HoldsFlags (t :: ts) letters ∧ SetBy {} all letters := by
  obtain ⟨letters, htokens, hset⟩ := scan_flags h
  refine ⟨letters, ⟨?_, hset.known⟩, hset⟩
  rw [htokens]
  exact List.IsPrefix.isInfix ⟨rest, by simp⟩

theorem HoldsFlags.mono {more : List Token} {letters : List Char} (h : HoldsFlags ts letters)
    (hin : ts <:+: more) : HoldsFlags more letters :=
  ⟨h.1.trans hin, h.2⟩

def Error.Malformed (error : Error) : Prop := ∃ cause place, error = .malformed cause place

namespace Reading

theorem fails_checkBehind (r : Reading) (index after : Nat) :
    Fails Refusal.IsFault (r.checkBehind index after) := by
  unfold checkBehind
  repeat' split
  all_goals first | exact fails_ok _ | exact fails_fault _ _ _

theorem fails_pushBackref (r : Reading) (index after offset : Nat) :
    Fails Refusal.IsFault (r.pushBackref index after offset) := by
  unfold pushBackref
  split
  · exact (fails_checkBehind _ _ _).bind fun _ _ => fails_ok _
  · exact fails_fault _ _ _

theorem fails_pushQuantifier (r : Reading) (greed : Greed) (least : Nat) (most : Option Nat)
    (before after : Nat) :
    Fails Refusal.IsFault (r.pushQuantifier greed least most before after) := by
  unfold pushQuantifier
  dsimp only
  split
  · exact fails_fault _ _ _
  · exact fails_fault _ _ _
  · exact fails_fault _ _ _
  · exact fails_ok _
  · exact fails_ok _

theorem fails_openGroup (r : Reading) (opening : Opening) (before after : Nat) :
    Fails Refusal.IsFault (r.openGroup opening before after) := by
  cases opening with
  | capture name =>
      show Fails _ (r.openCapture name before after)
      unfold openCapture
      dsimp only
      split
      · exact fails_ok _
      · split
        · exact fails_fault _ _ _
        · exact fails_ok _
  | choose condition =>
      show Fails _ (r.openChoice condition before after)
      unfold openChoice
      split
      · split
        · exact fails_fault _ _ _
        · exact (fails_checkBehind _ _ _).bind fun _ _ => fails_ok _
      · exact (fails_checkBehind _ _ _).bind fun _ _ => fails_ok _
  | _ => exact fails_ok _

-- Two alphabets were asked for.
def Clashes (r : Reading) : Prop := r.flags.ascii = true ∧ r.flags.unicode = true

theorem fails_checkAlphabet (r : Reading) (left : Nat) :
    Fails (fun e => r.Clashes ∧ e = .alphabetsClash left) (r.checkAlphabet left) := by
  unfold checkAlphabet
  split
  next h => exact fails_error ⟨by simpa [Clashes] using h, rfl⟩
  next => exact fails_ok _

theorem fails_bar (r : Reading) (before : Nat) : Fails Refusal.IsFault (r.bar before) := by
  unfold bar
  split
  · exact fails_fault _ _ _
  · exact fails_ok _

theorem fails_setFlags (r : Reading) (added : Flags) (before after : Nat) :
    Fails Refusal.IsFault (r.setFlags added before after) := by
  unfold setFlags
  split
  · exact fails_ok _
  · exact fails_fault _ _ _

theorem fails_close (r : Reading) (before : Nat) :
    Fails (fun e => e.IsFault ∨ r.Clashes ∧ ∃ left, e = .alphabetsClash left)
      (r.close before) := by
  unfold close
  split
  · refine Fails.bind ?_ fun _ _ => fails_error (.inl ⟨_, _, _, rfl⟩)
    exact (fails_checkAlphabet r _).mono fun _ h => .inr ⟨h.1, _, h.2⟩
  · dsimp only
    repeat' split
    all_goals exact fails_ok _

theorem fails_step (r : Reading) (lexeme : Lexeme) (before after : Nat) :
    Fails (fun e => e.IsFault ∨ r.Clashes ∧ ∃ left, e = .alphabetsClash left)
      (r.step lexeme before after) := by
  cases lexeme with
  | blank => exact fails_ok _
  | atom atom => exact fails_ok _
  | anchor kind => exact fails_ok _
  | backref index digits =>
      simp only [step]
      split
      · exact (fails_pushBackref _ _ _ _).mono fun _ => .inl
      · exact (fails_fault _ _ _).mono fun _ => .inl
  | namedBackref name =>
      simp only [step]
      split
      · exact (fails_pushBackref _ _ _ _).mono fun _ => .inl
      · exact (fails_fault _ _ _).mono fun _ => .inl
  | quantifier greed least most => exact (fails_pushQuantifier _ _ _ _ _ _).mono fun _ => .inl
  | opening opening => exact (fails_openGroup _ _ _ _).mono fun _ => .inl
  | bar => exact (fails_bar _ _).mono fun _ => .inl
  | closing => exact fails_close _ _
  | flags added => exact (fails_setFlags _ _ _ _).mono fun _ => .inl

-- What holds of a reading after each lexeme holds when it fails, be it at a lexeme that cannot be
-- scanned or at one that cannot be taken.
theorem fails_read {P : Reading → Prop} {whole : List Token}
    (hstep : ∀ {r r' : Reading} {t : Token} {ts rest : List Token} {lexeme : Lexeme}
      {before after : Nat}, t :: ts <:+ whole → P r →
      scan r.level.mode.verbose t ts = .ok (lexeme, rest) →
      r.step lexeme before after = .ok r' → P r')
    (hr : P r) (hts : ts <:+ whole) (skip : Nat) :
    Fails (fun e => e.IsFault ∨ e.Overruns whole ∨
      ∃ r, P r ∧ r.Clashes ∧ ∃ left, e = .alphabetsClash left) (r.read skip ts) ∧
    ∀ final, r.read skip ts = .ok final → P final := by
  induction ts generalizing r skip with
  | nil =>
      rw [read_nil]
      exact ⟨fails_ok _, fun final h => Except.ok.inj h ▸ hr⟩
  | cons t ts ih =>
      have hrest : ts <:+ whole := (List.suffix_cons t ts).trans hts
      cases skip with
      | succ skip => exact ih hr hrest skip
      | zero =>
          unfold read
          constructor
          · refine Fails.bind ?_ fun found hscan => Fails.bind ?_ fun r' hr' => ?_
            · exact (fails_scan _ _ _).mono fun e h =>
                h.imp_right fun h => .inl fun pattern => (h pattern).mono hts.isInfix
            · exact (fails_step _ _ _ _).mono fun e h => h.imp_right fun h =>
                .inr ⟨r, hr, h.1, h.2⟩
            · exact (ih (hstep hts hr hscan hr') hrest _).1
          · intro final h
            obtain ⟨found, hscan, h⟩ := Except.bind_eq_ok.mp h
            obtain ⟨r', hr', h⟩ := Except.bind_eq_ok.mp h
            exact (ih (hstep hts hr hscan hr') hrest _).2 final h

theorem fails_finish (r : Reading) :
    Fails (fun e => e.IsFault ∨ r.Clashes ∧ ∃ left, e = .alphabetsClash left) r.finish := by
  unfold finish
  split
  · exact fails_error (.inl ⟨_, _, _, rfl⟩)
  · refine Fails.bind ?_ fun _ _ => ?_
    · exact (fails_checkAlphabet r _).mono fun _ h => .inr ⟨h.1, _, h.2⟩
    · split
      · exact fails_error (.inl ⟨_, _, _, rfl⟩)
      · exact fails_ok _

end Reading

-- A pattern is refused as malformed, or for a limit that its reading came to, or because a reading
-- of which a property holds all along asks for two alphabets.
theorem fails_compile {P : Reading → Prop} {Limit : Error → Prop} {text : String} {flags : Flags}
    (hread : Fails (fun e => e.IsFault ∨ (∀ pattern, Limit (e.error pattern)) ∨
        ∃ r, P r ∧ r.Clashes ∧ ∃ left, e = .alphabetsClash left)
        ((Reading.start flags).read 0 (tokens text.toList)) ∧
      ∀ final, (Reading.start flags).read 0 (tokens text.toList) = .ok final → P final) :
    Fails (fun e => e.Malformed ∨ Limit e ∨
      (∃ r, P r ∧ r.Clashes) ∧ e = .alphabetsClash) (compile text flags) := by
  have hresult : Fails (fun e => e.IsFault ∨ (∀ pattern, Limit (e.error pattern)) ∨
      ∃ r, P r ∧ r.Clashes ∧ ∃ left, e = .alphabetsClash left)
      (do
        let r ← (Reading.start flags).read 0 (tokens text.toList)
        let nodes ← r.finish
        pure (r, nodes)) := by
    refine hread.1.bind fun r hr => Fails.bind ?_ fun _ _ => fails_ok _
    refine (Reading.fails_finish r).mono fun e h => h.imp_right fun ⟨hclash, hleft⟩ => .inr ?_
    exact ⟨r, hread.2 r hr, hclash, hleft⟩
  refine Fails.bind ?_ fun found _ => ?_
  · unfold readTokens
    dsimp only
    split
    next refusal hrefusal =>
      split
      · exact fails_error (.inl ⟨_, _, rfl⟩)
      · refine fails_error ?_
        obtain ⟨cause, back, left, rfl⟩ | hlimit | ⟨r, hr, hclash, left, rfl⟩ :=
          hresult refusal hrefusal
        · exact .inl ⟨_, _, rfl⟩
        · exact .inr (.inl (hlimit _))
        · exact .inr (.inr ⟨⟨r, hr, hclash⟩, rfl⟩)
    next =>
      split
      · exact fails_error (.inl ⟨_, _, rfl⟩)
      · exact fails_ok _
  · dsimp only
    split
    · exact fails_error (.inl ⟨_, _, rfl⟩)
    · exact fails_ok _

-- Alphabets that a reading has asked for were among the flags at the start, or are set by letters.
structure Reading.Asks (flags : Flags) (whole : List Token) (r : Reading) : Prop where
  ascii : r.flags.ascii = true → flags.ascii = true ∨ SetsFlag whole 'a'
  unicode : r.flags.unicode = true → flags.unicode = true ∨ SetsFlag whole 'u'

theorem Reading.Asks.step {flags : Flags} {whole : List Token} {r r' : Reading} {t : Token}
    {lexeme : Lexeme} {before after : Nat} (h : r.Asks flags whole) (hts : t :: ts <:+ whole)
    (hscan : scan r.level.mode.verbose t ts = .ok (lexeme, rest))
    (hstep : r.step lexeme before after = .ok r') : r'.Asks flags whole := by
  cases step_of_step hstep with
  | flags added hwhole =>
      obtain ⟨letters, hholds, hset⟩ := holdsFlags_of_scan hscan
      have hin : ∀ letter ∈ letters, SetsFlag whole letter := fun letter hmem =>
        ⟨letters, hholds.mono hts.isInfix, hmem⟩
      refine ⟨fun hall => ?_, fun hall => ?_⟩
      · have hall : r.flags.ascii = true ∨ added.ascii = true := by
          simpa [Flags.union, Flags.zipWith] using hall
        exact hall.elim h.ascii fun hadded =>
          .inr (hin 'a' ((hset.ascii hadded).resolve_left (by simp)))
      · have hall : r.flags.unicode = true ∨ added.unicode = true := by
          simpa [Flags.union, Flags.zipWith] using hall
        exact hall.elim h.unicode fun hadded =>
          .inr (hin 'u' ((hset.unicode hadded).resolve_left (by simp)))
  | _ => exact ⟨h.ascii, h.unicode⟩

-- Whatever a pattern is refused for but being malformed is a limit that it exceeds.
theorem fails_compile_exceeds {text : String} {flags : Flags} (hascii : flags.ascii = false)
    (hunicode : flags.unicode = false) :
    Fails (fun e => e.Malformed ∨ Exceeds text e) (compile text flags) := by
  have hstart : (Reading.start flags).Asks flags (tokens text.toList) := ⟨.inl, .inl⟩
  have hread := Reading.fails_read (fun hts hr => Reading.Asks.step hr hts) hstart
    (List.suffix_refl _) 0
  refine (fails_compile hread).mono fun e h => h.imp_right ?_
  rintro (hcount | ⟨⟨r, hasks, hclash⟩, rfl⟩)
  · exact .count hcount
  · exact .alphabets ((hasks.ascii hclash.1).resolve_left (by simp [hascii]))
      ((hasks.unicode hclash.2).resolve_left (by simp [hunicode]))

-- Something stands in the pattern already, so no more flags for the whole of it can be set.
def Reading.Begun (r : Reading) : Prop :=
  (r.outer.isEmpty && r.level.choices.isEmpty && r.level.row.isEmpty) = false

theorem Reading.Begun.step {r r' : Reading} {lexeme : Lexeme} {before after : Nat}
    (h : r.Begun) (hstep : r.step lexeme before after = .ok r') :
    r'.Begun ∧ r'.flags = r.flags := by
  have hflags : ∀ added, lexeme ≠ .flags added := by
    rintro added rfl
    rw [Reading.step, setFlags, h] at hstep
    cases hstep
  have hstep := step_of_step hstep
  refine ⟨?_, hstep.flags_eq hflags⟩
  cases hstep with
  | blank => exact h
  | flags added hwhole => exact (hflags added rfl).elim
  | bar => simp [Begun, Level.rows]
  | closing parent outer widths before hopen hwidths =>
      simp [Begun, Level.push, Row.push, Row.isEmpty]
  | quantifier greed least most node found => simp [Begun, repeatLast, Row.isEmpty]
  | _ => simp [Begun, Reading.push, Reading.enter, Level.push, Row.push, Row.isEmpty]

-- A pattern that begins with an anchor leaves no place for flags, so it cannot ask for two
-- alphabets.
theorem fails_compile_anchored {text : String} {flags : Flags} {cs : List Char}
    (hascii : flags.ascii = false) (htext : text.toList = '^' :: cs) :
    Fails (fun e => e.Malformed ∨ Overruns (tokens text.toList) e) (compile text flags) := by
  have htokens : tokens text.toList = .plain '^' :: tokens cs := by
    rw [htext, tokens_cons (by decide)]
  let begun := (Reading.start flags).push (.fixed (.anchor flags .lineStart))
  have hbegin : (Reading.start flags).read 0 (tokens text.toList) = begun.read 0 (tokens cs) := by
    have hscan : scan flags.verbose (.plain '^') (tokens cs) =
        .ok (.anchor .lineStart, tokens cs) := by
      cases flags.verbose <;> rfl
    rw [htokens, Reading.read_cons hscan]
    rfl
  have hsuffix : tokens cs <:+ tokens text.toList := htokens ▸ List.suffix_cons _ _
  have hread := Reading.fails_read (P := fun r => r.Begun ∧ r.flags = flags)
    (fun _ hr _ hstep => ⟨(hr.1.step hstep).1, (hr.1.step hstep).2.trans hr.2⟩)
    (r := begun) ⟨rfl, rfl⟩ hsuffix 0
  rw [← hbegin] at hread
  refine (fails_compile hread).mono fun e h => h.imp_right fun h => h.resolve_right ?_
  rintro ⟨⟨r, ⟨-, hflags⟩, hclash, -⟩, -⟩
  rw [hflags, hascii] at hclash
  cases hclash

end Signpost.Regex
