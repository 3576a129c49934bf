import Signpost.Proofs.Regex.Scanning
import Signpost.Regex

namespace Signpost.Regex

open Signpost.Text Except

-- The braces of a repetition with their bounds.
def boundTokens (low : List Char) (high : Option (List Char)) : List Token :=
  .plain '\x7b' :: low.map Token.plain ++
    ((high.map fun high => .plain ',' :: high.map Token.plain).getD [] ++ [.plain '\x7d'])

-- A bound of a repetition has the digits. Neither the braces nor anything between them is escaped.
def HoldsCount (ts : List Token) (digits : List Char) : Prop :=
  ∃ (low : List Char) (high : Option (List Char)), boundTokens low high <:+: ts ∧
    (∀ c ∈ low, c.isDigit = true) ∧ (∀ digits ∈ high, ∀ c ∈ digits, c.isDigit = true) ∧
    (digits = low ∨ high = some digits)

-- A conditional group asks by a number in these digits.
def HoldsCondition (ts : List Token) (digits : List Char) : Prop :=
  .plain '(' :: .plain '?' :: .plain '(' :: digits.map Token.plain ++ [.plain ')'] <:+: ts ∧
    ∀ c ∈ digits, c.isDigit = true

-- A bound of a repetition is too large to hold, or it or the number of a group has too many digits
-- to be read.
inductive Overruns (ts : List Token) : Error → Prop
  | countTooLarge {digits : List Char} (held : HoldsCount ts digits)
      (large : countLimit ≤ readBase 10 digits) : Overruns ts .countTooLarge
  | numberTooLong {digits : List Char} (held : HoldsCount ts digits ∨ HoldsCondition ts digits)
      (long : digitLimit < digits.length) : Overruns ts (.numberTooLong digits.length)

def Refusal.IsFault (refusal : Refusal) : Prop :=
  ∃ cause back left, refusal = .fault cause back left

-- The refusal is told as a limit that a number exceeds.
def Refusal.Overruns (ts : List Token) (refusal : Refusal) : Prop :=
  ∀ pattern, Regex.Overruns ts (refusal.error pattern)

variable {α : Type} {ts rest : List Token} {digits : List Char}

theorem HoldsCount.mono (h : HoldsCount ts digits) {more : List Token} (hin : ts <:+: more) :
    HoldsCount more digits := by
  obtain ⟨low, high, hbound, hdigits⟩ := h
  exact ⟨low, high, hbound.trans hin, hdigits⟩

theorem HoldsCondition.mono (h : HoldsCondition ts digits) {more : List Token}
    (hin : ts <:+: more) : HoldsCondition more digits :=
  ⟨h.1.trans hin, h.2⟩

theorem Overruns.mono {error : Error} (h : Overruns ts error) {more : List Token}
    (hin : ts <:+: more) : Overruns more error := by
  cases h with
  | countTooLarge held large => exact .countTooLarge (held.mono hin) large
  | numberTooLong held long =>
      exact .numberTooLong (held.imp (·.mono hin) (·.mono hin)) long

theorem fails_fault (cause : Cause) (back left : Nat) :
    Fails Refusal.IsFault (.error (.fault cause back left) : Except Refusal α) :=
  fails_error ⟨cause, back, left, rfl⟩

theorem fails_refuse (cause : Cause) (rest : List Token) (offset : Nat) :
    Fails Refusal.IsFault (refuse cause rest offset : Except Refusal α) :=
  fails_fault _ _ _

theorem fails_scanName (closer : Char) (what : String) (ts : List Token) :
    Fails Refusal.IsFault (scanName closer what ts) := by
  unfold scanName
  split <;> first | exact fails_ok _ | exact fails_refuse _ _ _

theorem fails_scanGroupName (closer : Char) (ts : List Token) :
    Fails Refusal.IsFault (scanGroupName closer ts) := by
  refine (fails_scanName _ _ _).bind fun found _ => ?_
  dsimp only
  split
  · exact fails_ok _
  · exact fails_refuse _ _ _

theorem fails_scanHex (letter : Char) (count : Nat) (ts : List Token) :
    Fails Refusal.IsFault (scanHex letter count ts) := by
  unfold scanHex
  dsimp only
  split
  · exact fails_refuse _ _ _
  · split
    · exact fails_refuse _ _ _
    · exact fails_ok _

theorem fails_scanCharacterName (ts : List Token) :
    Fails Refusal.IsFault (scanCharacterName ts) := by
  unfold scanCharacterName
  split
  · refine (fails_scanName _ _ _).bind fun found _ => ?_
    dsimp only
    split
    · exact fails_ok _
    · exact fails_refuse _ _ _
  · exact fails_refuse _ _ _

theorem fails_octal (digits : List Char) (rest : List Token) :
    Fails Refusal.IsFault (octal digits rest) := by
  unfold octal
  dsimp only
  split
  · exact fails_refuse _ _ _
  · exact fails_ok _

theorem fails_scanCode (c : Char) (ts : List Token) : Fails Refusal.IsFault (scanCode c ts) := by
  unfold scanCode
  split
  · exact fails_scanHex _ _ _
  · exact fails_scanHex _ _ _
  · exact fails_scanHex _ _ _
  · exact fails_scanCharacterName _
  · split
    · exact fails_refuse _ _ _
    · exact fails_ok _

theorem fails_scanMember (t : Token) (ts : List Token) :
    Fails Refusal.IsFault (scanMember t ts) := by
  unfold scanMember
  split
  · exact fails_ok _
  · split
    · exact fails_ok _
    · exact fails_ok _
    · split
      · exact (fails_octal _ _).bind fun _ _ => fails_ok _
      · exact (fails_scanCode _ _).bind fun _ _ => fails_ok _

theorem fails_range (low high : SetItem) (first last : List Char) (rest : List Token) :
    Fails Refusal.IsFault (range low high first last rest) := by
  unfold range
  dsimp only
  split
  · split
    · exact fails_refuse _ _ _
    · exact fails_ok _
  · exact fails_refuse _ _ _

theorem fails_scanItems (mark : Nat) (items : List SetItem) (pending : Pending) (skip : Nat)
    (ts : List Token) : Fails Refusal.IsFault (scanItems mark items pending skip ts) := by
  induction ts generalizing items pending skip with
  | nil =>
      rw [scanItems]
      exact fails_fault _ _ _
  | cons t ts ih =>
      cases skip with
      | succ skip => exact ih items pending skip
      | zero =>
          unfold scanItems
          split
          · split
            · exact fails_ok _
            · refine (fails_scanMember _ _).bind fun _ _ => ?_
              exact (fails_range _ _ _ _ _).bind fun _ _ => ih _ _ _
          · dsimp only
            split
            · exact fails_ok _
            · split
              · exact ih _ _ _
              · exact (fails_scanMember _ _).bind fun _ _ => ih _ _ _

theorem fails_scanSet (mark : Nat) (ts : List Token) : Fails Refusal.IsFault (scanSet mark ts) := by
  unfold scanSet
  split
  exact (fails_scanItems _ _ _ _ _).bind fun _ _ => fails_ok _

theorem fails_scanEscape (c : Char) (ts : List Token) :
    Fails Refusal.IsFault (scanEscape c ts) := by
  unfold scanEscape
  split
  · exact fails_ok _
  · exact fails_ok _
  · exact fails_ok _
  · exact fails_ok _
  · split
    · exact fails_ok _
    · exact fails_ok _
    · split
      · exact fails_ok _
      · split
        · split
          · split
            · split
              · exact (fails_octal _ _).bind fun _ _ => fails_ok _
              · exact fails_ok _
            · exact fails_ok _
          · exact fails_ok _
        · exact (fails_scanCode _ _).bind fun _ _ => fails_ok _

theorem fails_readNumber (hdigits : HoldsCount ts digits ∨ HoldsCondition ts digits)
    (rest : List Token) : Fails (Refusal.Overruns ts) (readNumber digits rest) := by
  unfold readNumber
  split
  next hlong => exact fails_error fun _ => .numberTooLong hdigits hlong
  next => exact fails_ok _

theorem fails_readCount (hdigits : HoldsCount ts digits) (rest : List Token) :
    Fails (Refusal.Overruns ts) (readCount digits rest) := by
  refine (fails_readNumber (.inl hdigits) rest).bind fun count hcount => ?_
  obtain ⟨-, rfl⟩ := readNumber_eq_ok.mp hcount
  split
  next hlarge => exact fails_error fun _ => .countTooLarge hdigits hlarge
  next => exact fails_ok _

theorem fails_scanCounts {low high : List Char} (hlow : low ≠ [] → HoldsCount ts low)
    (hhigh : high ≠ [] → HoldsCount ts high) (inside : Nat) (rest : List Token) :
    Fails (fun e => e.IsFault ∨ e.Overruns ts) (scanCounts inside low high rest) := by
  unfold scanCounts readLeast readMost
  refine Fails.bind ?_ fun least _ => Fails.bind ?_ fun most _ => ?_
  · split
    · exact fails_ok _
    next hne => exact (fails_readCount (hlow hne) rest).mono fun _ => .inr
  · split
    · exact fails_ok _
    next hne => exact ((fails_readCount (hhigh hne) rest).mono fun _ => .inr).map some
  · split
    · exact fails_error (.inl ⟨_, _, _, rfl⟩)
    · exact fails_ok _

-- The digits that are taken come first.
theorem takePlain_eq (p : Char → Bool) (count : Nat) (ts : List Token) :
    ts = (takePlain p count ts).1.map .plain ++ (takePlain p count ts).2 ∧
      ∀ c ∈ (takePlain p count ts).1, p c = true := by
  fun_induction takePlain p count ts with
  | case1 count c ts hc cs rest htake ih =>
      rw [htake] at ih
      exact ⟨by rw [List.map_cons, List.cons_append, ← ih.1],
        List.forall_mem_cons.mpr ⟨hc, ih.2⟩⟩
  | case2 count c ts hc => exact ⟨rfl, by simp⟩
  | case3 count ts hts => exact ⟨rfl, by simp⟩

-- What stands between the braces is one bound, or two with a comma between them.
theorem holdsCount_of_scanUpper {low : List Char} {afterLow : List Token}
    (hlow : ∀ c ∈ low, c.isDigit = true)
    (h : (scanUpper low afterLow).2 = .plain '\x7d' :: rest) :
    HoldsCount (.plain '\x7b' :: low.map .plain ++ afterLow) low ∧
      HoldsCount (.plain '\x7b' :: low.map .plain ++ afterLow) (scanUpper low afterLow).1 := by
  by_cases hcomma : ∃ after, afterLow = .plain ',' :: after
  · obtain ⟨after, rfl⟩ := hcomma
    have hupper : scanUpper low (.plain ',' :: after) =
        takePlain Char.isDigit after.length after := rfl
    obtain ⟨hafter, hhigh⟩ := takePlain_eq Char.isDigit after.length after
    rw [hupper] at h ⊢
    rw [h] at hafter
    generalize (takePlain Char.isDigit after.length after).1 = high at hafter hhigh ⊢
    have hbound : boundTokens low (some high) <:+:
        .plain '\x7b' :: low.map .plain ++ .plain ',' :: after :=
      List.IsPrefix.isInfix ⟨rest, by simp [boundTokens, hafter]⟩
    have hdigits : ∀ digits ∈ some high, ∀ c ∈ digits, c.isDigit = true := by
      rintro digits ⟨⟩
      exact hhigh
    exact ⟨⟨low, _, hbound, hlow, hdigits, .inl rfl⟩, ⟨low, _, hbound, hlow, hdigits, .inr rfl⟩⟩
  · have hupper : scanUpper low afterLow = (low, afterLow) := by
      unfold scanUpper
      split
      next after => exact (hcomma ⟨after, rfl⟩).elim
      next => rfl
    rw [hupper] at h ⊢
    have hbound : boundTokens low none <:+: .plain '\x7b' :: low.map .plain ++ afterLow :=
      List.IsPrefix.isInfix ⟨rest, by simp [boundTokens, show afterLow = _ from h]⟩
    have hheld : HoldsCount (.plain '\x7b' :: low.map .plain ++ afterLow) low :=
      ⟨low, none, hbound, hlow, by simp, .inl rfl⟩
    exact ⟨hheld, hheld⟩

theorem fails_scanBounds (ts : List Token) :
    Fails (fun e => e.IsFault ∨ e.Overruns (.plain '\x7b' :: ts)) (scanBounds ts) := by
  obtain ⟨hts, hlow⟩ := takePlain_eq Char.isDigit ts.length ts
  unfold scanBounds
  dsimp only
  split
  · exact fails_ok _
  split
  next rest hrest =>
    obtain ⟨hleast, hmost⟩ := holdsCount_of_scanUpper hlow hrest
    rw [List.cons_append, ← hts] at hleast hmost
    exact fails_scanCounts (fun _ => hleast) (fun _ => hmost) _ _
  next => exact fails_ok _

theorem fails_removeFlag (removed flag : Flags) (rest : List Token) :
    Fails Refusal.IsFault (removeFlag removed flag rest) := by
  unfold removeFlag
  split
  · exact fails_ok _
  · exact fails_refuse _ _ _

theorem fails_scanRemoved (added removed : Flags) (ts : List Token) :
    Fails Refusal.IsFault (scanRemoved added removed ts) := by
  induction ts generalizing removed with
  | nil => exact fails_refuse _ _ _
  | cons t ts ih =>
      cases t with
      | escaped c => exact fails_refuse _ _ _
      | plain c =>
          unfold scanRemoved
          split
          · split
            · exact fails_refuse _ _ _
            · split
              · exact fails_refuse _ _ _
              · exact fails_ok _
          · split
            · exact (fails_removeFlag _ _ _).bind fun _ _ => ih _
            · exact fails_refuse _ _ _

theorem fails_scanMinus (added : Flags) (ts : List Token) :
    Fails Refusal.IsFault (scanMinus added ts) := by
  unfold scanMinus
  split
  · exact fails_refuse _ _ _
  · split
    · exact fails_refuse _ _ _
    · exact fails_refuse _ _ _
    · split
      · exact (fails_removeFlag _ _ _).bind fun _ _ => fails_scanRemoved _ _ _
      · exact fails_refuse _ _ _

theorem fails_addFlag (added flag : Flags) (rest : List Token) :
    Fails Refusal.IsFault (addFlag added flag rest) := by
  unfold addFlag
  dsimp only
  split
  · exact fails_refuse _ _ _
  · split
    · exact fails_refuse _ _ _
    · exact fails_ok _

theorem fails_scanFlags (added : Flags) (ts : List Token) :
    Fails Refusal.IsFault (scanFlags added ts) := by
  induction ts generalizing added with
  | nil => exact fails_refuse _ _ _
  | cons t ts ih =>
      cases t with
      | escaped c => exact fails_refuse _ _ _
      | plain c =>
          unfold scanFlags
          split
          · exact fails_ok _
          · split
            · split
              · exact fails_refuse _ _ _
              · exact fails_ok _
            · split
              · exact fails_scanMinus _ _
              · split
                · exact (fails_addFlag _ _ _).bind fun _ _ => ih _
                · exact fails_refuse _ _ _

-- The digits up to the parenthesis stand there as they are, since none of them is escaped.
theorem holdsCondition_of_scanName {what : String}
    (h : scanName ')' what ts = .ok (digits, rest)) (hdigits : ∀ c ∈ digits, c.isDigit = true) :
    HoldsCondition (.plain '(' :: .plain '?' :: .plain '(' :: ts) digits := by
  have hback : '\\' ∉ digits := fun hmem => absurd (hdigits _ hmem) (by decide)
  have hts := eq_of_cutAt (cutAt_of_scanName h) hback
  exact ⟨List.IsPrefix.isInfix ⟨rest, by simp [hts]⟩, hdigits⟩

theorem fails_scanCondition (ts : List Token) :
    Fails (fun e => e.IsFault ∨ e.Overruns (.plain '(' :: .plain '?' :: .plain '(' :: ts))
      (scanCondition ts) := by
  have hrefuse {cause : Cause} {rest : List Token} {offset : Nat} :
      Fails (fun e => e.IsFault ∨ e.Overruns (.plain '(' :: .plain '?' :: .plain '(' :: ts))
        (refuse cause rest offset : Except Refusal (Scanned Lexeme)) :=
    (fails_refuse _ _ _).mono fun _ => .inl
  refine Fails.bind ((fails_scanName _ _ _).mono fun _ => .inl) fun found hname => ?_
  dsimp only
  split
  next hall =>
    have hheld := holdsCondition_of_scanName hname (List.all_eq_true.mp hall)
    refine Fails.bind ((fails_readNumber (.inr hheld) _).mono fun _ => .inr) fun index _ => ?_
    split
    · exact hrefuse
    · split
      · exact hrefuse
      · exact fails_ok _
  next =>
    split
    · exact fails_ok _
    · exact hrefuse

theorem fails_scanOpening (mark : Nat) (ts : List Token) :
    Fails (fun e => e.IsFault ∨ e.Overruns (.plain '(' :: ts)) (scanOpening mark ts) := by
  have hfault {x : Except Refusal (Scanned Lexeme)} (h : Fails Refusal.IsFault x) :
      Fails (fun e => e.IsFault ∨ e.Overruns (.plain '(' :: ts)) x :=
    h.mono fun _ => .inl
  unfold scanOpening
  split
  · exact hfault (fails_refuse _ _ _)
  · refine hfault ?_
    split
    · exact fails_refuse _ _ _
    · exact (fails_scanGroupName _ _).bind fun _ _ => fails_ok _
    · exact (fails_scanGroupName _ _).bind fun _ _ => fails_ok _
    · exact fails_refuse _ _ _
  · refine hfault ?_
    split
    · exact fails_ok _
    · exact fails_fault _ _ _
  · refine hfault ?_
    split
    · exact fails_refuse _ _ _
    · exact fails_ok _
    · exact fails_ok _
    · exact fails_refuse _ _ _
  · exact fails_ok _
  · exact fails_ok _
  · exact fails_ok _
  · exact fails_ok _
  · exact fails_scanCondition _
  · exact hfault (fails_scanMinus _ _)
  · refine hfault ?_
    split
    · exact (fails_addFlag _ _ _).bind fun _ _ => fails_scanFlags _ _
    · exact fails_refuse _ _ _
  · exact hfault (fails_refuse _ _ _)
  · exact fails_ok _

-- A scan fails by a fault of the pattern, or it has come to a number that exceeds a limit.
theorem fails_scan (verbose : Bool) (t : Token) (ts : List Token) :
    Fails (fun e => e.IsFault ∨ e.Overruns (t :: ts)) (scan verbose t ts) := by
  cases t with
  | escaped c => exact (fails_scanEscape c ts).mono fun _ => .inl
  | plain c =>
      show Fails _ (scanPlain verbose c ts)
      unfold scanPlain
      split
      · exact fails_ok _
      split
      · exact fails_ok _
      split
      · exact fails_ok _
      · exact fails_ok _
      · exact fails_ok _
      · exact fails_ok _
      · exact fails_ok _
      · exact (fails_scanSet _ _).mono fun _ => .inl
      · exact fails_scanOpening _ _
      · exact fails_ok _
      · exact fails_ok _
      · exact fails_ok _
      · exact fails_scanBounds ts
      · exact fails_ok _

theorem scanEscape_ne_flags {c : Char} {added : Flags} :
    scanEscape c ts ≠ .ok (.flags added, rest) := by
  intro h
  unfold scanEscape at h
  repeat' split at h
  all_goals simp [Except.bind_eq_ok, pure, Except.pure] at h

theorem scanSet_ne_flags {mark : Nat} {added : Flags} :
    scanSet mark ts ≠ .ok (.flags added, rest) := by
  intro h
  unfold scanSet at h
  split at h
  simp [Except.bind_eq_ok, pure, Except.pure] at h

theorem scanGreed_ne_flags {least : Nat} {most : Option Nat} {added : Flags} :
    scanGreed least most ts ≠ (.flags added, rest) := by
  unfold scanGreed
  split <;> simp

theorem scanBounds_ne_flags {added : Flags} : scanBounds ts ≠ .ok (.flags added, rest) := by
  intro h
  unfold scanBounds at h
  dsimp only at h
  split at h
  · cases h
  split at h
  next after hafter =>
    obtain ⟨least, -, h⟩ := Except.bind_eq_ok.mp h
    obtain ⟨most, -, h⟩ := Except.bind_eq_ok.mp h
    split at h
    · cases h
    · exact scanGreed_ne_flags (Except.ok.inj h)
  next => cases h

theorem scanRemoved_ne_flags {added removed all : Flags} :
    scanRemoved added removed ts ≠ .ok (.flags all, rest) := by
  intro h
  induction ts generalizing removed with
  | nil => cases h
  | cons t ts ih =>
      cases t with
      | escaped c => cases h
      | plain c =>
          unfold scanRemoved at h
          split at h
          · repeat' split at h
            all_goals simp [refuse] at h
          · split at h
            · obtain ⟨removed', -, h⟩ := Except.bind_eq_ok.mp h
              exact ih h
            · cases h

theorem scanMinus_ne_flags {added all : Flags} : scanMinus added ts ≠ .ok (.flags all, rest) := by
  intro h
  unfold scanMinus at h
  split at h
  · cases h
  · split at h
    · cases h
    · cases h
    · split at h
      · obtain ⟨removed, -, h⟩ := Except.bind_eq_ok.mp h
        exact scanRemoved_ne_flags h
      · cases h

theorem scanCondition_ne_flags {all : Flags} : scanCondition ts ≠ .ok (.flags all, rest) := by
  intro h
  obtain ⟨found, -, h⟩ := Except.bind_eq_ok.mp h
  dsimp only at h
  split at h
  · obtain ⟨index, -, h⟩ := Except.bind_eq_ok.mp h
    split at h
    · cases h
    · split at h <;> cases h
  · split at h <;> cases h

theorem addFlag_eq {added flag all : Flags} (h : addFlag added flag ts = .ok all) :
    all = added.union flag := by
  unfold addFlag at h
  dsimp only at h
  repeat' split at h
  · cases h
  · cases h
  · exact (Except.ok.inj h).symm

-- A flag that a letter stands for is the one it sets.
theorem ascii_ofLetter? {c : Char} {flag : Flags} (h : Flags.ofLetter? c = some flag) :
    (flag.ascii = true → c = 'a') ∧ (flag.unicode = true → c = 'u') := by
  unfold Flags.ofLetter? at h
  split at h <;> simp_all <;> subst h <;> simp

-- Of the flags in `all` those that choose an alphabet were there before, or a letter sets them.
structure SetBy (before all : Flags) (letters : List Char) : Prop where
  known : ∀ c ∈ letters, (Flags.ofLetter? c).isSome = true
  ascii : all.ascii = true → before.ascii = true ∨ 'a' ∈ letters
  unicode : all.unicode = true → before.unicode = true ∨ 'u' ∈ letters

theorem SetBy.cons {before flag all : Flags} {c : Char} {letters : List Char}
    (hflag : Flags.ofLetter? c = some flag) (h : SetBy (before.union flag) all letters) :
    SetBy before all (c :: letters) := by
  obtain ⟨hascii, hunicode⟩ := ascii_ofLetter? hflag
  refine ⟨List.forall_mem_cons.mpr ⟨by rw [hflag]; rfl, h.known⟩, fun hall => ?_, fun hall => ?_⟩
  · rcases h.ascii hall with hset | hmem
    · have hset : before.ascii = true ∨ flag.ascii = true := by
        simpa [Flags.union, Flags.zipWith] using hset
      exact hset.imp_right fun hset => hascii hset ▸ List.mem_cons_self
    · exact .inr (List.mem_cons_of_mem _ hmem)
  · rcases h.unicode hall with hset | hmem
    · have hset : before.unicode = true ∨ flag.unicode = true := by
        simpa [Flags.union, Flags.zipWith] using hset
      exact hset.imp_right fun hset => hunicode hset ▸ List.mem_cons_self
    · exact .inr (List.mem_cons_of_mem _ hmem)

theorem scanFlags_flags {added all : Flags} (h : scanFlags added ts = .ok (.flags all, rest)) :
    ∃ letters : List Char, ts = letters.map Token.plain ++ .plain ')' :: rest ∧
      SetBy added all letters := by
  induction ts generalizing added with
  | nil => cases h
  | cons t ts ih =>
      cases t with
      | escaped c => cases h
      | plain c =>
          unfold scanFlags at h
          split at h
          next hclose =>
            obtain ⟨hall, rfl⟩ := Prod.mk.inj (Except.ok.inj h)
            obtain rfl := Lexeme.flags.inj hall
            exact ⟨[], by rw [hclose]; rfl, by simp, .inl, .inl⟩
          next =>
            split at h
            · split at h <;> cases h
            split at h
            · exact (scanMinus_ne_flags h).elim
            split at h
            next flag hflag =>
              obtain ⟨added', hadd, h⟩ := Except.bind_eq_ok.mp h
              obtain rfl := addFlag_eq hadd
              obtain ⟨letters, rfl, hset⟩ := ih h
              exact ⟨c :: letters, rfl, hset.cons hflag⟩
            next => cases h

theorem scanOpening_flags {mark : Nat} {all : Flags}
    (h : scanOpening mark ts = .ok (.flags all, rest)) :
    ∃ letters : List Char, ts = .plain '?' :: letters.map Token.plain ++ .plain ')' :: rest ∧
      SetBy {} all letters := by
  unfold scanOpening at h
  split at h
  · cases h
  · split at h
    · cases h
    · obtain ⟨found, -, h⟩ := Except.bind_eq_ok.mp h
      cases h
    · obtain ⟨found, -, h⟩ := Except.bind_eq_ok.mp h
      cases h
    · cases h
  · split at h <;> cases h
  · split at h <;> cases h
  · cases h
  · cases h
  · cases h
  · cases h
  · exact (scanCondition_ne_flags h).elim
  · exact (scanMinus_ne_flags h).elim
  · split at h
    next flag hflag =>
      obtain ⟨added, hadd, h⟩ := Except.bind_eq_ok.mp h
      obtain rfl := addFlag_eq hadd
      obtain ⟨letters, rfl, hset⟩ := scanFlags_flags h
      exact ⟨_ :: letters, rfl, hset.cons hflag⟩
    next => cases h
  · cases h
  · cases h

-- Flags for a whole pattern are letters behind a parenthesis and a question mark.
theorem scan_flags {verbose : Bool} {t : Token} {all : Flags}
    (h : scan verbose t ts = .ok (.flags all, rest)) :
    ∃ letters : List Char,
      t :: ts = .plain '(' :: .plain '?' :: letters.map Token.plain ++ .plain ')' :: rest ∧
        SetBy {} all letters := by
  cases t with
  | escaped c => exact (scanEscape_ne_flags h).elim
  | plain c =>
      have hplain : scanPlain verbose c ts = .ok (.flags all, rest) := h
      unfold scanPlain at hplain
      split at hplain
      · cases hplain
      split at hplain
      · cases hplain
      split at hplain
      · cases hplain
      · cases hplain
      · cases hplain
      · cases hplain
      · cases hplain
      · exact (scanSet_ne_flags hplain).elim
      · obtain ⟨letters, rfl, hset⟩ := scanOpening_flags hplain
        exact ⟨letters, rfl, hset⟩
      · exact (scanGreed_ne_flags (Except.ok.inj hplain)).elim
      · exact (scanGreed_ne_flags (Except.ok.inj hplain)).elim
      · exact (scanGreed_ne_flags (Except.ok.inj hplain)).elim
      · exact (scanBounds_ne_flags hplain).elim
      · cases hplain

end Signpost.Regex
