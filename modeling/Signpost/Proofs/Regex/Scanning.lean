import Signpost.Proofs.Outcome
import Signpost.Proofs.Regex.Token
import Signpost.Regex.Lexeme

namespace Signpost.Regex

open Signpost.Text

variable {α : Type} {ts rest : List Token}

-- `scanner` reads `a` off the front of `ts` and leaves `rest`, and it does so too when a
-- closing parenthesis and anything else come after `ts`.
structure Takes (scanner : List Token → Except Refusal (Scanned α)) (ts : List Token) (a : α)
    (rest : List Token) : Prop where
  suffix : rest <:+ ts
  closed : ∀ more, scanner (ts ++ .plain ')' :: more) = .ok (a, rest ++ .plain ')' :: more)

-- Tokens in front that lead from one scanner to another.
theorem Takes.after {scanner scanner' : List Token → Except Refusal (Scanned α)} {a : α}
    (h : Takes scanner ts a rest) (front : List Token)
    (heq : ∀ more, scanner' (front ++ (ts ++ .plain ')' :: more)) =
      scanner (ts ++ .plain ')' :: more)) :
    Takes scanner' (front ++ ts) a rest := by
  refine ⟨h.suffix.trans (List.suffix_append front ts), fun more => ?_⟩
  rw [List.append_assoc, heq, h.closed]

theorem takes_front {scanner : List Token → Except Refusal (Scanned α)} {a b : α}
    (front : List Token) (h : (Except.ok (a, ts) : Except Refusal (Scanned α)) = .ok (b, rest))
    (heq : ∀ more, scanner (front ++ (ts ++ .plain ')' :: more)) =
      .ok (a, ts ++ .plain ')' :: more)) :
    Takes scanner (front ++ ts) b rest := by
  simp only [Except.ok.injEq, Prod.mk.injEq] at h
  obtain ⟨rfl, rfl⟩ := h
  refine ⟨List.suffix_append front ts, fun more => ?_⟩
  rw [List.append_assoc, heq]

theorem cutAt_of_scanName {closer : Char} {what : String} {name : List Char}
    (h : scanName closer what ts = .ok (name, rest)) : cutAt closer ts = (name, some rest) := by
  unfold scanName at h
  split at h
  case h_4 hcut =>
    obtain ⟨rfl, rfl⟩ := Prod.mk.inj (Except.ok.inj h)
    exact hcut
  all_goals cases h

theorem takes_scanName {closer : Char} {what : String} {name : List Char}
    (h : scanName closer what ts = .ok (name, rest)) :
    Takes (scanName closer what) ts name rest := by
  unfold scanName at h
  split at h
  case h_4 found after hne hcut =>
    simp only [Except.ok.injEq, Prod.mk.injEq] at h
    obtain ⟨rfl, rfl⟩ := h
    refine ⟨cutAt_suffix hcut, fun more => ?_⟩
    rw [scanName, cutAt_append hcut]
    cases found with
    | nil => exact (hne rfl).elim
    | cons => rfl
  all_goals simp [refuse] at h

theorem takes_scanGroupName {closer : Char} {name : String}
    (h : scanGroupName closer ts = .ok (name, rest)) :
    Takes (scanGroupName closer) ts name rest := by
  obtain ⟨⟨chars, after⟩, hname, h⟩ := Except.bind_eq_ok.mp h
  have hn := takes_scanName hname
  by_cases hid : isIdentifier chars
  · simp only [hid, if_true, pure, Except.pure, Except.ok.injEq, Prod.mk.injEq] at h
    obtain ⟨rfl, rfl⟩ := h
    exact ⟨hn.suffix, fun more => by simp [scanGroupName, hn.closed, hid, pure, Except.pure]⟩
  · simp [hid, refuse] at h

theorem takes_scanHex {letter : Char} {count code : Nat}
    (h : scanHex letter count ts = .ok (code, rest)) :
    Takes (scanHex letter count) ts code rest := by
  simp only [scanHex] at h
  split at h
  · simp [refuse] at h
  next hlen =>
    split at h
    · simp [refuse] at h
    next hcode =>
      simp only [Except.ok.injEq, Prod.mk.injEq] at h
      obtain ⟨rfl, rfl⟩ := h
      refine ⟨takePlain_suffix _ _ _, fun more => ?_⟩
      have hp := takePlain_append (p := isHexDigit) (c := ')') (by decide) count ts more
      simp only [scanHex, hp, hlen, hcode, if_false]

theorem takes_scanCharacterName {code : Nat}
    (h : scanCharacterName ts = .ok (code, rest)) : Takes scanCharacterName ts code rest := by
  unfold scanCharacterName at h
  split at h
  next ts =>
    obtain ⟨⟨name, after⟩, hname, h⟩ := Except.bind_eq_ok.mp h
    have hn := takes_scanName hname
    dsimp only at h
    split at h
    next found hfound =>
      simp only [pure, Except.pure, Except.ok.injEq, Prod.mk.injEq] at h
      obtain ⟨rfl, rfl⟩ := h
      refine ⟨hn.suffix.trans (List.suffix_cons _ _), fun more => ?_⟩
      simp [scanCharacterName, hn.closed, hfound, pure, Except.pure]
    · simp [refuse] at h
  · simp [refuse] at h

theorem octal_eq_ok {digits : List Char} {rest rest' : List Token} {code : Nat} :
    octal digits rest = .ok (code, rest') ↔
      readBase 8 digits ≤ 0o377 ∧ code = readBase 8 digits ∧ rest' = rest := by
  unfold octal
  by_cases h : 0o377 < readBase 8 digits
  · simp [h, refuse, Nat.not_le.mpr h]
  · simp [h, Nat.le_of_not_lt h, eq_comm]

theorem takes_scanCode {c : Char} {code : Nat} (h : scanCode c ts = .ok (code, rest)) :
    Takes (scanCode c) ts code rest := by
  unfold scanCode at h
  split at h
  · exact takes_scanHex h
  · exact takes_scanHex h
  · exact takes_scanHex h
  · exact takes_scanCharacterName h
  next hx hu hU hN =>
    split at h
    · simp [refuse] at h
    next halnum =>
      refine takes_front [] h fun more => ?_
      unfold scanCode
      split <;> simp_all

theorem takes_scanMember {t : Token} {item : SetItem}
    (h : scanMember t ts = .ok (item, rest)) : Takes (scanMember t) ts item rest := by
  unfold scanMember at h
  split at h
  next c => exact takes_front [] h fun more => rfl
  next c =>
    split at h
    next code hcontrol => exact takes_front [] h fun more => by simp [scanMember, hcontrol]
    next kind hcontrol hcategory =>
      exact takes_front [] h fun more => by simp [scanMember, hcontrol, hcategory]
    next hcontrol hcategory =>
      split at h
      next hdigit =>
        obtain ⟨⟨code, after⟩, hoctal, h⟩ := Except.bind_eq_ok.mp h
        simp only [pure, Except.pure, Except.ok.injEq, Prod.mk.injEq] at h
        obtain ⟨rfl, rfl⟩ := h
        obtain ⟨hle, rfl, rfl⟩ := octal_eq_ok.mp hoctal
        refine ⟨takePlain_suffix _ _ _, fun more => ?_⟩
        have hp := takePlain_append (p := isOctalDigit) (c := ')') (by decide) 2 ts more
        simp only [scanMember, hcontrol, hcategory, hdigit, if_true, hp]
        rw [octal_eq_ok.mpr ⟨hle, rfl, rfl⟩]
        rfl
      next hdigit =>
        obtain ⟨⟨code, after⟩, hcode, h⟩ := Except.bind_eq_ok.mp h
        simp only [pure, Except.pure, Except.ok.injEq, Prod.mk.injEq] at h
        obtain ⟨rfl, rfl⟩ := h
        have hc := takes_scanCode hcode
        refine ⟨hc.suffix, fun more => ?_⟩
        simp only [scanMember, hcontrol, hcategory, hdigit, hc.closed]
        rfl

-- The tokens after a range only tell where a fault would be.
theorem range_eq_ok {low high item : SetItem} {first last : List Char}
    (h : range low high first last ts = .ok item) : range low high first last rest = .ok item := by
  simp only [range] at h ⊢
  split at h
  · split at h
    · simp [refuse] at h
    next hle => simpa [hle] using h
  · simp [refuse] at h

theorem length_append_sub (ts rest more : List Token) :
    (ts ++ more).length - (rest ++ more).length = ts.length - rest.length := by
  simp only [List.length_append]
  omega

-- The induction is on all tokens, those of the member read last included, so it goes through
-- the skipped ones one at a time.
theorem takes_scanItems {mark : Nat} {items result : List SetItem} {pending : Pending}
    {skip : Nat} (h : scanItems mark items pending skip ts = .ok (result, rest)) (mark' : Nat) :
    Takes (scanItems mark' items pending skip) ts result rest := by
  induction ts generalizing items pending skip with
  | nil => simp [scanItems] at h
  | cons t ts ih =>
      cases skip with
      | succ skip =>
          have hskip : scanItems mark items pending skip ts = .ok (result, rest) := h
          exact (ih hskip).after [t] fun more => rfl
      | zero =>
          simp only [scanItems] at h
          split at h
          next low first =>
            split at h
            next hclose =>
              exact takes_front [t] h fun more => by simp [scanItems, hclose]
            next hopen =>
              obtain ⟨⟨high, after⟩, hmember, h⟩ := Except.bind_eq_ok.mp h
              obtain ⟨item, hrange, h⟩ := Except.bind_eq_ok.mp h
              have hm := takes_scanMember hmember
              refine (ih h).after [t] fun more => ?_
              simp only [List.cons_append, List.nil_append, scanItems, hopen, hm.closed,
                range_eq_ok hrange, length_append_sub, if_false, Except.bind_ok]
          next hpending =>
            split at h
            next hclose =>
              refine takes_front [t] h fun more => ?_
              clear h
              cases pending <;> simp_all [scanItems]
            next hopen =>
              split at h
              next item text => exact (ih h).after [_] fun more => by simp [scanItems]
              next hhyphen =>
                obtain ⟨⟨item, after⟩, hmember, h⟩ := Except.bind_eq_ok.mp h
                have hm := takes_scanMember hmember
                refine (ih h).after [t] fun more => ?_
                cases pending with
                | hyphen low first => exact absurd rfl (hpending low first)
                | idle =>
                    simp only [List.cons_append, List.nil_append, scanItems, hopen, hm.closed,
                      length_append_sub, if_false, Except.bind_ok]
                | member item text =>
                    cases t with
                    | escaped c =>
                        simp only [List.cons_append, List.nil_append, scanItems, hopen, hm.closed,
                          length_append_sub, if_false, Except.bind_ok]
                    | plain c =>
                        have hc : c ≠ '-' := fun hc => hhyphen item text rfl (hc ▸ rfl)
                        simp only [List.cons_append, List.nil_append, scanItems, hopen, hm.closed,
                          length_append_sub, if_false, Except.bind_ok]

theorem takes_scanSet {mark : Nat} {lexeme : Lexeme}
    (h : scanSet mark ts = .ok (lexeme, rest)) (mark' : Nat) :
    Takes (scanSet mark') ts lexeme rest := by
  simp only [scanSet] at h
  obtain ⟨⟨items, after⟩, hitems, h⟩ := Except.bind_eq_ok.mp h
  simp only [pure, Except.pure, Except.ok.injEq, Prod.mk.injEq] at h
  obtain ⟨rfl, rfl⟩ := h
  have hs := takes_scanItems hitems mark'
  split at hs
  next ts' =>
    refine ⟨hs.suffix.trans (List.suffix_cons _ _), fun more => ?_⟩
    simp only [scanSet, List.cons_append, hs.closed]
    rfl
  next hcaret =>
    refine ⟨hs.suffix, fun more => ?_⟩
    cases ts with
    | nil => simp [scanItems] at hitems
    | cons t ts =>
        simp only [List.cons_append] at hs ⊢
        have hclosed := hs.closed more
        simp only [List.cons_append] at hclosed
        unfold scanSet
        split
        simp_all [pure, Except.pure]

theorem takes_scanEscape {c : Char} {lexeme : Lexeme}
    (h : scanEscape c ts = .ok (lexeme, rest)) : Takes (scanEscape c) ts lexeme rest := by
  have hd (more : List Token) :=
    takePlain_append (p := Char.isDigit) (c := ')') (by decide) 1 ts more
  unfold scanEscape at h
  split at h
  case h_5 hA hb hB hZ =>
    split at h
    next item hcategory => exact takes_front [] h fun more => by simp [scanEscape, hcategory]
    next code hcategory hcontrol =>
      exact takes_front [] h fun more => by simp [scanEscape, hcategory, hcontrol]
    next hcategory hcontrol =>
      split at h
      next hzero =>
        simp only [Except.ok.injEq, Prod.mk.injEq] at h
        obtain ⟨rfl, rfl⟩ := h
        refine ⟨takePlain_suffix _ _ _, fun more => ?_⟩
        have hp := takePlain_append (p := isOctalDigit) (c := ')') (by decide) 2 ts more
        subst hzero
        simp [scanEscape, hcategory, hcontrol, hp]
      next hzero =>
        split at h
        next hdigit =>
          split at h
          next d after htens =>
            have hp (more : List Token) :=
              takePlain_append (p := isOctalDigit) (c := ')') (by decide) 1 after more
            have hsuffix : after <:+ ts := by simpa [htens] using takePlain_suffix Char.isDigit 1 ts
            split at h
            next e after' hones =>
              split at h
              next hoctal =>
                obtain ⟨⟨code, left⟩, hcode, h⟩ := Except.bind_eq_ok.mp h
                simp only [pure, Except.pure, Except.ok.injEq, Prod.mk.injEq] at h
                obtain ⟨rfl, rfl⟩ := h
                obtain ⟨hle, rfl, rfl⟩ := octal_eq_ok.mp hcode
                refine ⟨?_, fun more => ?_⟩
                · simpa [hones] using (takePlain_suffix isOctalDigit 1 after).trans hsuffix
                · simp only [scanEscape, hcategory, hcontrol, hzero, hdigit, hd, htens, hp, hones,
                    hoctal, if_true, if_false]
                  rw [octal_eq_ok.mpr ⟨hle, rfl, rfl⟩]
                  rfl
              next hoctal =>
                simp only [Except.ok.injEq, Prod.mk.injEq] at h
                obtain ⟨rfl, rfl⟩ := h
                refine ⟨hsuffix, fun more => ?_⟩
                simp only [scanEscape, hcategory, hcontrol, hzero, hdigit, hd, htens, hp, hones,
                  hoctal, if_true, if_false]
                rfl
            next hones =>
              simp only [Except.ok.injEq, Prod.mk.injEq] at h
              obtain ⟨rfl, rfl⟩ := h
              refine ⟨hsuffix, fun more => ?_⟩
              simp only [scanEscape, hcategory, hcontrol, hzero, hdigit, hd, htens, hp, if_true,
                if_false]
              split
              next e left heq =>
                simp only [Prod.mk.injEq] at heq
                exact (hones e _ (Prod.ext heq.1 rfl)).elim
              · rfl
          next htens =>
            refine takes_front [] h fun more => ?_
            simp only [List.nil_append, scanEscape, hcategory, hcontrol, hzero, hdigit, hd,
              if_true, if_false]
            split
            next d left heq =>
              simp only [Prod.mk.injEq] at heq
              exact (htens d _ (Prod.ext heq.1 rfl)).elim
            · rfl
        next hdigit =>
          obtain ⟨⟨code, after⟩, hcode, h⟩ := Except.bind_eq_ok.mp h
          simp only [pure, Except.pure, Except.ok.injEq, Prod.mk.injEq] at h
          obtain ⟨rfl, rfl⟩ := h
          have hc := takes_scanCode hcode
          refine ⟨hc.suffix, fun more => ?_⟩
          simp only [scanEscape, hcategory, hcontrol, hzero, hdigit, hc.closed, if_false]
          rfl
  all_goals exact takes_front [] h fun more => rfl

theorem scanGreed_suffix (least : Nat) (most : Option Nat) (ts : List Token) :
    (scanGreed least most ts).2 <:+ ts := by
  unfold scanGreed
  split
  · exact List.suffix_cons _ _
  · exact List.suffix_cons _ _
  · exact List.suffix_refl _

theorem scanGreed_append (least : Nat) (most : Option Nat) (ts more : List Token) :
    scanGreed least most (ts ++ .plain ')' :: more) =
      ((scanGreed least most ts).1, (scanGreed least most ts).2 ++ .plain ')' :: more) := by
  cases ts with
  | nil => rfl
  | cons t ts =>
      rw [List.cons_append]
      unfold scanGreed
      split <;> simp_all

theorem takes_scanGreed {least : Nat} {most : Option Nat} {lexeme : Lexeme}
    (h : scanGreed least most ts = (lexeme, rest)) :
    Takes (fun ts => .ok (scanGreed least most ts)) ts lexeme rest := by
  have hrest : (scanGreed least most ts).2 = rest := by rw [h]
  refine ⟨hrest ▸ scanGreed_suffix least most ts, fun more => ?_⟩
  rw [scanGreed_append, h]

theorem readNumber_eq_ok {digits : List Char} {number : Nat} :
    readNumber digits ts = .ok number ↔
      digits.length ≤ digitLimit ∧ number = readBase 10 digits := by
  unfold readNumber
  by_cases h : digitLimit < digits.length
  · simp [h, Nat.not_le.mpr h]
  · simp [h, Nat.le_of_not_lt h, eq_comm]

theorem readCount_eq_ok {digits : List Char} {count : Nat} (h : readCount digits ts = .ok count) :
    readCount digits rest = .ok count := by
  obtain ⟨number, hnumber, h⟩ := Except.bind_eq_ok.mp h
  rw [readCount, readNumber_eq_ok.mpr (readNumber_eq_ok.mp hnumber), Except.bind_ok]
  split at h
  · cases h
  next hlimit => rwa [if_neg hlimit]

theorem takeDigits_append (ts more : List Token) :
    takePlain Char.isDigit (ts ++ .plain ')' :: more).length (ts ++ .plain ')' :: more) =
      ((takePlain Char.isDigit ts.length ts).1,
        (takePlain Char.isDigit ts.length ts).2 ++ .plain ')' :: more) := by
  rw [takePlain_append (by decide), takePlain_of_le (by simp)]

theorem scanUpper_suffix (low : List Char) (ts : List Token) : (scanUpper low ts).2 <:+ ts := by
  unfold scanUpper
  split
  · exact (takePlain_suffix _ _ _).trans (List.suffix_cons _ _)
  · exact List.suffix_refl _

theorem scanUpper_append (low : List Char) (ts more : List Token) :
    scanUpper low (ts ++ .plain ')' :: more) =
      ((scanUpper low ts).1, (scanUpper low ts).2 ++ .plain ')' :: more) := by
  cases ts with
  | nil => rfl
  | cons t ts =>
      rw [List.cons_append]
      unfold scanUpper
      split
      next heq =>
        obtain ⟨rfl, rfl⟩ := List.cons.inj heq
        exact takeDigits_append ts more
      next hcomma => simp_all

theorem takes_scanCounts {inside : Nat} {low high : List Char} {lexeme : Lexeme}
    (h : scanCounts inside low high ts = .ok (lexeme, rest)) (inside' : Nat) :
    Takes (scanCounts inside' low high) ts lexeme rest := by
  obtain ⟨least, hleast, h⟩ := Except.bind_eq_ok.mp h
  obtain ⟨most, hmost, h⟩ := Except.bind_eq_ok.mp h
  split at h
  · simp at h
  next hle =>
    simp only [pure, Except.pure, Except.ok.injEq] at h
    have hrest : (scanGreed least most ts).2 = rest := by rw [h]
    refine ⟨hrest ▸ scanGreed_suffix least most ts, fun more => ?_⟩
    have hleast' : readLeast low (ts ++ .plain ')' :: more) = .ok least := by
      unfold readLeast at hleast ⊢
      split at hleast
      next hnil => simpa [hnil] using hleast
      next hdigits => simpa [hdigits] using readCount_eq_ok hleast
    have hmost' : readMost high (ts ++ .plain ')' :: more) = .ok most := by
      unfold readMost at hmost ⊢
      split at hmost
      next hnil => simpa [hnil] using hmost
      next hdigits =>
        cases hcount : readCount high ts with
        | error e => simp [hcount, Functor.map, Except.map] at hmost
        | ok count =>
            rw [hcount] at hmost
            simp only [hdigits, if_false, readCount_eq_ok hcount]
            exact hmost
    simp only [scanCounts, hleast', hmost', Except.bind_ok, hle, scanGreed_append, h]
    rfl

theorem takes_scanBounds {lexeme : Lexeme} (h : scanBounds ts = .ok (lexeme, rest)) :
    Takes scanBounds ts lexeme rest := by
  have hupper := scanUpper_append (takePlain Char.isDigit ts.length ts).1
    (takePlain Char.isDigit ts.length ts).2
  unfold scanBounds at h
  split at h
  next hbrace =>
    refine takes_front [] h fun more => ?_
    have hb : (ts ++ .plain ')' :: more).head? = some (.plain '\x7d') := by
      rw [List.head?_append, hbrace]
      rfl
    rw [List.nil_append, scanBounds, if_pos hb]
  next hbrace =>
    have hb (more : List Token) :
        ¬(ts ++ .plain ')' :: more).head? = some (.plain '\x7d') := by
      cases ts <;> simp_all
    dsimp only at h
    split at h
    next after hafter =>
      have hcounts := takes_scanCounts h
      have hsuffix : after <:+ ts := by
        refine (List.suffix_cons (.plain '\x7d') after).trans ?_
        rw [← hafter]
        exact (scanUpper_suffix _ _).trans (takePlain_suffix _ _ _)
      refine ⟨(hcounts 0).suffix.trans hsuffix, fun more => ?_⟩
      simp only [scanBounds, hb, if_false, takeDigits_append, hupper, hafter]
      exact (hcounts _).closed more
    next hafter =>
      refine takes_front [] h fun more => ?_
      simp only [List.nil_append, scanBounds, hb, if_false, takeDigits_append, hupper]
      cases hleft : (scanUpper (takePlain Char.isDigit ts.length ts).1
        (takePlain Char.isDigit ts.length ts).2).2 with
      | nil => rfl
      | cons t left =>
          rw [List.cons_append]
          split
          next heq =>
            obtain ⟨rfl, rfl⟩ := List.cons.inj heq
            exact (hafter left hleft).elim
          · rfl

theorem removeFlag_eq_ok {removed flag flags : Flags} (h : removeFlag removed flag ts = .ok flags) :
    removeFlag removed flag rest = .ok flags := by
  unfold removeFlag at h ⊢
  split at h
  next hempty => simpa [hempty] using h
  · simp [refuse] at h

theorem addFlag_eq_ok {added flag flags : Flags} (h : addFlag added flag ts = .ok flags) :
    addFlag added flag rest = .ok flags := by
  simp only [addFlag] at h ⊢
  split at h
  · simp [refuse] at h
  next hlocale =>
    split at h
    · simp [refuse] at h
    next hclash =>
      rw [if_neg hlocale, if_neg hclash]
      exact h

theorem takes_scanRemoved {added removed : Flags} {lexeme : Lexeme}
    (h : scanRemoved added removed ts = .ok (lexeme, rest)) :
    Takes (scanRemoved added removed) ts lexeme rest := by
  induction ts generalizing removed with
  | nil => simp [scanRemoved, refuse] at h
  | cons t ts ih =>
      cases t with
      | escaped c => simp [scanRemoved, refuse] at h
      | plain c =>
          simp only [scanRemoved] at h
          split at h
          next hcolon =>
            split at h
            · simp [refuse] at h
            next htemplate =>
              split at h
              · simp [refuse] at h
              next hboth =>
                refine takes_front [_] h fun more => ?_
                simp only [List.cons_append, scanRemoved, hcolon, htemplate, hboth, if_true]
                rfl
          next hcolon =>
            split at h
            next flag hflag =>
              obtain ⟨removed', hremoved, h⟩ := Except.bind_eq_ok.mp h
              refine (ih h).after [_] fun more => ?_
              simp only [List.cons_append, List.nil_append, scanRemoved, hcolon, hflag,
                removeFlag_eq_ok hremoved, if_false, Except.bind_ok]
            · simp [refuse] at h

theorem takes_scanMinus {added : Flags} {lexeme : Lexeme}
    (h : scanMinus added ts = .ok (lexeme, rest)) : Takes (scanMinus added) ts lexeme rest := by
  unfold scanMinus at h
  split at h
  · simp [refuse] at h
  next htemplate =>
    split at h
    · simp [refuse] at h
    · simp [refuse] at h
    next c ts =>
      split at h
      next flag hflag =>
        obtain ⟨removed, hremoved, h⟩ := Except.bind_eq_ok.mp h
        refine (takes_scanRemoved h).after [_] fun more => ?_
        simp only [List.cons_append, List.nil_append, scanMinus, htemplate, hflag,
          removeFlag_eq_ok hremoved, Except.bind_ok]
        rfl
      · simp [refuse] at h

theorem takes_scanFlags {added : Flags} {lexeme : Lexeme}
    (h : scanFlags added ts = .ok (lexeme, rest)) : Takes (scanFlags added) ts lexeme rest := by
  induction ts generalizing added with
  | nil => simp [scanFlags, refuse] at h
  | cons t ts ih =>
      cases t with
      | escaped c => simp [scanFlags, refuse] at h
      | plain c =>
          simp only [scanFlags] at h
          split at h
          next hclose => exact takes_front [_] h fun more => by simp [scanFlags, hclose]
          next hclose =>
            split at h
            next hcolon =>
              split at h
              · simp [refuse] at h
              next htemplate =>
                exact takes_front [_] h fun more => by simp [scanFlags, hcolon, htemplate]
            next hcolon =>
              split at h
              next hminus =>
                subst hminus
                exact (takes_scanMinus h).after [_] fun more => rfl
              next hminus =>
                split at h
                next flag hflag =>
                  obtain ⟨added', hadded, h⟩ := Except.bind_eq_ok.mp h
                  refine (ih h).after [_] fun more => ?_
                  simp only [List.cons_append, List.nil_append, scanFlags, hclose, hcolon, hminus,
                    hflag, addFlag_eq_ok hadded, if_false, Except.bind_ok]
                · simp [refuse] at h

theorem takes_scanCondition {lexeme : Lexeme} (h : scanCondition ts = .ok (lexeme, rest)) :
    Takes scanCondition ts lexeme rest := by
  obtain ⟨⟨name, after⟩, hname, h⟩ := Except.bind_eq_ok.mp h
  have hn := takes_scanName hname
  dsimp only at h
  split at h
  next hdigits =>
    obtain ⟨index, hindex, h⟩ := Except.bind_eq_ok.mp h
    split at h
    · cases h
    next hzero =>
      split at h
      · cases h
      next hlimit =>
        obtain ⟨rfl, rfl⟩ := Prod.mk.inj (Except.ok.inj h)
        refine ⟨hn.suffix, fun more => ?_⟩
        simp only [scanCondition, hn.closed, Except.bind_ok, if_pos hdigits,
          readNumber_eq_ok.mpr (readNumber_eq_ok.mp hindex), if_neg hzero, if_neg hlimit]
        rfl
  next hdigits =>
    split at h
    next hid =>
      obtain ⟨rfl, rfl⟩ := Prod.mk.inj (Except.ok.inj h)
      refine ⟨hn.suffix, fun more => ?_⟩
      simp only [scanCondition, hn.closed, Except.bind_ok, if_neg hdigits, if_pos hid]
      rfl
    · cases h

-- A parenthesis that no question mark follows opens a group without a name.
theorem scanOpening_group {mark : Nat} (h : ts.head? ≠ some (.plain '?')) :
    scanOpening mark ts = .ok (.opening (.capture none), ts) := by
  rw [scanOpening] <;> (intros; simp_all)

theorem takes_scanOpening {mark : Nat} {lexeme : Lexeme}
    (h : scanOpening mark ts = .ok (lexeme, rest)) (mark' : Nat) :
    Takes (scanOpening mark') ts lexeme rest := by
  unfold scanOpening at h
  split at h
  · simp [refuse] at h
  next ts =>
    split at h
    · simp [refuse] at h
    next ts =>
      obtain ⟨⟨name, after⟩, hname, h⟩ := Except.bind_eq_ok.mp h
      simp only [pure, Except.pure, Except.ok.injEq, Prod.mk.injEq] at h
      obtain ⟨rfl, rfl⟩ := h
      have hn := takes_scanGroupName hname
      refine ⟨hn.suffix.trans (List.suffix_append [_, _, _] ts), fun more => ?_⟩
      simp only [List.cons_append, scanOpening, hn.closed]
      rfl
    next ts =>
      obtain ⟨⟨name, after⟩, hname, h⟩ := Except.bind_eq_ok.mp h
      simp only [pure, Except.pure, Except.ok.injEq, Prod.mk.injEq] at h
      obtain ⟨rfl, rfl⟩ := h
      have hn := takes_scanGroupName hname
      refine ⟨hn.suffix.trans (List.suffix_append [_, _, _] ts), fun more => ?_⟩
      simp only [List.cons_append, scanOpening, hn.closed]
      rfl
    · simp [unknownExtension, refuse] at h
  next ts =>
    split at h
    next comment after hcut =>
      simp only [Except.ok.injEq, Prod.mk.injEq] at h
      obtain ⟨rfl, rfl⟩ := h
      refine ⟨(cutAt_suffix hcut).trans (List.suffix_append [_, _] ts), fun more => ?_⟩
      simp only [List.cons_append, scanOpening, cutAt_append hcut]
    · simp at h
  next ts =>
    split at h
    · simp [refuse] at h
    · exact takes_front [_, _, _] h fun more => rfl
    · exact takes_front [_, _, _] h fun more => rfl
    · simp [unknownExtension, refuse] at h
  · exact takes_front [_, _] h fun more => rfl
  · exact takes_front [_, _] h fun more => rfl
  · exact takes_front [_, _] h fun more => rfl
  · exact takes_front [_, _] h fun more => rfl
  · exact (takes_scanCondition h).after [_, _] fun more => rfl
  · exact (takes_scanMinus h).after [_, _] fun more => rfl
  next c ts =>
    split at h
    next flag hflag =>
      obtain ⟨added, hadded, h⟩ := Except.bind_eq_ok.mp h
      refine (takes_scanFlags h).after [_, _] fun more => ?_
      simp only [List.cons_append, List.nil_append, scanOpening, hflag, addFlag_eq_ok hadded,
        Except.bind_ok]
    · simp [unknownExtension, refuse] at h
  · simp [unknownExtension, refuse] at h
  case h_13 hone _ _ _ _ _ _ _ _ _ _ hmore =>
    refine takes_front [] h fun more => scanOpening_group ?_
    cases ts with
    | nil => simp
    | cons t ts =>
        intro ht
        obtain rfl : t = .plain '?' := by simpa using ht
        cases ts with
        | nil => exact hone rfl
        | cons t' ts => exact hmore t' ts rfl

theorem afterLine_suffix (ts : List Token) : afterLine ts <:+ ts := by
  induction ts with
  | nil => exact List.suffix_refl _
  | cons t ts ih =>
      unfold afterLine
      split
      · exact List.suffix_cons _ _
      · exact ih.trans (List.suffix_cons _ _)

theorem afterLine_append (h : afterLine ts ≠ []) (more : List Token) :
    afterLine (ts ++ more) = afterLine ts ++ more := by
  induction ts with
  | nil => exact (h rfl).elim
  | cons t ts ih =>
      simp only [List.cons_append, afterLine] at h ⊢
      split
      · rfl
      next hline =>
        rw [if_neg hline] at h
        exact ih h

-- The exception is a comment of a verbose pattern that runs up to the end. It would take the
-- parenthesis too.
theorem takes_scanPlain {verbose : Bool} {c : Char} {lexeme : Lexeme}
    (h : scanPlain verbose c ts = .ok (lexeme, rest))
    (hline : lexeme = .blank → verbose = true → rest ≠ []) :
    Takes (scanPlain verbose c) ts lexeme rest := by
  unfold scanPlain at h
  split at h
  next hspace =>
    refine takes_front [] h fun more => ?_
    unfold scanPlain
    rw [List.nil_append, if_pos hspace]
  next hspace =>
    split at h
    next hcomment =>
      simp only [Except.ok.injEq, Prod.mk.injEq] at h
      obtain ⟨rfl, rfl⟩ := h
      have hverbose : verbose = true := by simp_all
      refine ⟨afterLine_suffix ts, fun more => ?_⟩
      unfold scanPlain
      rw [if_neg hspace, if_pos hcomment, afterLine_append (hline rfl hverbose)]
    next hcomment =>
      have hplain (ts : List Token) : scanPlain verbose c ts = scanPlain false c ts := by
        unfold scanPlain
        rw [if_neg hspace, if_neg hcomment]
        rfl
      split at h
      · exact takes_front [] h fun more => hplain _
      · exact takes_front [] h fun more => hplain _
      · exact takes_front [] h fun more => hplain _
      · exact takes_front [] h fun more => hplain _
      · exact takes_front [] h fun more => hplain _
      · exact ⟨(takes_scanSet h 0).suffix, fun more =>
          (hplain _).trans ((takes_scanSet h _).closed more)⟩
      · exact ⟨(takes_scanOpening h 0).suffix, fun more =>
          (hplain _).trans ((takes_scanOpening h _).closed more)⟩
      · exact (takes_scanGreed (Except.ok.inj h)).after [] fun more => hplain _
      · exact (takes_scanGreed (Except.ok.inj h)).after [] fun more => hplain _
      · exact (takes_scanGreed (Except.ok.inj h)).after [] fun more => hplain _
      · exact (takes_scanBounds h).after [] fun more => hplain _
      · refine takes_front [] h fun more => ?_
        unfold scanPlain
        rw [List.nil_append, if_neg hspace, if_neg hcomment]
        split <;> first | rfl | contradiction

theorem takes_scan {verbose : Bool} {t : Token} {lexeme : Lexeme}
    (h : scan verbose t ts = .ok (lexeme, rest))
    (hline : lexeme = .blank → verbose = true → rest ≠ []) :
    Takes (scan verbose t) ts lexeme rest := by
  cases t with
  | plain c => exact takes_scanPlain h hline
  | escaped c => exact takes_scanEscape h

-- Whatever is scanned, what is left is the end of what was there.
theorem scan_suffix {verbose : Bool} {t : Token} {lexeme : Lexeme}
    (h : scan verbose t ts = .ok (lexeme, rest)) : rest <:+ ts := by
  by_cases hrest : rest = []
  · rw [hrest]
    exact List.nil_suffix
  · exact (takes_scan h fun _ _ => hrest).suffix

end Signpost.Regex
