import Signpost.Proofs.Regex.Reading
import Signpost.Template

namespace Signpost.Template

open Signpost.Regex (Token Lexeme Reading tokens scan scanPlain scanEscape)

-- The token that an escaped character is cut into.
def escapeToken (c : Char) : Token :=
  if c ∈ special then .escaped c else .plain c

-- The token of a literal that is live.
def liveToken (c : Char) : Token := if c = '.' then .escaped '.' else .plain c

def literalToken (config : Config) (c : Char) : Token :=
  if config.escapeLiterals then escapeToken c else liveToken c

-- The characters that may mean something where literals are live.
def signs : List Char := "\\^$*+?\x7b\x7d[]|()".toList

def Verbatim (config : Config) (c : Char) : Prop := config.escapeLiterals = true ∨ c ∉ signs

theorem tokens_escapeChar (c : Char) (cs : List Char) :
    tokens (escapeChar c ++ cs) = escapeToken c :: tokens cs := by
  unfold escapeChar escapeToken
  by_cases hc : c ∈ special
  · simp [hc]
  · have hne : c ≠ '\\' := by
      rintro rfl
      exact hc (by decide)
    simp [hc, Regex.tokens_cons hne]

-- Only letters and digits mean something behind a backslash.
theorem scanEscape_literal {c : Char} (hc : c.isAlphanum = false) (ts : List Token) :
    scanEscape c ts = .ok (.atom (.literal c.toNat), ts) := by
  have hcategory : Regex.category? c = none := by
    unfold Regex.category?
    split <;> first | rfl | exact absurd hc (by decide)
  have hcontrol : Regex.controlCode? c = none := by
    unfold Regex.controlCode?
    split <;> first | rfl | exact absurd hc (by decide)
  have hdigit : c.isDigit = false := by
    simp only [Char.isAlphanum, Bool.or_eq_false_iff] at hc
    exact hc.2
  have hzero : c ≠ '0' := by
    rintro rfl
    exact absurd hc (by decide)
  have hcode : Regex.scanCode c ts = .ok (c.toNat, ts) := by
    unfold Regex.scanCode
    split <;> first | exact absurd hc (by decide) | simp [hc]
  unfold scanEscape
  split <;> first | exact absurd hc (by decide) | skip
  simp [hcategory, hcontrol, hdigit, hzero, hcode, pure, Except.pure]

theorem not_isAlphanum_of_special : ∀ c ∈ special, c.isAlphanum = false := by
  have hall : special.all (fun c => !c.isAlphanum) = true := by decide +kernel
  simpa using hall

theorem special_of_sign : ∀ c ∈ signs, c ∈ special := by
  have hall : signs.all (fun c => special.contains c) = true := by decide +kernel
  simpa using hall

theorem scanPlain_literal {c : Char} (hsign : c ∉ signs) (hstop : c ≠ '.') (ts : List Token) :
    scanPlain false c ts = .ok (.atom (.literal c.toNat), ts) := by
  unfold scanPlain
  simp only [Bool.false_and, Bool.false_eq_true, if_false]
  split
  all_goals first | rfl | exact absurd rfl hstop | exact absurd (by decide) hsign

theorem scan_escapeToken (c : Char) (ts : List Token) :
    scan false (escapeToken c) ts = .ok (.atom (.literal c.toNat), ts) := by
  unfold escapeToken
  by_cases hc : c ∈ special
  · rw [if_pos hc]
    exact scanEscape_literal (not_isAlphanum_of_special c hc) ts
  · rw [if_neg hc]
    refine scanPlain_literal (fun hsign => hc (special_of_sign c hsign)) ?_ ts
    rintro rfl
    exact hc (by decide)

-- An escaped character is never taken for a sign of its own.
theorem escapeToken_ne_plain {sign : Char} (hsign : sign ∈ special) (c : Char) :
    escapeToken c ≠ .plain sign := by
  unfold escapeToken
  by_cases hc : c ∈ special
  · simp [hc]
  · rw [if_neg hc]
    rintro ⟨⟩
    exact hc hsign

namespace Verbatim

variable {config : Config} {c : Char}

theorem tokens_literal (h : Verbatim config c) (cs : List Char) :
    tokens (literal config c ++ cs) = literalToken config c :: tokens cs := by
  unfold literal literalToken
  rcases h with hescape | hsign
  · rw [if_pos hescape, if_pos hescape, tokens_escapeChar]
  · split
    · exact tokens_escapeChar c cs
    · unfold liveToken
      split
      · rfl
      · refine Regex.tokens_cons (fun hback => hsign ?_) cs
        subst hback
        decide

theorem scan_literal (h : Verbatim config c) (ts : List Token) :
    scan false (literalToken config c) ts = .ok (.atom (.literal c.toNat), ts) := by
  unfold literalToken
  split
  · exact scan_escapeToken c ts
  next hlive =>
    have hsign := h.resolve_left hlive
    unfold liveToken
    split
    next hstop =>
      subst hstop
      exact scanEscape_literal (c := '.') (by decide) ts
    next hstop => exact scanPlain_literal hsign hstop ts

theorem literalToken_ne_plain (h : Verbatim config c) {sign : Char} (hsign : sign ∈ signs) :
    literalToken config c ≠ .plain sign := by
  unfold literalToken
  split
  · exact escapeToken_ne_plain (special_of_sign sign hsign) c
  next hlive =>
    unfold liveToken
    split
    · simp
    · rintro ⟨⟩
      exact h.resolve_left hlive hsign

end Verbatim

end Signpost.Template
