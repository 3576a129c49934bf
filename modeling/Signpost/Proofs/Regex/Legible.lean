import Signpost.Proofs.Regex.Embedding
import Signpost.Proofs.Regex.Limit

namespace Signpost.Regex

open Except

variable {ts rest more : List Token} {lexeme : Lexeme} {r r' final : Reading} {base : List Bool}

-- Whether white space is left out, for the innermost level and those around it.
def Reading.verbosity (r : Reading) : List Bool :=
  (r.level :: r.outer).map fun level => level.mode.verbose

-- What a lexeme makes of that, flags for the whole pattern apart.
def Lexeme.nest (lexeme : Lexeme) (verbosity : List Bool) : List Bool :=
  match lexeme with
  | .opening (.flagged added removed) =>
      ((verbosity.headD false || added.verbose) && !removed.verbose) :: verbosity
  | .opening _ => verbosity.headD false :: verbosity
  | .closing => verbosity.tail
  | _ => verbosity

theorem Lexeme.nest_append (lexeme : Lexeme) {verbosity : List Bool} (h : verbosity ≠ []) :
    lexeme.nest (verbosity ++ base) = lexeme.nest verbosity ++ base := by
  obtain ⟨verbose, outer, rfl⟩ := List.exists_cons_of_ne_nil h
  unfold nest
  split <;> rfl

-- No number among the tokens is refused for a limit, wherever they stand inside such levels.
def Legible (verbosity : List Bool) (ts : List Token) : Prop :=
  ∀ r : Reading, r.verbosity = verbosity →
    Fails (fun e => e.IsFault ∨ ∃ left, e = .alphabetsClash left) (r.read 0 ts)

namespace Reading

theorem Step.verbosity_eq (h : Step r lexeme r') (hflags : ∀ added, lexeme ≠ .flags added) :
    r'.verbosity = lexeme.nest r.verbosity := by
  cases h with
  | flagged added removed mark =>
      exact congrArg (· :: r.verbosity) (verbose_adjust r.level.mode added removed)
  | closing parent outer widths before hopen hwidths =>
      simp [verbosity, Lexeme.nest, hopen, Level.push]
  | flags added hwhole => exact (hflags added rfl).elim
  | _ => rfl

theorem Step.getLast?_verbosity (h : Step r lexeme r') (hflags : ∀ added, lexeme ≠ .flags added) :
    r'.verbosity.getLast? = r.verbosity.getLast? := by
  cases h with
  | closing parent outer widths before hopen hwidths =>
      simp [verbosity, hopen, Level.push, List.getLast?_cons]
  | flags added hwhole => exact (hflags added rfl).elim
  | _ => simp [verbosity, push, enter, repeatLast, Level.push, List.getLast?_cons]

theorem fails_step_limit (r : Reading) (lexeme : Lexeme) (before after : Nat) :
    Fails (fun e => e.IsFault ∨ ∃ left, e = .alphabetsClash left) (r.step lexeme before after) :=
  (fails_step r lexeme before after).mono fun _ h => h.imp_right fun h => h.2

-- With no group open, the level at the bottom is the only one.
theorem verbosity_of_closed (hclosed : final.outer = [])
    (hlast : final.verbosity.getLast? = some false) : final.verbosity = [false] := by
  simpa [verbosity, hclosed] using hlast

-- A comment that runs to the end of a line is not left open where a pattern ends, so it cannot
-- take what comes behind.
theorem rest_ne_nil_of_closed {before after : Nat} (hclosed : final.outer = [])
    (hlast : r.verbosity.getLast? = some false) (hstep : r.step lexeme before after = .ok r')
    (hread : r'.read 0 rest = .ok final) :
    lexeme = .blank → r.level.mode.verbose = true → rest ≠ [] := by
  rintro rfl hverbose rfl
  rw [read_nil] at hread
  obtain rfl : r = final := (Except.ok.inj hstep).trans (Except.ok.inj hread)
  have hbottom := (List.cons.inj (verbosity_of_closed hclosed hlast)).1
  exact absurd hbottom (by simp [hverbose])

end Reading

namespace Legible

open Reading

theorem nil (verbosity : List Bool) : Legible verbosity [] := by
  intro r _
  rw [read_nil]
  exact fails_ok r

theorem cons {verbose : Bool} {outer : List Bool} {t : Token}
    (hscan : scan verbose t ts = .ok (lexeme, rest)) (hflags : ∀ added, lexeme ≠ .flags added)
    (h : Legible (lexeme.nest (verbose :: outer)) rest) : Legible (verbose :: outer) (t :: ts) := by
  intro r hr
  obtain ⟨hverbose, -⟩ := List.cons.inj hr
  rw [read_cons (hverbose ▸ hscan)]
  refine (fails_step_limit _ _ _ _).bind fun r₁ hstep => h r₁ ?_
  rw [(step_of_step hstep).verbosity_eq hflags, hr]

-- What was read alone is scanned again inside a group, lexeme by lexeme. Flags for the whole
-- pattern are scanned too, and only then refused.
theorem group (halone : r.read 0 ts = .ok final) (hclosed : final.outer = [])
    (hlast : r.verbosity.getLast? = some false) (hbase : base ≠ [])
    (hrest : Legible (false :: base) (.plain ')' :: more)) :
    Legible (r.verbosity ++ base) (ts ++ .plain ')' :: more) := by
  induction halone using read_induction with
  | done => exact verbosity_of_closed hclosed hlast ▸ hrest
  | step r t ts lexeme rest r₁ _ halone₁ hscan hstep ih =>
      have hline := rest_ne_nil_of_closed hclosed hlast hstep halone₁
      intro r' hr'
      have hverbose : r'.level.mode.verbose = r.level.mode.verbose := (List.cons.inj hr').1
      have houter : r'.outer ≠ [] := by
        intro hnil
        have hwhole := (List.cons.inj hr').2
        rw [hnil] at hwhole
        exact hbase (List.append_eq_nil_iff.mp hwhole.symm).2
      rw [List.cons_append, read_cons (hverbose ▸ (takes_scan hscan hline).closed more)]
      refine (fails_step_limit _ _ _ _).bind fun r₁' hstep' => ?_
      have hflags := (step_of_step hstep').ne_flags houter
      have hlast₁ := ((step_of_step hstep).getLast?_verbosity hflags).trans hlast
      refine ih hlast₁ r₁' ?_
      rw [(step_of_step hstep').verbosity_eq hflags, hr', (step_of_step hstep).verbosity_eq hflags]
      exact lexeme.nest_append (List.cons_ne_nil _ _)

theorem of_compile {text : String} {regex : Regex} (hcompile : compile text {} = .ok regex)
    (hbase : base ≠ []) (hrest : Legible (false :: base) (.plain ')' :: more)) :
    Legible (false :: base) (tokens text.toList ++ .plain ')' :: more) := by
  obtain ⟨-, final, hread, hclosed, -⟩ := read_of_compile hcompile
  exact group hread hclosed rfl hbase hrest

-- A pattern that is legible is not refused for a number.
theorem fails_compile {text : String} {flags : Flags}
    (h : Legible [flags.verbose] (tokens text.toList)) :
    Fails (fun e => e.Malformed ∨ e = .alphabetsClash) (compile text flags) := by
  have hread : Fails (fun e => e.IsFault ∨ (∀ pattern, e.error pattern = .alphabetsClash) ∨
      ∃ r : Reading, True ∧ r.Clashes ∧ ∃ left, e = .alphabetsClash left)
      ((Reading.start flags).read 0 (tokens text.toList)) := by
    refine (h (.start flags) rfl).mono fun e he => he.imp_right ?_
    rintro ⟨left, rfl⟩
    exact .inl fun _ => rfl
  have hresult : Fails (fun e => e.Malformed ∨ e = .alphabetsClash ∨
      (∃ r : Reading, True ∧ r.Clashes) ∧ e = .alphabetsClash) (compile text flags) :=
    Regex.fails_compile ⟨hread, fun _ _ => trivial⟩
  exact hresult.mono fun e he => he.imp_right fun he => he.elim id fun he => he.2

end Legible

end Signpost.Regex
