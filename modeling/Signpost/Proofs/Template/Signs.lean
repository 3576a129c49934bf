import Signpost.Proofs.Template.Acceptance
import Signpost.Proofs.Template.Binding
import Signpost.Proofs.Template.Grammar
import Signpost.Proofs.Template.Language

namespace Signpost.Template

open Signpost.Regex

variable {config other : Config} {constraints others : Constraints} {template : String}
  {chunks : List Chunk} {body? : Option (List Char)} {parts : List Part} {cs : List Char}
  {pattern pattern' : Pattern} {mode : Flags} {groups : Nat} {items items' : List Item} {c : Char}

-- Configurations that write placeholders alike cut a text alike.
theorem Cut.of_same (h : Cut config chunks body? cs) (hopen : other.paramOpen = config.paramOpen)
    (hclose : other.paramClose = config.paramClose)
    (hsymbol : other.optionalSymbol = config.optionalSymbol) : Cut other chunks body? cs := by
  induction h with
  | done => exact .done
  | unclosed hbody =>
      rw [← hclose] at hbody
      rw [← hopen]
      exact .unclosed hbody
  | literal hc _ ih => exact .literal (hopen ▸ hc) ih
  | @placeholder body parameter _ _ _ hbody hnames _ ih =>
      have hnames' : Names other body parameter := by
        rw [names_iff] at hnames ⊢
        rw [← hnames, parameterOf, parameterOf, hsymbol]
      rw [← hclose] at hbody
      rw [← hopen, ← hclose]
      exact .placeholder hbody hnames' ih

-- Where the constraints are simple, the parts of a template leave nothing open.
theorem Laid.unique (h : Laid config constraints mode groups parts items)
    (h' : Laid other others mode groups parts items')
    (hsame : ∀ parameter ∈ slots parts,
      constraintFor other others parameter.name = constraintFor config constraints parameter.name)
    (hsimple : ∀ parameter ∈ slots parts, ∀ regex,
      compile (constraintFor config constraints parameter.name) {} = .ok regex →
        regex.node.simple = true) : items' = items := by
  induction h generalizing items' with
  | nil =>
      cases h'
      rfl
  | literal c _ ih =>
      cases h' with
      | literal _ hrest => rw [ih hrest hsame hsimple]
  | @slot groups parts items regex body slashed parameter hcompile hbody _ ih =>
      have hslots : slots (.slot slashed parameter :: parts) = parameter :: slots parts := rfl
      rw [hslots, List.forall_mem_cons] at hsame hsimple
      cases h' with
      | @slot _ _ items' regex' body' _ _ hcompile' hbody' hrest =>
          rw [hsame.1] at hcompile' hbody'
          obtain rfl : regex' = regex := Except.ok.inj (hcompile'.symm.trans hcompile)
          have hbodies := hbody.moved.unique hbody'.moved (hsimple.1 _ hcompile)
          rw [hbodies, ih hrest hsame.2 hsimple.2]

theorem Compiled.match?_eq_of_node (h : Compiled config constraints template parts items pattern)
    (h' : Compiled other others template parts items pattern')
    (hnode : pattern'.regex.node = pattern.regex.node) (path : String) :
    pattern'.match? path = pattern.match? path := by
  rw [h'.match?_eq, h.match?_eq, match?_eq_head?, match?_eq_head?, hnode]

-- Whether literals are live makes no difference to a template whose literals are no signs.
theorem match?_live (hescape : config.escapeLiterals = true)
    (hdefault : config.defaultPattern = "[\\w-]+")
    (h : (Pattern.ofTemplate config [] template).result = .ok pattern)
    (hcut : Cut config chunks body? template.toList)
    (hsigns : ∀ c, .literal c ∈ chunks → c ∉ signs) :
    ∃ live, (Pattern.ofTemplate { config with escapeLiterals := false } [] template).result =
        .ok live ∧
      live.parameters = pattern.parameters ∧
      ∀ path, live.match? path = pattern.match? path := by
  obtain ⟨parts, items, hcompiled⟩ := compiled_of_ofTemplate hescape h
  obtain ⟨hclosed, harranged⟩ := hcut.of_parts? hcompiled.cut
  subst hclosed harranged
  let legacy : Config := { config with escapeLiterals := false }
  have hlegacy : Cut legacy chunks none template.toList := hcut.of_same rfl rfl rfl
  have hverbatim : ∀ c, .literal c ∈ arranged chunks → Verbatim legacy c := fun c hmem =>
    .inr (hsigns c (mem_of_mem_arranged hmem))
  have hconstraint (name : String) : constraintFor config [] name = "[\\w-]+" := hdefault
  have hsound := hcompiled.sound
  rw [hcompiled.parameters] at hsound
  have hfits : ∀ parameter ∈ slots (arranged chunks),
      Fits (constraintFor legacy [] parameter.name) := fun parameter _ =>
    (hconstraint parameter.name).symm ▸ standalone_default.fits
  obtain ⟨live, hlive⟩ : ∃ live, (Pattern.ofTemplate legacy [] template).result = .ok live :=
    exists_of_verbatim hlegacy.parts? hverbatim hsound.identifiers hsound.names hfits
  obtain ⟨items', hcompiled'⟩ := compiled_of_verbatim hlegacy.parts? hverbatim hlive
  have hitems : items' = items := by
    refine hcompiled.laid.unique hcompiled'.laid (fun _ _ => rfl) fun parameter _ regex h => ?_
    have hplain : Rule.Stated .plain := trivial
    rw [hconstraint] at h
    exact (Rule.ends_compile hplain h).1
  subst hitems
  refine ⟨live, hlive, hcompiled'.parameters.trans hcompiled.parameters.symm, ?_⟩
  exact hcompiled.match?_eq_of_node hcompiled' (hcompiled'.node.trans hcompiled.node.symm)

-- A full stop and a hyphen are no signs.
theorem match?_live_version :
    ∃ live pattern,
      (Pattern.ofTemplate { (default : Config) with escapeLiterals := false } []
        "/v.-\x7bid?\x7d").result = .ok live ∧
      (Pattern.ofTemplate default [] "/v.-\x7bid?\x7d").result = .ok pattern ∧
      live.parameters = [⟨"id", false⟩] ∧ ∀ path, live.match? path = pattern.match? path := by
  have hseen : (Pattern.ofTemplate default [] "/v.-\x7bid?\x7d").result.toOption.bind
      (fun pattern => some pattern.parameters) = some [⟨"id", false⟩] := by decide +kernel
  obtain ⟨pattern, h, hparameters⟩ := Except.exists_ok_of_bind hseen
  have htext : "/v.-\x7bid?\x7d".toList = ['/', 'v', '.', '-', '\x7b', 'i', 'd', '?', '\x7d'] := by
    decide
  have hname : String.ofList ['i', 'd'] = "id" := rfl
  have hid : Names default ['i', 'd', '?'] ⟨"id", false⟩ := hname ▸ .optional ['i', 'd']
  have hslot : Cut default [.placeholder ⟨"id", false⟩] none ['\x7b', 'i', 'd', '?', '\x7d'] :=
    .placeholder (by decide) hid .done
  have hcut : Cut default [.literal '/', .literal 'v', .literal '.', .literal '-',
      .placeholder ⟨"id", false⟩] none "/v.-\x7bid?\x7d".toList := by
    rw [htext]
    exact .literal (by decide) (.literal (by decide) (.literal (by decide) (.literal (by decide)
      hslot)))
  have hsigns : ['/', 'v', '.', '-'].all (fun c => !signs.contains c) = true := by decide
  obtain ⟨live, hlive, hsame, hmatch⟩ := match?_live rfl rfl h hcut fun c hmem => by
    have hnone := List.all_eq_true.mp hsigns c (by simpa using hmem)
    simpa using hnone
  exact ⟨live, pattern, hlive, h, hsame.trans (Option.some.inj hparameters), hmatch⟩

end Signpost.Template
