import Signpost.Proofs.Dispatch.Import
import Signpost.Proofs.Dispatch.Journal
import Signpost.Sample.Routes

namespace Signpost

open Text (cutLast? replace)

-- A computation that gives a value, whatever the state is.
def Hosted.Answers {σ α : Type} (x : Hosted σ α) : Prop :=
  ∀ state, ∃ a, (x state).1.result = .ok a

theorem Factory.result_ofClass {σ : Type} {make : Hosted σ Instance} {state : σ}
    {receiver : Instance} (h : (make state).1.result = .ok receiver) :
    (Factory.ofClass make state).1.result = .ok (some receiver) := by
  cases hmake : make state with
  | mk outcome after =>
      obtain ⟨records, result⟩ := outcome
      rw [hmake] at h
      obtain rfl : result = .ok receiver := h
      exact congrArg (·.1.result)
        (Hosted.bind_of_ok hmake fun receiver => Hosted.pure (some receiver))

namespace Modules

variable {σ : Type} {modules : Modules σ} {path dotted : List Char}

-- A class that stands in a module under the last part of a name.
def ClassAt (modules : Modules σ) (dotted : List Char) (make : Hosted σ Instance) : Prop :=
  ∃ path className found attributes, dotted = path ++ '.' :: className ∧ '.' ∉ className ∧
    Reaches modules path found ∧ found.body = .ok attributes ∧
    Entries.get? attributes (String.ofList className) = some (.ofClass make)

def Relative (dotted : List Char) : Prop :=
  ∃ path className, dotted = '.' :: (path ++ '.' :: className)

-- What a name leads to when each separator in it has become a full stop.
def lookup (modules : Modules σ) (dotted : List Char) : Factory σ :=
  match cutLast? '.' dotted with
  | none => Hosted.pure none
  | some (path, className) =>
      if path.isEmpty then Hosted.pure none
      else modules.findClass (String.ofList path) (String.ofList className)

-- What a lookup comes to where no module fails.
inductive Answer (modules : Modules σ) (dotted : List Char) : Factory σ → Prop
  | refused {path className : List Char} (hdotted : dotted = '.' :: (path ++ '.' :: className))
      (hlast : '.' ∉ className) :
      Answer modules dotted (Hosted.throw (.relativeModule (String.ofList ('.' :: path))))
  | found {make : Hosted σ Instance} (hclass : ClassAt modules dotted make) :
      Answer modules dotted (Factory.ofClass make)
  | unknown (habsolute : ¬Relative dotted) (hnone : ∀ make, ¬ClassAt modules dotted make) :
      Answer modules dotted (Hosted.pure none)

theorem resolve_eq (modules : Modules σ) (separator name : String) :
    (modules.registry separator).resolve name =
      modules.lookup (replace separator.toList ['.'] name.toList) := rfl

theorem not_relative (hnamed : path ≠ []) (habsolute : path.head? ≠ some '.')
    (rest : List Char) : ¬Relative (path ++ rest) := by
  rintro ⟨front, className, hrelative⟩
  obtain ⟨c, path, rfl⟩ := List.exists_cons_of_ne_nil hnamed
  obtain ⟨rfl, -⟩ := List.cons.inj hrelative
  exact habsolute rfl

-- A name that is refused is so for one path.
theorem eq_of_relative {front className name : List Char}
    (h : dotted = '.' :: (path ++ '.' :: className)) (hlast : '.' ∉ className)
    (h' : dotted = '.' :: (front ++ '.' :: name)) (hlast' : '.' ∉ name) : front = path := by
  have hboth : '.' :: front ++ '.' :: name = '.' :: path ++ '.' :: className := h'.symm.trans h
  exact (List.cons.inj (Text.eq_of_last hboth hlast' hlast).1).2

theorem ClassAt.not_relative {make : Hosted σ Instance} (h : ClassAt modules dotted make) :
    ¬Relative dotted := by
  obtain ⟨path, _, _, _, rfl, _, hreaches, -⟩ := h
  exact Modules.not_relative hreaches.named hreaches.absolute _

-- A class stands behind the last full stop of its name.
theorem ClassAt.cut {className : List Char} {make : Hosted σ Instance}
    (h : ClassAt modules (path ++ '.' :: className) make) (hlast : '.' ∉ className) :
    ∃ found attributes, Reaches modules path found ∧ found.body = .ok attributes ∧
      Entries.get? attributes (String.ofList className) = some (.ofClass make) := by
  obtain ⟨other, name, found, attributes, hdotted, hname, hreaches, hbody, hget⟩ := h
  obtain ⟨rfl, rfl⟩ := Text.eq_of_last hdotted hlast hname
  exact ⟨found, attributes, hreaches, hbody, hget⟩

theorem ClassAt.unique {make other : Hosted σ Instance} (h : ClassAt modules dotted make)
    (h' : ClassAt modules dotted other) : other = make := by
  obtain ⟨path, className, found, attributes, rfl, hlast, hreaches, hbody, hget⟩ := h
  obtain ⟨found', attributes', hreaches', hbody', hget'⟩ := h'.cut hlast
  obtain rfl := Option.some.inj (hreaches.present.symm.trans hreaches'.present)
  obtain rfl := Except.ok.inj (hbody.symm.trans hbody')
  cases hget.symm.trans hget'
  rfl

theorem answer_findClass (hmodules : modules.Importable) (hnamed : path ≠ [])
    {className : List Char} (hlast : '.' ∉ className) :
    Answer modules (path ++ '.' :: className)
      (modules.findClass (String.ofList path) (String.ofList className)) := by
  have hloads := loads hmodules path
  unfold findClass
  generalize modules.load (String.ofList path) = loaded at hloads
  cases hloads with
  | nameless h => exact absurd h hnamed
  | relative h =>
      obtain ⟨rest, rfl⟩ := List.head?_eq_some_iff.mp h
      exact .refused rfl hlast
  | missing _ habsolute hnone hmissing =>
      dsimp only
      rw [if_pos hmissing]
      refine .unknown (not_relative hnamed habsolute _) fun make hclass => ?_
      obtain ⟨found, -, hreaches, -⟩ := hclass.cut hlast
      exact hnone found hreaches
  | @found found attributes hreaches hbody =>
      dsimp only
      split
      next make hget =>
        exact .found ⟨path, className, found, attributes, rfl, hlast, hreaches, hbody, hget⟩
      next hnone =>
        refine .unknown (not_relative hnamed hreaches.absolute _) fun make hclass => ?_
        obtain ⟨other, attributes', hother, hbody', hget⟩ := hclass.cut hlast
        obtain rfl := Option.some.inj (hreaches.present.symm.trans hother.present)
        obtain rfl := Except.ok.inj (hbody.symm.trans hbody')
        exact hnone make hget

-- Where no module fails, a lookup makes an instance, knows of none, or refuses the name.
theorem answer_lookup (hmodules : modules.Importable) (dotted : List Char) :
    Answer modules dotted (modules.lookup dotted) := by
  unfold lookup
  cases hcut : cutLast? '.' dotted with
  | none =>
      have hplain := Text.cutLast?_eq_none_iff.mp hcut
      refine .unknown ?_ fun make hclass => ?_
      · rintro ⟨path, className, rfl⟩
        simp at hplain
      · obtain ⟨path, className, _, _, rfl, -⟩ := hclass
        simp at hplain
  | some cut =>
      obtain ⟨path, className⟩ := cut
      have hlast := Text.not_mem_of_cutLast? hcut
      obtain rfl := Text.cutLast?_append hcut
      dsimp only
      by_cases hnamed : path = []
      · subst hnamed
        refine .unknown ?_ fun make hclass => ?_
        · rintro ⟨path, name, hdotted⟩
          obtain ⟨-, rfl⟩ := List.cons.inj hdotted
          simp at hlast
        · obtain ⟨found, -, hreaches, -⟩ := hclass.cut hlast
          exact hreaches.named rfl
      · rw [if_neg (by simpa using hnamed)]
        exact answer_findClass hmodules hnamed hlast

end Modules

namespace Dispatch

variable {σ : Type} {registry : Registry σ} {route : Route} {ref : MethodRef} {name : String}
  {state after : σ} {records : List Record}

-- What becomes of a route when its class was looked up.
def verdict (host : Host σ) (route : Route) (ref : MethodRef) (name : String) :
    Option Instance → Except Error Target
  | none => .error (.http (.classNotFound name))
  | some receiver =>
      if host.hasMethod receiver ref.method then
        .ok ⟨.method receiver ref.method, name ++ route.config.callbackSeparator ++ ref.method⟩
      else .error (.http (.methodNotFound name ref.method))

theorem resolveTarget_of_lookup (host : Host σ) {result : Except Error (Option Instance)}
    (hcallback : route.callback = .method ref) (hname : qualifiedName route = .ok name)
    (hlookup : registry.resolve name state = (⟨records, result⟩, after)) :
    ∃ records', resolveTarget host registry route state =
      (⟨records', result >>= verdict host route ref name⟩, after) := by
  rw [resolveTarget, hcallback]
  dsimp only
  rw [hname, Hosted.lift_ok_bind]
  cases result with
  | error error => exact ⟨_, Hosted.bind_of_error hlookup _⟩
  | ok receiver? =>
      rw [Hosted.bind_of_ok hlookup]
      cases receiver? with
      | none => exact ⟨_, rfl⟩
      | some receiver =>
          rw [Except.bind_ok, verdict]
          by_cases hmethod : host.hasMethod receiver ref.method = true
          · simp only [if_pos hmethod]
            exact ⟨_, rfl⟩
          · simp only [if_neg hmethod]
            exact ⟨_, rfl⟩

end Dispatch

open Modules in
-- Where no module fails and each class can be made, a lookup gives an instance or says that there
-- is none, unless the name, with full stops for the separators, begins with a full stop and has
-- another one: then it fails. There is an instance for each class that is reached, and a route
-- whose class is not reached is told that it does not exist.
theorem Modules.lookup_settled {σ : Type} (modules : Modules σ) (hmodules : modules.Importable)
    (hclasses : ∀ dotted make, modules.ClassAt dotted make → make.Answers)
    (separator name : String) (state : σ) :
    let dotted := replace separator.toList ['.'] name.toList
    let answer := (modules.registry separator).resolve name state
    ((∃ receiver?, answer.1.result = .ok receiver?) ↔ ¬Relative dotted) ∧
    (∀ path className, dotted = '.' :: (path ++ '.' :: className) → '.' ∉ className →
      answer = (⟨[], .error (.relativeModule (String.ofList ('.' :: path)))⟩, state)) ∧
    (∀ make, modules.ClassAt dotted make → ∃ receiver,
      (make state).1.result = .ok receiver ∧ answer.1.result = .ok (some receiver)) ∧
    (¬Relative dotted → (∀ make, ¬modules.ClassAt dotted make) →
      answer = (⟨[], .ok none⟩, state) ∧
      ∀ (host : Host σ) (route : Route) (ref : MethodRef), route.callback = .method ref →
        Dispatch.qualifiedName route = .ok name →
        (Dispatch.resolveTarget host (modules.registry separator) route state).1.result =
          .error (.http (.classNotFound name))) := by
  intro dotted answer
  have hanswer := answer_lookup hmodules dotted
  have hlookup : answer = modules.lookup dotted state := rfl
  generalize modules.lookup dotted = factory at hanswer hlookup
  cases hanswer with
  | @refused path className hdotted hlast =>
      have hrelative : Relative dotted := ⟨path, className, hdotted⟩
      refine ⟨⟨?_, fun h => absurd hrelative h⟩, fun front name hfront hname => ?_,
        fun make hclass => absurd hrelative hclass.not_relative, fun h => absurd hrelative h⟩
      · rintro ⟨receiver?, hresult⟩
        rw [hlookup] at hresult
        cases hresult
      · rw [hlookup, eq_of_relative hdotted hlast hfront hname]
        rfl
  | @found make hclass =>
      obtain ⟨receiver, hmake⟩ := hclasses dotted make hclass state
      have hresult : answer.1.result = .ok (some receiver) := by
        rw [hlookup]
        exact Factory.result_ofClass hmake
      refine ⟨⟨fun _ => hclass.not_relative, fun _ => ⟨_, hresult⟩⟩,
        fun path className hdotted _ => absurd ⟨path, className, hdotted⟩ hclass.not_relative,
        fun other hother => ?_, fun _ hnone => absurd hclass (hnone make)⟩
      obtain rfl := hclass.unique hother
      exact ⟨receiver, hmake, hresult⟩
  | unknown habsolute hnone =>
      refine ⟨⟨fun _ => habsolute, fun _ => ⟨none, by rw [hlookup]; rfl⟩⟩,
        fun path className hdotted _ => absurd ⟨path, className, hdotted⟩ habsolute,
        fun make hclass => absurd hclass (hnone make), fun _ _ => ⟨hlookup, ?_⟩⟩
      intro host route ref hcallback hname
      obtain ⟨records, htarget⟩ :=
        Dispatch.resolveTarget_of_lookup host hcallback hname hlookup
      rw [htarget]
      rfl

-- One class in a package, asked for with backslashes, and one that is not there.
theorem Modules.lookup_settled_admin :
    let foo : Hosted Sample.World Instance := Sample.make "Foo"
    let installed : Modules Sample.World :=
      [("app", ⟨true, .ok []⟩), ("app.admin", ⟨false, .ok [("Foo", .ofClass foo)]⟩)]
    installed.Importable ∧ (∀ dotted make, installed.ClassAt dotted make → make.Answers) ∧
      installed.ClassAt "app.admin.Foo".toList foo ∧
      (∃ receiver,
        ((installed.registry "\\").resolve "app\\admin\\Foo" []).1.result = .ok (some receiver)) ∧
      (installed.registry "\\").resolve "app\\admin\\Bar" [] = (⟨[], .ok none⟩, []) := by
  intro foo installed
  have hmodules : installed.Importable := by
    simp [installed, Importable]
  have hreaches : installed.Reaches "app.admin".toList ⟨false, .ok [("Foo", .ofClass foo)]⟩ := by
    have happ : installed.Reaches "app".toList ⟨true, .ok []⟩ :=
      ⟨by decide, by decide, rfl, fun front rest hpath => by
        have hplain : '.' ∉ "app".toList := by decide
        simp [hpath] at hplain⟩
    show installed.Reaches ("app".toList ++ '.' :: "admin".toList) _
    exact (reaches_concat_iff (by decide) (by decide) (by decide)).mpr ⟨⟨_, happ, rfl⟩, rfl⟩
  have honly {path className : List Char} {make : Hosted Sample.World Instance}
      (h : installed.ClassAt (path ++ '.' :: className) make) (hlast : '.' ∉ className) :
      String.ofList className = "Foo" ∧ make = foo := by
    obtain ⟨found, attributes, hfound, hbody, hget⟩ := h.cut hlast
    have hmem := Entries.mem_of_get? hfound.present
    simp only [installed, List.mem_cons, List.not_mem_nil, or_false, Prod.mk.injEq] at hmem
    obtain ⟨-, rfl⟩ | ⟨-, rfl⟩ := hmem
    · cases hbody
      cases hget
    · cases hbody
      by_cases hname : "Foo" = String.ofList className
      · rw [← hname] at hget
        cases hget
        exact ⟨hname.symm, rfl⟩
      · simp [Entries.get?, hname] at hget
  have hclasses (dotted : List Char) (make : Hosted Sample.World Instance)
      (h : installed.ClassAt dotted make) : make.Answers := by
    obtain ⟨path, className, _, _, rfl, hlast, -⟩ := id h
    obtain ⟨-, rfl⟩ := honly h hlast
    exact fun world => ⟨_, rfl⟩
  have hfoo : installed.ClassAt "app.admin.Foo".toList foo :=
    ⟨"app.admin".toList, "Foo".toList, _, _, by decide, by decide, hreaches, rfl, rfl⟩
  have hdotted : replace "\\".toList ['.'] "app\\admin\\Foo".toList = "app.admin.Foo".toList := by
    decide
  have hdotted' : replace "\\".toList ['.'] "app\\admin\\Bar".toList =
      "app.admin".toList ++ '.' :: "Bar".toList := by decide
  obtain ⟨-, -, hfound, -⟩ :=
    Modules.lookup_settled installed hmodules hclasses "\\" "app\\admin\\Foo" []
  obtain ⟨-, -, -, hunknown⟩ :=
    Modules.lookup_settled installed hmodules hclasses "\\" "app\\admin\\Bar" []
  rw [hdotted] at hfound
  rw [hdotted'] at hunknown
  obtain ⟨receiver, -, hreceiver⟩ := hfound foo hfoo
  refine ⟨hmodules, hclasses, hfoo, ⟨receiver, hreceiver⟩, ?_⟩
  refine (hunknown (not_relative (by decide) (by decide) _) fun make hbar => ?_).1
  have hname := (honly hbar (by decide)).1
  exact absurd hname (by decide)

-- A name that begins with two full stops, and with an empty separator every name but the empty
-- one, is refused instead of being unknown; so a route whose namespace begins with a full stop is
-- not told that its class does not exist.
theorem Modules.relative_name_refused :
    let none : Modules Sample.World := []
    none.Importable ∧ (∀ dotted make, ¬none.ClassAt dotted make) ∧
      ((none.registry ".").resolve "..Foo" []).1.result = .error (.relativeModule ".") ∧
      ((none.registry "").resolve "Foo" []).1.result = .error (.relativeModule ".F.o.o") ∧
      ∃ route : Route,
        (Route.make default "/" (.str "Foo@bar")
          (.stated (.mapping [(.str "namespace", .str "..app")]))).result = .ok route ∧
        (Dispatch.resolveTarget Sample.host (none.registry ".") route []).1.result =
          .error (.relativeModule "..app") := by
  intro none
  refine ⟨by simp [none, Importable], ?_, rfl, rfl, ?_⟩
  · rintro dotted make ⟨path, className, found, attributes, -, -, hreaches, -⟩
    cases hreaches.present
  · let foo : MethodRef := ⟨"Foo", "bar", by decide, by decide⟩
    have hseen : (Route.make default "/" (.str "Foo@bar")
        (.stated (.mapping [(.str "namespace", .str "..app")]))).result.toOption.bind
        (fun route => some (decide (route.callback = .method foo),
          (Dispatch.qualifiedName route).toOption)) = some (true, some "..app.Foo") := by
      decide +kernel
    obtain ⟨route, hroute, hseen⟩ := Except.exists_ok_of_bind hseen
    simp only [Option.some.injEq, Prod.mk.injEq, decide_eq_true_eq] at hseen
    obtain ⟨hcallback, hname⟩ := hseen
    have hlookup : (none.registry ".").resolve "..app.Foo" [] =
        (⟨[], .error (.relativeModule "..app")⟩, []) := rfl
    obtain ⟨records, htarget⟩ := Dispatch.resolveTarget_of_lookup Sample.host hcallback
      (Except.eq_ok_of_toOption hname) hlookup
    exact ⟨route, hroute, congrArg (·.1.result) htarget⟩

end Signpost
