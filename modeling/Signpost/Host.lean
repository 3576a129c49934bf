import Signpost.Log

namespace Signpost

-- The parameters that a call is made with, by name.
abbrev Arguments := List (Value × Value)

-- Whatever a host does may change its state, also when it fails.
def Hosted (σ α : Type) : Type := σ → Logged α × σ

namespace Hosted

variable {σ α β : Type}

def pure (a : α) : Hosted σ α := fun state => (Logged.pure a, state)

def bind (x : Hosted σ α) (f : α → Hosted σ β) : Hosted σ β := fun state =>
  match x state with
  | (⟨records, .error error⟩, state) => (⟨records, .error error⟩, state)
  | (⟨records, .ok a⟩, state) =>
      let (next, state) := f a state
      (⟨records ++ next.records, next.result⟩, state)

instance : Monad (Hosted σ) where
  pure := Hosted.pure
  bind := Hosted.bind

def ofLogged (x : Logged α) : Hosted σ α := fun state => (x, state)

def throw (error : Error) : Hosted σ α := ofLogged (Logged.throw error)

def log (channel : Channel) (severity : Severity) (message : String) : Hosted σ Unit :=
  ofLogged (Logged.log channel severity message)

-- A step of the host itself. It keeps no log.
def ofStep (step : σ → Except Error α × σ) : Hosted σ α := fun state =>
  let (result, state) := step state
  (Logged.ofExcept result, state)

instance : MonadLift Logged (Hosted σ) := ⟨ofLogged⟩

instance : MonadLift (Except Error) (Hosted σ) := ⟨fun result => ofLogged (.ofExcept result)⟩

theorem bind_of_ok {x : Hosted σ α} {state after : σ} {records : List Record} {a : α}
    (h : x state = (⟨records, .ok a⟩, after)) (f : α → Hosted σ β) :
    (x >>= f) state =
      (⟨records ++ (f a after).1.records, (f a after).1.result⟩, (f a after).2) := by
  show x.bind f state = _
  simp only [bind, h]

-- What has changed before an error stays changed.
theorem bind_of_error {x : Hosted σ α} {state after : σ} {records : List Record} {error : Error}
    (h : x state = (⟨records, .error error⟩, after)) (f : α → Hosted σ β) :
    (x >>= f) state = (⟨records, .error error⟩, after) := by
  show x.bind f state = _
  simp only [bind, h]

end Hosted

-- An instance of a class, made by the host and known by its key.
structure Instance where
  className : String
  key : Nat
deriving DecidableEq, Repr, Inhabited

structure Host (σ : Type) where
  callFunction : FunctionRef → List Value → Hosted σ Value
  hasMethod : Instance → String → Bool
  callMethod : Instance → String → Arguments → Hosted σ Value

-- What makes an instance when a class is asked for. It may have none to give.
abbrev Factory (σ : Type) := Hosted σ (Option Instance)

def Factory.ofClass {σ : Type} (make : Hosted σ Instance) : Factory σ :=
  make.bind fun receiver => Hosted.pure (some receiver)

-- Looks up a class by its full name and gives an instance that is ready to be called.
structure Registry (σ : Type) where
  resolve : String → Hosted σ (Option Instance)

end Signpost
