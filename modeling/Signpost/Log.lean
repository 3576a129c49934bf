import Signpost.Error

namespace Signpost

inductive Channel
  | routing
  | dispatch
deriving DecidableEq, Repr

def Channel.name : Channel → String
  | routing => "perch.routing"
  | dispatch => "perch.dispatch"

inductive Severity
  | debug
  | warning
  | error
deriving DecidableEq, Repr

def Severity.name : Severity → String
  | debug => "DEBUG"
  | warning => "WARNING"
  | error => "ERROR"

structure Record where
  channel : Channel
  severity : Severity
  message : String
deriving DecidableEq, Repr

structure Logged (α : Type) where
  records : List Record
  result : Except Error α

namespace Logged

def pure (a : α) : Logged α := ⟨[], .ok a⟩

def bind (x : Logged α) (f : α → Logged β) : Logged β :=
  match x.result with
  | .error error => ⟨x.records, .error error⟩
  | .ok a =>
      let y := f a
      ⟨x.records ++ y.records, y.result⟩

instance : Monad Logged where
  pure := Logged.pure
  bind := Logged.bind

def throw (error : Error) : Logged α := ⟨[], .error error⟩

def ofExcept (result : Except Error α) : Logged α := ⟨[], result⟩

def log (channel : Channel) (severity : Severity) (message : String) : Logged Unit :=
  ⟨[⟨channel, severity, message⟩], .ok ()⟩

instance : MonadLift (Except Error) Logged := ⟨ofExcept⟩

theorem bind_of_ok {x : Logged α} {a : α} (h : x.result = .ok a) (f : α → Logged β) :
    x >>= f = ⟨x.records ++ (f a).records, (f a).result⟩ := by
  show x.bind f = _
  rw [bind, h]

theorem bind_of_error {x : Logged α} {error : Error} (h : x.result = .error error)
    (f : α → Logged β) : x >>= f = ⟨x.records, .error error⟩ := by
  show x.bind f = _
  rw [bind, h]

instance : LawfulMonad Logged :=
  LawfulMonad.mk' Logged
    (fun x => by
      obtain ⟨records, result⟩ := x
      cases result <;> simp [Functor.map, Logged.bind, Logged.pure])
    (fun a f => by simp [Bind.bind, Pure.pure, Logged.bind, Logged.pure])
    (fun x f g => by
      obtain ⟨records, result⟩ := x
      cases result with
      | error error => rfl
      | ok a =>
          cases h : (f a).result <;> simp [Bind.bind, Logged.bind, h])

end Logged

end Signpost
