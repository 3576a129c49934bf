import Signpost.Config
import Signpost.Entries
import Signpost.Text.Cut
import Signpost.Text.Space

namespace Signpost

structure MethodRef where
  className : String
  method : String
  className_ne : className ≠ ""
  method_ne : method ≠ ""

theorem MethodRef.eq_iff {a b : MethodRef} :
    a = b ↔ a.className = b.className ∧ a.method = b.method := by
  cases a
  cases b
  simp

instance : DecidableEq MethodRef := fun _ _ => decidable_of_iff' _ MethodRef.eq_iff

inductive Callback
  | function (f : FunctionRef)
  | method (ref : MethodRef)
deriving DecidableEq

namespace Callback

def ofNames (className method : String) : Except Error Callback :=
  if className_ne : className ≠ "" then
    if method_ne : method ≠ "" then .ok (.method { className, method, className_ne, method_ne })
    else .error (.configuration (.callbackParts (.str className) (.str method)))
  else .error (.configuration (.callbackParts (.str className) (.str method)))

-- The separator comes exactly once; the names on its sides are trimmed.
def ofText (separator text : String) : Except Error Callback :=
  match Text.cut? separator.toList text.toList with
  | some (before, after) =>
      if Text.hasPart separator.toList after then
        .error (.configuration (.callbackShape text separator))
      else ofNames (String.ofList (Text.trim before)) (String.ofList (Text.trim after))
  | none => .error (.configuration (.callbackShape text separator))

-- The method of a mapping may also be called what the class uses.
def ofMapping (entries : List (Value × Value)) : Except Error Callback :=
  let className := (Entries.get? entries (.str "controller")).getD .null
  let method :=
    (Entries.get? entries (.str "method")).getD
      ((Entries.get? entries (.str "uses")).getD .null)
  match className, method with
  | .str givenClass, .str givenMethod => ofNames givenClass givenMethod
  | _, _ => .error (.configuration (.callbackMapping (.mapping entries)))

def ofValue (config : Config) : Value → Except Error Callback
  | .str text => ofText config.callbackSeparator text
  | .tuple [.str givenClass, .str givenMethod] => ofNames givenClass givenMethod
  | .mapping entries => ofMapping entries
  | .function f => .ok (.function f)
  | value => .error (.configuration (.callbackType value))

-- What a callback is given as: one that is there already, or a value that states one.
inductive Reference
  | callback (callback : Callback)
  | value (value : Value)

def read (config : Config) : Reference → Except Error Callback
  | .callback callback => .ok callback
  | .value value => ofValue config value

-- A stable name, for logs and keys.
def identifier : Callback → String
  | function f => "function_" ++ f.home.getD "<unknown>" ++ "." ++ f.name
  | method ref => ref.className ++ "@" ++ ref.method

def className? : Callback → Option String
  | function _ => none
  | method ref => some ref.className

def method? : Callback → Option String
  | function _ => none
  | method ref => some ref.method

end Callback

end Signpost
