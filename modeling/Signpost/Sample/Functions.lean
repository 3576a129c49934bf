import Signpost.Error

namespace Signpost.Sample

structure Function where
  ref : FunctionRef
  run : List Value → Except Error Value

-- A value as it reads in a sentence: a text stands for itself.
def shown : Value → String
  | .str s => s
  | value => value.text

def functionsModule : String := "fixture_app.functions"

-- A function of the module of functions.
def ofModule (key name typeName : String) (run : List Value → Except Error Value) : Function where
  ref := { key, home := some functionsModule, name, typeName }
  run

def plain (key : String) (run : List Value → Except Error Value) : Function :=
  ofModule key key "function" run

def showUser : List Value → Except Error Value
  | [id] => .ok (.tuple [id, .null])
  | [id, slug] => .ok (.tuple [id, slug])
  | _ => .error .mistyped

def one : List Value → Except Error Value
  | [value] => .ok value
  | _ => .error .mistyped

def greet : List Value → Except Error Value
  | [name] => .ok (.str ("hi " ++ shown name))
  | _ => .error .mistyped

def makeHandler : List Value → Except Error Value
  | [] => .ok (.object "Handler")
  | _ => .error .mistyped

def length : List Value → Except Error Value
  | [.str s] => .ok (.int s.length)
  | [.list items] => .ok (.int items.length)
  | [.tuple items] => .ok (.int items.length)
  | [.mapping entries] => .ok (.int entries.length)
  | _ => .error .mistyped

def functions : List Function :=
  [ plain "echo" fun values => .ok (.list values),
    plain "show_user" showUser,
    plain "show_async" showUser,
    plain "one" one,
    plain "none" fun _ => .ok .null,
    plain "boom" fun _ => .error (.raised "boom"),
    plain "greet" greet,
    ofModule "inner" "_outer.<locals>.inner" "function" fun values => .ok (.int values.length),
    ofModule "lambda" "<lambda>" "function" fun values => .ok (.list values.reverse),
    ofModule "object" "Handler" "Handler" fun values => .ok (.list (.str "handler" :: values)),
    ofModule "bound" "Handler.method" "method" fun values =>
      .ok (.list (.str "method" :: values)),
    ofModule "class" "Handler" "type" makeHandler,
    { ref := { key := "anonymous", home := none, name := "Anonymous", typeName := "Anonymous" }
      run := fun _ => .ok (.str "anonymous") },
    { ref :=
        { key := "partial", home := some "functools", name := "partial", typeName := "partial" }
      run := fun values => .ok (.list (.str "first" :: values)) },
    { ref :=
        { key := "len", home := some "builtins", name := "len"
          typeName := "builtin_function_or_method" }
      run := length } ]

def function? (key : String) : Option Function :=
  functions.find? (·.ref.key == key)

-- The function of a key, as a value. Nothing stands under any other key.
def functionValue (key : String) : Value :=
  ((function? key).map fun f => .function f.ref).getD .null

end Signpost.Sample
