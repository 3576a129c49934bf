import Signpost.Sample.Controllers

namespace Signpost.Sample

def controllersModule : String := "fixture_app.controllers"

def functionRoute (template key : String) (name : Value := .null) : Logged Route :=
  Route.make default template (functionValue key) (.stated .null) name

def methodRoute (template callback : String) (classNamespace : Value := .str controllersModule) :
    Logged Route :=
  Route.make default template (.str callback) (.stated .null) .null classNamespace

def echoRoute : Logged Route := do
  let route ← methodRoute "/e/\x7ba?\x7d/\x7bb?\x7d" "Echo@call"
  route.withParameters [(.str "page", .int 1), (.str "b", .str "B")]

-- Namespaces of this route are written with backslashes.
def backslashRoute : Logged Route := do
  let config ← Config.ofOptions
    { defaultNamespace := some "fixture_app\\controllers", namespaceSeparator := "\\" }
  Route.make config "/b/\x7bid\x7d" (.str "UserController@show")

-- One of the two alternatives of this template leaves its placeholder unbound.
def legacyRoute : Logged Route := do
  let config ← Config.ofOptions { escapeLiterals := false }
  Route.make config "/a|/b/\x7bid\x7d" (functionValue "show_user")

def single : List (String × Logged Route) :=
  [ ("route", functionRoute "/hello/\x7bname\x7d" "greet"),
    ("user", functionRoute "/user/\x7bid\x7d/\x7bslug?\x7d" "show_user"),
    ("user_async", functionRoute "/user/\x7bid\x7d/\x7bslug?\x7d" "show_async"),
    ("method_route", methodRoute "/u/\x7bid\x7d/\x7bslug?\x7d" "UserController@show"),
    ("edit_route", methodRoute "/u/\x7bid\x7d/edit" "UserController@edit"),
    ("echo_route", echoRoute),
    ("missing_class", methodRoute "/x" "Missing@index"),
    ("missing_method", methodRoute "/x" "UserController@index"),
    ("not_callable", methodRoute "/x" "UserController@not_a_method"),
    ("bare_class", methodRoute "/x" "UserController@show" .null),
    ("broken", methodRoute "/x" "Thing@go" (.str "fixture_app.broken")),
    ("backslash", backslashRoute),
    ("raises", functionRoute "/boom" "boom"),
    ("returns_none", functionRoute "/none" "none"),
    ("legacy", legacyRoute) ]

def listed : List (Logged Route) :=
  [ functionRoute "/bye/\x7bname\x7d" "greet" (.str "farewell"),
    functionRoute "/anon" "greet",
    functionRoute "/bye2/\x7bname\x7d" "greet" (.str "farewell"),
    functionRoute "/shadow" "greet" (.str "user"),
    functionRoute "/s/\x7bx\x7d" "greet" (.str "with:colon") ]

def routeAttribute (entry : String × Logged Route) : Except Error (String × Attribute World) :=
  entry.2.result.map fun route => (entry.1, .route route)

def routes : Except Error (List (String × Attribute World)) := do
  let routes ← single.mapM routeAttribute
  let candidates ← listed.mapM (·.result)
  pure <|
    routes ++
      [ ("not_a_route", .sequence "str" ("just a string".toList.map fun _ => none)),
        ("factory", .other "function"), ("Route", .ofClass (Hosted.throw .mistyped)),
        ("greet", .other "function"),
        ("routes", .sequence "list" (none :: candidates.map some)) ]

def functionAttributes : List (String × Attribute World) :=
  ["echo", "show_user", "show_async", "one", "none", "boom", "greet"].map
    fun key => (key, .other "function")

def submodules : List (String × Attribute World) :=
  ["controllers", "functions"].map fun name => (name, .other "module")

def plainModule (body : Except Error (List (String × Attribute World))) : Module World where
  isPackage := false
  body

def modules : Modules World :=
  [ ("fixture_app", { isPackage := true, body := .ok (classAttribute "Root" :: submodules) }),
    (controllersModule, plainModule (.ok controllers)),
    (functionsModule, plainModule (.ok (classAttribute "Handler" :: functionAttributes))),
    ("fixture_app.broken", plainModule (.error (.noModule "missing_dependency"))),
    ("fixture_app.raising", plainModule (.error (.raised "module body failed"))),
    ("fixture_routes", plainModule routes),
    ("fixture_empty", plainModule (.ok [])) ]

end Signpost.Sample
