import Signpost.Route

namespace Signpost

structure Group where
  settings : Settings
  config : Config

namespace Group

-- These names state how a group is made; no setting has one of them.
def reserved : List String := ["settings", "config", "self"]

def isReserved : Value → Bool
  | .str name => reserved.contains name
  | _ => false

def make (config : Config) (values : List (Value × Value)) (parent : Inherited := .stated .null) :
    Logged Group := do
  if (Entries.keys values).any isReserved then Logged.throw .mistyped
  else
    let own ← Settings.ofMapping (.mapping values)
    let settings ← own.merge parent
    pure { settings, config }

def handDown (group : Group) : Value :=
  .mapping group.settings.handDown

def subgroup (group : Group) (values : List (Value × Value)) : Logged Group :=
  make group.config values (.settings group.settings)

-- A route whose own settings are merged with those of the group.
def route (group : Group) (template : String) (callback : Value) (fields : SettingsFields := {})
    (name : Value := .null) : Logged Route := do
  let route ← Route.define group.config template callback fields name
  route.inherit (.stated group.handDown)

def text (group : Group) : String :=
  "RouteGroup(" ++ group.handDown.text ++ ")"

end Group

end Signpost
