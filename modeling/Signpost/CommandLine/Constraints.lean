import Signpost.Entries
import Signpost.Error
import Signpost.Text.Cut

namespace Signpost.CommandLine

def readConstraint (item : String) : Except Error (String × String) :=
  match Text.cut? ['='] item.toList with
  | some (c :: name, pattern) => .ok (String.ofList (c :: name), String.ofList pattern)
  | _ => .error (.configuration (.whereOption item))

-- A name that comes again keeps its place and takes the later pattern.
def readConstraints (items : List String) : Except Error (List (String × String)) := do
  let entries ← items.mapM readConstraint
  pure (Entries.ofList entries)

end Signpost.CommandLine
