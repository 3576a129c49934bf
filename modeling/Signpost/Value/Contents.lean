import Signpost.Entries
import Signpost.Error

namespace Signpost.Value

-- A text holds its characters, a mapping its keys.
def items? : Value → Option (List Value)
  | str s => some (s.toList.map fun c => str c.toString)
  | list items => some items
  | tuple items => some items
  | mapping entries => some (Entries.keys entries)
  | _ => none

def items (value : Value) : Except Error (List Value) :=
  match value.items? with
  | some items => .ok items
  | none => .error .mistyped

-- The item at `index` of a sequence that is read as a mapping. It is a key and a value.
def entry (index : Nat) (item : Value) : Except Error (Value × Value) :=
  match item.items? with
  | some [key, value] => if key.fixed then .ok (key, value) else .error .mistyped
  | some parts =>
      .error <| .raised <|
        "dictionary update sequence element #" ++ toString index ++ " has length " ++
          toString parts.length ++ "; 2 is required"
  | none => .error .mistyped

def entriesFrom (index : Nat) : List Value → Except Error (List (Value × Value))
  | [] => .ok []
  | item :: items => do
      let first ← entry index item
      let rest ← entriesFrom (index + 1) items
      pure (first :: rest)

-- A mapping as it is, or a sequence of keys and values in which the last value of a key counts.
def entries : Value → Except Error (List (Value × Value))
  | mapping entries => .ok entries
  | value => do
      let found ← entriesFrom 0 (← value.items)
      pure (Entries.ofList found)

end Signpost.Value
