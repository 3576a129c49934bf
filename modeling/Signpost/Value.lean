import Signpost.Number.Shortest
import Signpost.Text.Quoted

namespace Signpost

-- A callable that the host supplies. It is known by its key; the rest is what it tells of
-- itself: the module it belongs to, its name there, and its type.
structure FunctionRef where
  key : String
  home : Option String
  name : String
  typeName : String
deriving DecidableEq, Repr, Inhabited

inductive Value
  | null
  | bool (b : Bool)
  | int (n : Int)
  | float (x : Number.Double)
  | str (s : String)
  | list (items : List Value)
  | tuple (items : List Value)
  | mapping (entries : List (Value × Value))
  | function (f : FunctionRef)
  | object (className : String)
deriving Repr, Inhabited

namespace Value

def number? : Value → Option Number.Magnitude
  | bool b => some (.finite (.ofInt (if b then 1 else 0)))
  | int n => some (.finite (.ofInt n))
  | float x => some x.magnitude
  | _ => none

-- Values with no parts. Two booleans, or a boolean and a number, compare as numbers.
def sameLeaf (a b : Value) : Bool :=
  match a, b with
  | null, null => true
  | str s, str t => s == t
  | function f, function g => f == g
  | object c, object d => c == d
  | _, _ =>
      match a.number?, b.number? with
      | some m, some n => m == n
      | _, _ => false

mutual

-- Equality, under which numbers are equal when they stand for the same number.
def same : Value → Value → Bool
  | list xs, list ys => sameAll xs ys
  | tuple xs, tuple ys => sameAll xs ys
  | mapping xs, mapping ys => xs.length == ys.length && sameEntries xs ys
  | a, b => sameLeaf a b

def sameAll : List Value → List Value → Bool
  | [], [] => true
  | x :: xs, y :: ys => same x y && sameAll xs ys
  | _, _ => false

-- Every entry on the left is one of those on the right, whatever their order.
def sameEntries : List (Value × Value) → List (Value × Value) → Bool
  | [], _ => true
  | entry :: entries, ys => sameEntry entry ys && sameEntries entries ys

def sameEntry : Value × Value → List (Value × Value) → Bool
  | (key, value), ys => ys.any fun other => same key other.1 && same value other.2

end

instance : BEq Value := ⟨same⟩

-- Whether a value counts as something rather than nothing where a yes or no is asked.
def truthy : Value → Bool
  | null => false
  | bool b => b
  | int n => n != 0
  | float x => !x.isZero
  | str s => s != ""
  | list items => !items.isEmpty
  | tuple items => !items.isEmpty
  | mapping entries => !entries.isEmpty
  | function _ => true
  | object _ => true

def typeName : Value → String
  | null => "NoneType"
  | bool _ => "bool"
  | int _ => "int"
  | float _ => "float"
  | str _ => "str"
  | list _ => "list"
  | tuple _ => "tuple"
  | mapping _ => "dict"
  | function f => f.typeName
  | object className => className

mutual

-- Whether a value may be the key of a mapping: no part of it can change.
def fixed : Value → Bool
  | list _ => false
  | mapping _ => false
  | tuple items => fixedAll items
  | _ => true

def fixedAll : List Value → Bool
  | [] => true
  | x :: xs => fixed x && fixedAll xs

end

def joined (parts : List String) : String := String.intercalate ", " parts

mutual

def text : Value → String
  | null => "None"
  | bool b => if b then "True" else "False"
  | int n => toString n
  | float x => x.text
  | str s => Text.quoted s
  | list items => "[" ++ joined (texts items) ++ "]"
  | tuple items =>
      match texts items with
      | [item] => "(" ++ item ++ ",)"
      | items => "(" ++ joined items ++ ")"
  | mapping entries => "\x7b" ++ joined (entryTexts entries) ++ "\x7d"
  | function f => "<" ++ f.typeName ++ " " ++ f.name ++ ">"
  | object className => "<" ++ className ++ " object>"

def texts : List Value → List String
  | [] => []
  | x :: xs => text x :: texts xs

def entryTexts : List (Value × Value) → List String
  | [] => []
  | entry :: entries => entryText entry :: entryTexts entries

def entryText : Value × Value → String
  | (key, value) => text key ++ ": " ++ text value

end

end Value

end Signpost
