namespace Signpost.Text

-- The text before the first separator and the text after it.
def cut? (separator : List Char) : List Char → Option (List Char × List Char)
  | [] => if separator.isEmpty then some ([], []) else none
  | c :: cs =>
      if separator.isPrefixOf (c :: cs) then some ([], (c :: cs).drop separator.length)
      else (cut? separator cs).map fun (before, after) => (c :: before, after)

-- The text behind `start`, if it begins with it.
def after? (start cs : List Char) : Option (List Char) :=
  if start.isPrefixOf cs then some (cs.drop start.length) else none

def hasPart (part cs : List Char) : Bool :=
  (cut? part cs).isSome

-- The text before the last `c` and the text after it.
def cutLast? (c : Char) : List Char → Option (List Char × List Char)
  | [] => none
  | d :: cs =>
      match cutLast? c cs with
      | some (before, after) => some (d :: before, after)
      | none => if d = c then some ([], cs) else none

-- The parts of the text between the occurrences of `c`.
def split (c : Char) : List Char → List (List Char)
  | [] => [[]]
  | d :: cs =>
      if d = c then [] :: split c cs
      else
        match split c cs with
        | [] => [[d]]
        | part :: parts => (d :: part) :: parts

-- Each separator replaced, left to right. `covered` characters belong to a separator that has
-- been replaced already.
def replaceFrom (separator other : List Char) (covered : Nat) : List Char → List Char
  | [] => []
  | c :: cs =>
      match covered with
      | n + 1 => replaceFrom separator other n cs
      | 0 =>
          if separator.isPrefixOf (c :: cs) then
            other ++ replaceFrom separator other (separator.length - 1) cs
          else c :: replaceFrom separator other 0 cs

-- The empty separator stands before every character and at the end.
def replace (separator other cs : List Char) : List Char :=
  if separator.isEmpty then cs.flatMap (fun c => other ++ [c]) ++ other
  else replaceFrom separator other 0 cs

-- The text without the characters of `chars` at its end.
def trimEnd (chars cs : List Char) : List Char :=
  (cs.reverse.dropWhile chars.contains).reverse

theorem cut?_append {separator cs before after : List Char}
    (h : cut? separator cs = some (before, after)) : cs = before ++ separator ++ after := by
  induction cs generalizing before with
  | nil =>
      simp only [cut?] at h
      split at h <;> simp_all
  | cons c cs ih =>
      simp only [cut?] at h
      split at h
      next found =>
        obtain ⟨rest, hrest⟩ := List.isPrefixOf_iff_prefix.mp found
        simp only [Option.some.injEq, Prod.mk.injEq] at h
        obtain ⟨rfl, rfl⟩ := h
        simp [← hrest]
      next =>
        obtain ⟨⟨before', after'⟩, hcut, heq⟩ := Option.map_eq_some_iff.mp h
        simp only [Prod.mk.injEq] at heq
        obtain ⟨rfl, rfl⟩ := heq
        simp [ih hcut]

theorem cutLast?_append {c : Char} {cs before after : List Char}
    (h : cutLast? c cs = some (before, after)) : cs = before ++ c :: after := by
  induction cs generalizing before with
  | nil => simp [cutLast?] at h
  | cons d cs ih =>
      simp only [cutLast?] at h
      split at h
      next later hlater =>
        simp only [Option.some.injEq, Prod.mk.injEq] at h
        obtain ⟨rfl, rfl⟩ := h
        simp [ih hlater]
      next =>
        split at h <;> simp_all

end Signpost.Text
