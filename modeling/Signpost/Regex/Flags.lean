namespace Signpost.Regex

structure Flags where
  template : Bool := false
  ignoreCase : Bool := false
  locale : Bool := false
  multiline : Bool := false
  dotAll : Bool := false
  unicode : Bool := false
  verbose : Bool := false
  ascii : Bool := false
deriving DecidableEq, Repr, Inhabited

namespace Flags

def ofLetter? : Char → Option Flags
  | 'i' => some { ignoreCase := true }
  | 'L' => some { locale := true }
  | 'm' => some { multiline := true }
  | 's' => some { dotAll := true }
  | 'x' => some { verbose := true }
  | 'a' => some { ascii := true }
  | 't' => some { template := true }
  | 'u' => some { unicode := true }
  | _ => none

def zipWith (f : Bool → Bool → Bool) (a b : Flags) : Flags where
  template := f a.template b.template
  ignoreCase := f a.ignoreCase b.ignoreCase
  locale := f a.locale b.locale
  multiline := f a.multiline b.multiline
  dotAll := f a.dotAll b.dotAll
  unicode := f a.unicode b.unicode
  verbose := f a.verbose b.verbose
  ascii := f a.ascii b.ascii

def union : Flags → Flags → Flags := zipWith (· || ·)

def inter : Flags → Flags → Flags := zipWith (· && ·)

def diff : Flags → Flags → Flags := zipWith fun a b => a && !b

-- The flags that choose an alphabet. Only one of them can hold at a time.
def alphabet (flags : Flags) : Flags :=
  flags.inter { ascii := true, locale := true, unicode := true }

def isEmpty (flags : Flags) : Bool := flags == {}

-- The flags inside a group: those around it, with what the group adds and takes away. An added
-- alphabet replaces the one around.
def adjust (flags added removed : Flags) : Flags :=
  let kept := if added.alphabet.isEmpty then flags else flags.diff flags.alphabet
  (kept.union added).diff removed

def bits (flags : Flags) : Nat :=
  flags.template.toNat + 2 * flags.ignoreCase.toNat + 4 * flags.locale.toNat +
    8 * flags.multiline.toNat + 16 * flags.dotAll.toNat + 32 * flags.unicode.toNat +
    64 * flags.verbose.toNat + 256 * flags.ascii.toNat

end Flags

end Signpost.Regex
