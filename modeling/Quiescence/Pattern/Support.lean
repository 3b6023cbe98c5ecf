import Quiescence.Pattern.Reader

/-! # Patterns that can be used

Not every pattern can be used. Patterns are matched against text in UTF-8, so a part that works on
bytes must not match bytes beyond ASCII. Which characters of Unicode are digits, spaces or parts of
words, and which differ in case only, is not known, so nothing may depend on it. The edge of a word
among characters of Unicode can be expressed but not recognised.
-/

namespace Quiescence.Pattern

namespace CharSet

mutual

/-- Whether a set of characters of Unicode depends on no class that is not known. -/
def isKnown : CharSet → Bool
  | family _ => false
  | nested _ inner => inner.isKnown
  | union items => areKnown items
  | combined _ left right => left.isKnown && right.isKnown
  | empty | one _ | range _ _ | named _ => true

/-- Whether all sets of a list depend on no class that is not known. -/
def areKnown : List CharSet → Bool
  | [] => true
  | item :: rest => item.isKnown && areKnown rest

end

mutual

/-- Whether a set holds everything, if it holds either everything or nothing and that can be told
without looking at characters. Only such a set is its own closure under case without further
knowledge. -/
def isAll? : CharSet → Option Bool
  | empty => some false
  | nested negated inner => inner.isAll?.map (negated ^^ ·)
  | union items => isAllOf? items
  | combined op left right => do
    let l ← left.isAll?
    let r ← right.isAll?
    return match op with
      | .intersection => l && r
      | .difference => l && !r
      | .symmetricDifference => l ^^ r
  | one _ | range _ _ | named _ | family _ => none

/-- Whether a union holds everything, if that can be told. -/
def isAllOf? : List CharSet → Option Bool
  | [] => some false
  | item :: rest => do
    let first ← item.isAll?
    let others ← isAllOf? rest
    return first || others

end

mutual

/-- Whether a set of bytes holds nothing beyond ASCII. -/
def isAscii : CharSet → Bool
  | empty => true
  | one c => c.toNat < 0x80
  | range _ high => high.toNat < 0x80
  | named negated | family negated => !negated
  | nested negated inner => !negated && inner.isAscii
  | union items => areAscii items
  | combined _ left right => left.isAscii && right.isAscii

/-- Whether all sets of a list hold nothing beyond ASCII. -/
def areAscii : List CharSet → Bool
  | [] => true
  | item :: rest => item.isAscii && areAscii rest

end

end CharSet

/-- What has been met on the way through a pattern: the flags that are on, and whether there was an
edge of a word among characters of Unicode. -/
structure Survey where
  ignoreCase : Bool
  unicode : Bool
  hasWordEdge : Bool
deriving DecidableEq

namespace Survey

/-- The state in which a pattern begins. -/
def start : Survey := ⟨false, true, false⟩

/-- The state after flags. -/
def set (f : Flags) (s : Survey) : Survey :=
  { s with
    ignoreCase := f.state .ignoreCase s.ignoreCase
    unicode := f.state .unicode s.unicode }

/-- Takes in a set of characters; none if it cannot be used. -/
def takeSet (set : CharSet) (s : Survey) : Option Survey :=
  if s.unicode then
    if set.isKnown && (!s.ignoreCase || set.isAll?.isSome) then some s else none
  else if set.isAscii then some s
  else none

/-- Takes in an atom; none if it cannot be used. -/
def takeAtom (s : Survey) : Atom → Option Survey
  | .literal c isByte =>
    if s.unicode then if s.ignoreCase then none else some s
    else if isByte && 0x80 ≤ c.toNat then none
    else some s
  | .dot => if s.unicode then some s else none
  | .edge ofWord => some { s with hasWordEdge := s.hasWordEdge || (ofWord && s.unicode) }
  | .family negated => if s.unicode || negated then none else some s

mutual

/-- Takes in a pattern; none if it cannot be used. Flags last to the end of their group. -/
def take (s : Survey) : Node → Option Survey
  | .empty => some s
  | .atom a => s.takeAtom a
  | .flags f => some (s.set f)
  | .set negated inner => s.takeSet (.nested negated inner)
  | .repeated inner => s.take inner
  | .group f inner => do
    let after ← (s.set f).take inner
    return { s with hasWordEdge := after.hasWordEdge }
  | .sequence parts => s.takeAll parts
  | .either branches => s.takeAll branches

/-- Takes in patterns one after the other. -/
def takeAll (s : Survey) : List Node → Option Survey
  | [] => some s
  | node :: rest => do takeAll (← s.take node) rest

end

end Survey

/-- Why a text cannot be used as a pattern. -/
inductive Refusal where
  /-- It is no pattern, or one that cannot be expressed. -/
  | unbuildable
  /-- It depends on the edges of words in Unicode. -/
  | wordEdge
deriving DecidableEq

/-- The wording of a refusal. -/
def Refusal.message : Refusal → String
  | unbuildable => "error building NFA"
  | wordEdge =>
    "unsupported regex feature for DFAs: cannot build DFAs for regexes with Unicode word "
      ++ "boundaries; switch to ASCII word boundaries, or heuristically enable Unicode word "
      ++ "boundaries or use a different regex engine"

/-- Why the characters cannot be used as a pattern, if they cannot. -/
def refusal? (cs : List Char) : Option Refusal :=
  match (read? cs).bind Survey.start.take with
  | none => some .unbuildable
  | some s => if s.hasWordEdge then some .wordEdge else none

end Quiescence.Pattern
