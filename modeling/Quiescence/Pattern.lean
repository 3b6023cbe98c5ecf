/-! # Patterns

A pattern is a regular expression. What matters here is whether a text is one and whether it can be
used, not what it matches; so the tree of a pattern keeps which kinds of things it is made of and
forgets names, greediness and the particular assertions.
-/

namespace Quiescence.Pattern

/-- The switches that a pattern may turn on and off for what follows. -/
inductive Flag where
  | ignoreCase
  | multiLine
  | dotMatchesAll
  | swapGreed
  | unicode
  | carriageReturn
  | ignoreSpace
deriving DecidableEq

/-- The letter of a flag. -/
def Flag.letter : Flag → Char
  | ignoreCase => 'i'
  | multiLine => 'm'
  | dotMatchesAll => 's'
  | swapGreed => 'U'
  | unicode => 'u'
  | carriageReturn => 'R'
  | ignoreSpace => 'x'

/-- All flags. -/
def Flag.all : List Flag :=
  [ignoreCase, multiLine, dotMatchesAll, swapGreed, unicode, carriageReturn, ignoreSpace]

/-- Flags with whether they are turned on. No flag is mentioned twice. -/
abbrev Flags := List (Flag × Bool)

/-- Whether a flag is on after `flags` when it was `before`. -/
def Flags.state (flags : Flags) (flag : Flag) (before : Bool) : Bool :=
  (flags.lookup flag).getD before

/-- The smallest parts of a pattern. -/
inductive Atom where
  /-- A character; `isByte` says that two digits to base sixteen stand for it. -/
  | literal (c : Char) (isByte : Bool)
  | dot
  /-- A place between characters, or the edge of a word. -/
  | edge (ofWord : Bool)
  /-- The digits, the spaces or the characters of words, or all others. -/
  | family (negated : Bool)

/-- What two sets of characters are combined by. -/
inductive SetOp where
  | intersection
  | difference
  | symmetricDifference
deriving DecidableEq

/-- A set of characters. -/
inductive CharSet where
  | empty
  | one (c : Char)
  | range (low high : Char)
  /-- A class of ASCII characters by its name. -/
  | named (negated : Bool)
  | family (negated : Bool)
  | nested (negated : Bool) (inner : CharSet)
  | union (items : List CharSet)
  | combined (op : SetOp) (left right : CharSet)

/-- The set with all of the items. -/
def CharSet.ofItems : List CharSet → CharSet
  | [] => empty
  | [item] => item
  | items => union items

/-- A pattern. -/
inductive Node where
  | empty
  | atom (a : Atom)
  /-- Flags for what follows in the same group. -/
  | flags (f : Flags)
  | set (negated : Bool) (inner : CharSet)
  | repeated (inner : Node)
  /-- A group, with flags for what is in it. -/
  | group (f : Flags) (inner : Node)
  | sequence (parts : List Node)
  | either (branches : List Node)

/-- The pattern of parts that follow each other. -/
def Node.ofParts : List Node → Node
  | [] => empty
  | [part] => part
  | parts => sequence parts

/-- The pattern of branches of which one is taken. -/
def Node.ofBranches : List Node → Node
  | [branch] => branch
  | branches => either branches

/-! ## Nesting -/

namespace CharSet

mutual

/-- How deep a set is nested. Single characters, ranges and classes have no depth. -/
def depth : CharSet → Nat
  | nested _ inner => inner.depth + 1
  | union items => depths items + 1
  | combined _ left right => max left.depth right.depth + 1
  | empty | one _ | range _ _ | named _ | family _ => 0

/-- The greatest depth of a list of sets. -/
def depths : List CharSet → Nat
  | [] => 0
  | item :: rest => max item.depth (depths rest)

end

end CharSet

namespace Node

mutual

/-- How deep a pattern is nested. Atoms and flags have no depth. -/
def depth : Node → Nat
  | set _ inner => inner.depth + 1
  | repeated inner => inner.depth + 1
  | group _ inner => inner.depth + 1
  | sequence parts => depths parts + 1
  | either branches => depths branches + 1
  | empty | atom _ | flags _ => 0

/-- The greatest depth of a list of patterns. -/
def depths : List Node → Nat
  | [] => 0
  | node :: rest => max node.depth (depths rest)

end

/-- No pattern is nested deeper. -/
def depthLimit : Nat := 250

end Node

end Quiescence.Pattern
