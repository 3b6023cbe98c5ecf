/-! # Writing JSON

Values are written compactly, without any white space, or on several lines with two spaces for each
level. Texts are escaped as little as JSON allows: the quote, the backslash, and the controls below
`U+0020`, by a letter where there is one.
-/

namespace Quiescence.Json

/-- What is written as JSON. The members of an object keep their order. -/
inductive Value where
  | null
  | bool (value : Bool)
  | nat (value : Nat)
  | str (value : String)
  | arr (items : List Value)
  | obj (members : List (String × Value))

/-- The digit `n`, which is below sixteen, in lower case. -/
def hexDigit (n : Nat) : Char := Nat.digitChar n

/-- A character as it stands between quotes. -/
def escapeChar (c : Char) : List Char :=
  if c = '"' then ['\\', '"']
  else if c = '\\' then ['\\', '\\']
  else if c = '\x08' then ['\\', 'b']
  else if c = '\t' then ['\\', 't']
  else if c = '\n' then ['\\', 'n']
  else if c = '\x0c' then ['\\', 'f']
  else if c = '\r' then ['\\', 'r']
  else if c.toNat < 0x20 then
    ['\\', 'u', '0', '0', hexDigit (c.toNat / 16), hexDigit (c.toNat % 16)]
  else [c]

/-- A text between quotes. -/
def quote (s : String) : List Char := '"' :: (s.toList.flatMap escapeChar ++ ['"'])

/-- The decimal digits of a number. -/
def digits (n : Nat) : List Char := (toString n).toList

namespace Value

mutual

/-- The value without white space. -/
def compactChars : Value → List Char
  | null => "null".toList
  | bool true => "true".toList
  | bool false => "false".toList
  | nat n => digits n
  | str s => quote s
  | arr items => '[' :: (compactItems true items ++ [']'])
  | obj members => '{' :: (compactMembers true members ++ ['}'])

/-- Items with a comma before each but the first. -/
def compactItems (first : Bool) : List Value → List Char
  | [] => []
  | item :: rest =>
    (if first then [] else [',']) ++ item.compactChars ++ compactItems false rest

/-- Members with a comma before each but the first. -/
def compactMembers (first : Bool) : List (String × Value) → List Char
  | [] => []
  | (key, value) :: rest =>
    (if first then [] else [',']) ++ quote key ++ ':' :: value.compactChars
      ++ compactMembers false rest

end

/-- A new line at a level of nesting. -/
def newline (level : Nat) : List Char := '\n' :: List.replicate (2 * level) ' '

mutual

/-- The value on several lines; lines after the first are indented for the level. -/
def prettyChars (level : Nat) : Value → List Char
  | null => "null".toList
  | bool true => "true".toList
  | bool false => "false".toList
  | nat n => digits n
  | str s => quote s
  | arr [] => ['[', ']']
  | arr (item :: rest) =>
    '[' :: (prettyItems (level + 1) true (item :: rest) ++ newline level ++ [']'])
  | obj [] => ['{', '}']
  | obj (member :: rest) =>
    '{' :: (prettyMembers (level + 1) true (member :: rest) ++ newline level ++ ['}'])

/-- Items, each on a new line, with a comma before each but the first. -/
def prettyItems (level : Nat) (first : Bool) : List Value → List Char
  | [] => []
  | item :: rest =>
    (if first then [] else [',']) ++ newline level ++ item.prettyChars level
      ++ prettyItems level false rest

/-- Members, each on a new line, with a comma before each but the first. -/
def prettyMembers (level : Nat) (first : Bool) : List (String × Value) → List Char
  | [] => []
  | (key, value) :: rest =>
    (if first then [] else [',']) ++ newline level ++ quote key ++ ':' :: ' ' ::
      value.prettyChars level ++ prettyMembers level false rest

end

/-- The text of a value without white space. -/
def compact (v : Value) : String := String.ofList v.compactChars

/-- The text of a value on several lines. -/
def pretty (v : Value) : String := String.ofList (v.prettyChars 0)

end Value

end Quiescence.Json
