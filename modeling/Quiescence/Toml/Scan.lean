import Quiescence.Text.Digits

/-! # White space and texts of TOML

Each function here takes the characters that are left and returns what it read with what follows, or
nothing when the rules are broken. Line ends are LF or CRLF; of all other controls only the tab may
stand anywhere.
-/

namespace Quiescence.Toml

/-- Something read from the front of a text. -/
abbrev Scan (α : Type) := List Char → Option (α × List Char)

/-- The white space of TOML that stays on a line. -/
def isSpace (c : Char) : Bool := c = ' ' || c = '\t'

/-- Whether a character may stand in a comment, or in a text on one line apart from quotes and
backslashes. -/
def isPlain (c : Char) : Bool := c = '\t' || (0x20 ≤ c.toNat && c.toNat != 0x7F)

/-- What follows spaces and tabs. -/
def skipSpace (cs : List Char) : List Char := cs.dropWhile isSpace

/-- What follows a line end. -/
def lineEnd? : List Char → Option (List Char)
  | '\n' :: rest => some rest
  | '\r' :: '\n' :: rest => some rest
  | _ => none

/-- What follows the rest of a line that may hold nothing but a comment. -/
def endOfLine? (cs : List Char) : Option (List Char) :=
  let rest := match skipSpace cs with
    | '#' :: rest => rest.dropWhile isPlain
    | rest => rest
  if rest.isEmpty then some [] else lineEnd? rest

/-- What follows any number of spaces, line ends and comments. -/
def skipGap (inComment : Bool) : List Char → Option (List Char)
  | [] => some []
  | '\n' :: rest => skipGap false rest
  | '\r' :: '\n' :: rest => skipGap false rest
  | c :: rest =>
    if inComment then (if isPlain c then skipGap true rest else none)
    else if isSpace c then skipGap false rest
    else if c = '#' then skipGap true rest
    else some (c :: rest)

/-! ## Escapes -/

/-- The character of a code point, if there is one. -/
def charOf? (n : Nat) : Option Char := if n.isValidChar then some (Char.ofNat n) else none

/-- The number written with these digits to base sixteen. -/
def hexNumber? (cs : List Char) : Option Nat :=
  cs.foldlM (fun n c => (Text.hexValue? c).map (n * 16 + ·)) 0

/-- The character of a code point written with exactly `width` digits. -/
def codePoint? (width : Nat) : Scan Char := fun cs => do
  if cs.length < width then none
  else
    let c ← (hexNumber? (cs.take width)).bind charOf?
    return (c, cs.drop width)

/-- The character that an escape stands for; the backslash has been read. -/
def escape? : Scan Char
  | 'b' :: rest => some ('\x08', rest)
  | 't' :: rest => some ('\t', rest)
  | 'n' :: rest => some ('\n', rest)
  | 'f' :: rest => some ('\x0c', rest)
  | 'r' :: rest => some ('\r', rest)
  | '"' :: rest => some ('"', rest)
  | '\\' :: rest => some ('\\', rest)
  | 'u' :: rest => codePoint? 4 rest
  | 'U' :: rest => codePoint? 8 rest
  | _ => none

/-! ## Texts

The functions below read at least one character for each unit of fuel, so as many units as there are
characters are enough. -/

/-- Puts a character before the text that follows it. -/
def consTo (c : Char) : Option (List Char × List Char) → Option (List Char × List Char) :=
  Option.map fun (cs, rest) => (c :: cs, rest)

/-- A text between double quotes; the opening quote has been read. -/
def basic? : Nat → Scan (List Char)
  | fuel + 1, c :: rest =>
    if c = '"' then some ([], rest)
    else if c = '\\' then do
      let (c, rest) ← escape? rest
      consTo c (basic? fuel rest)
    else if isPlain c then consTo c (basic? fuel rest)
    else none
  | _, _ => none

/-- A text between single quotes; the opening quote has been read. -/
def literal? : Scan (List Char) := fun cs =>
  let content := cs.takeWhile fun c => c != '\'' && isPlain c
  match cs.drop content.length with
  | '\'' :: rest => some (content, rest)
  | _ => none

/-- What follows a line end that is to be passed over, and the blanks and line ends after it. -/
def skipContinuation? (cs : List Char) : Option (List Char) := do
  let rest ← lineEnd? (skipSpace cs)
  return blanks rest
where
  /-- What follows spaces, tabs and line ends. -/
  blanks : List Char → List Char
    | '\n' :: rest => blanks rest
    | '\r' :: '\n' :: rest => blanks rest
    | c :: rest => if isSpace c then blanks rest else c :: rest
    | [] => []

/-- Whether a text goes on with `n` quotes. -/
def hasQuotes (quote : Char) (n : Nat) (cs : List Char) : Bool :=
  (List.replicate n quote).isPrefixOf cs

/-- A text on several lines; the opening quotes have been read. One or two quotes may stand before
the three that close it. Only double quotes admit escapes. -/
def multiline? (quote : Char) : Nat → Scan (List Char)
  | fuel + 1, c :: rest =>
    let cs := c :: rest
    if hasQuotes quote 5 cs then some ([quote, quote], cs.drop 5)
    else if hasQuotes quote 4 cs then some ([quote], cs.drop 4)
    else if hasQuotes quote 3 cs then some ([], cs.drop 3)
    else if c = '\\' ∧ quote = '"' then
      match skipContinuation? rest with
      | some rest => multiline? quote fuel rest
      | none => do
        let (c, rest) ← escape? rest
        consTo c (multiline? quote fuel rest)
    else match lineEnd? cs with
      | some rest => consTo '\n' (multiline? quote fuel rest)
      | none => if isPlain c then consTo c (multiline? quote fuel rest) else none
  | _, _ => none

/-- A text on several lines; a line end right after the opening quotes does not count. -/
def multilineBody? (quote : Char) : Scan (List Char) := fun cs =>
  let cs := (lineEnd? cs).getD cs
  multiline? quote cs.length cs

/-- A text on one line between quotes of either kind. -/
def quoted? : Scan (List Char)
  | '"' :: rest => basic? rest.length rest
  | '\'' :: rest => literal? rest
  | _ => none

/-- A text between quotes. -/
def text? : Scan (List Char)
  | '"' :: '"' :: '"' :: rest => multilineBody? '"' rest
  | '\'' :: '\'' :: '\'' :: rest => multilineBody? '\'' rest
  | cs => quoted? cs

/-! ## Keys -/

/-- Whether a key may hold the character without quotes. -/
def isBare (c : Char) : Bool := c.isAlphanum || c = '_' || c = '-'

/-- One part of a key. -/
def part? : Scan String := fun cs =>
  match cs with
  | '"' :: _ | '\'' :: _ => (quoted? cs).map fun (key, rest) => (String.ofList key, rest)
  | _ => match cs.takeWhile isBare with
    | [] => none
    | key => some (String.ofList key, cs.drop key.length)

/-- The parts of a key, with points between them. -/
def parts? : Nat → Scan (List String)
  | fuel + 1, cs => do
    let (part, rest) ← part? (skipSpace cs)
    match skipSpace rest with
    | '.' :: rest => (parts? fuel rest).map fun (more, rest) => (part :: more, rest)
    | rest => return ([part], rest)
  | 0, _ => none

/-- Nothing is nested this deep, and no key has so many parts. -/
def depthLimit : Nat := 80

/-- A key: all its parts but the last, and the last. -/
def key? : Scan (List String × String) := fun cs => do
  let (parts, rest) ← parts? cs.length cs
  let last ← parts.getLast?
  if parts.length < depthLimit then return ((parts.dropLast, last), rest) else none

end Quiescence.Toml
