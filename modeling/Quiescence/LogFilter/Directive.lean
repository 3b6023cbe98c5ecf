import Quiescence.Pattern.Support

/-! # Directives of log filters

A directive is a level, or a target or a span or both, with or without a level after an equals sign.
A span stands in brackets: its name and, in braces, one field, which may have a value after an
equals sign. The value is a number or a pattern. Only whether a directive can be read matters here.

White space around a directive does not count where its parts are told apart, but it does where they
are cut out: the places of the parts are counted from the first visible character, while the cuts
are made in the text with its white space.
-/

namespace Quiescence.LogFilter

/-- Why a directive cannot be read. -/
inductive Fault where
  /-- Its parts cannot be told apart. -/
  | malformed
  | badLevel
  | badPattern (refusal : Pattern.Refusal)
deriving DecidableEq

/-- The wording of a fault. -/
def Fault.message : Fault → String
  | malformed => "invalid filter directive"
  | badLevel =>
    "error parsing level filter: expected one of \"off\", \"error\", \"warn\", \"info\", "
      ++ "\"debug\", \"trace\", or a number 0-5"
  | badPattern refusal => "invalid field filter: " ++ refusal.message

/-! ## Levels -/

/-- The names of the levels. -/
def levelNames : List (List Char) :=
  ["off", "error", "warn", "info", "debug", "trace"].map String.toList

/-- Whether the characters are a level: one of the names in any case, or a number from 0 to 5. -/
def isLevel (cs : List Char) : Bool :=
  levelNames.contains (cs.map Char.toLower) || (Text.natural? cs).any (· ≤ 5)

/-! ## Fields -/

/-- Whether the characters are the digits of an exponent, with or without a sign. -/
def isExponent (cs : List Char) : Bool :=
  let digits := match cs with
    | '+' :: rest | '-' :: rest => rest
    | cs => cs
  !digits.isEmpty && digits.all Char.isDigit

/-- Whether the characters are a number without a sign: digits with at most one point among or
around them, and an exponent after them or none. -/
def isMagnitude (cs : List Char) : Bool :=
  let whole := cs.takeWhile Char.isDigit
  let (fraction, rest) := match cs.drop whole.length with
    | '.' :: rest => (rest.takeWhile Char.isDigit, rest.dropWhile Char.isDigit)
    | rest => ([], rest)
  !(whole ++ fraction).isEmpty &&
    match rest with
    | [] => true
    | c :: rest => (c = 'e' || c = 'E') && isExponent rest

/-- Whether the characters are a number, or one of the values that are no numbers. -/
def isNumber (cs : List Char) : Bool :=
  let rest := match cs with
    | '+' :: rest | '-' :: rest => rest
    | cs => cs
  isMagnitude rest ||
    (["inf", "infinity", "nan"].map String.toList).contains (rest.map Char.toLower)

/-- What is wrong with a field, if anything is: its value, which ends before another equals sign,
must be a number or a pattern. -/
def fieldFault? (cs : List Char) : Option Fault :=
  match cs.dropWhile (· != '=') with
  | [] => none
  | _ :: rest =>
    let value := rest.takeWhile (· != '=')
    if isNumber value then none else (Pattern.refusal? value).map .badPattern

/-! ## Directives -/

/-- How far a directive has been read. -/
inductive Progress where
  | start
  /-- In a target, or in a level that stands alone. -/
  | target
  /-- In the name of a span. -/
  | span
  /-- In a field that begins at this place. -/
  | field (place : Nat)
  /-- Behind the field of a span. -/
  | fieldEnd
  /-- Behind a span. -/
  | spanEnd
  /-- In a level that begins at this place. -/
  | level (place : Nat)
deriving DecidableEq

/-- Whether a target may begin with this character. -/
def beginsTarget (c : Char) : Bool :=
  c = '-' || c = ':' || c = '_' || Text.isAlphanumeric c

/-- The characters from the place of a byte on. -/
def fromPlace : Nat → List Char → List Char
  | _, [] => []
  | 0, cs => cs
  | place, c :: rest => fromPlace (place - c.utf8Size) rest

/-- The characters before the place of a byte. -/
def upToPlace : Nat → List Char → List Char
  | _, [] => []
  | 0, _ => []
  | place, c :: rest => c :: upToPlace (place - c.utf8Size) rest

/-- Reads the character at a place of the directive `text`. -/
def Progress.step (text : List Char) (place : Nat) (c : Char) :
    Progress → Except Fault Progress
  | start =>
    if c = '[' then .ok span else if beginsTarget c then .ok target else .error .malformed
  | target => .ok (if c = '=' then level (place + 1) else if c = '[' then span else target)
  | span => .ok (if c = ']' then spanEnd else if c = '\x7b' then field (place + 1) else span)
  | field begins =>
    if c = '\x7d' then
      if begins = place then .error .malformed
      else match fieldFault? (fromPlace begins (upToPlace place text)) with
        | some fault => .error fault
        | none => .ok fieldEnd
    else .ok (field begins)
  | fieldEnd => if c = ']' then .ok spanEnd else .error .malformed
  | spanEnd => if c = '=' then .ok (level (place + 1)) else .error .malformed
  | level begins => .ok (level begins)

/-- What is wrong with the directive `text` when it ends here. -/
def Progress.endFault? (text : List Char) : Progress → Option Fault
  | target | spanEnd => none
  | level begins =>
    let cs := fromPlace begins text
    if cs.isEmpty || isLevel cs then none else some .badLevel
  | start | span | field _ | fieldEnd => some .malformed

/-- Reads characters of the directive `text`, the first of which stands at the given place, and says
what is wrong, if anything is. -/
def scanFault? (text : List Char) : Nat → List Char → Progress → Option Fault
  | _, [], progress => progress.endFault? text
  | place, c :: rest, progress =>
    match progress.step text place c with
    | .ok progress => scanFault? text (place + c.utf8Size) rest progress
    | .error fault => some fault

/-- What is wrong with a directive, if anything is. -/
def directiveFault? (text : List Char) : Option Fault :=
  scanFault? text 0 (Text.skipBlank (Text.skipBlank text).reverse).reverse .start

end Quiescence.LogFilter
