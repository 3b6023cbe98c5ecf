import Quiescence.Pattern
import Quiescence.Text.Alphanumeric
import Quiescence.Text.Blank
import Quiescence.Text.Digits

/-! # Reading patterns

A pattern is read from left to right. Under the flag `x` white space and comments stand for nothing,
which is what `loose` says below. Braces are no part of the patterns read here: counted repetitions
are refused, and so is every escape that uses braces.
-/

namespace Quiescence.Pattern

/-! ## Space -/

/-- What follows white space and comments; `inComment` says that a comment has begun. -/
def skipSpace (inComment : Bool) : List Char → List Char
  | [] => []
  | c :: rest =>
    if inComment then skipSpace (c != '\n') rest
    else if Text.isBlank c then skipSpace false rest
    else if c = '#' then skipSpace true rest
    else c :: rest

/-- What follows everything that stands for nothing. -/
def skip (loose : Bool) (cs : List Char) : List Char := if loose then skipSpace false cs else cs

/-- The next character that may stand for something: white space and one number sign are passed
over. -/
def peek (loose : Bool) (cs : List Char) : Option Char :=
  if loose then
    match cs.dropWhile Text.isBlank with
    | '#' :: rest => (rest.dropWhile Text.isBlank).head?
    | rest => rest.head?
  else cs.head?

/-! ## Escapes -/

/-- The characters that mean something in a pattern. -/
def marks : List Char := "\\.+*?()|[]\x7b\x7d^$#&-~".toList

/-- Whether a backslash before the character makes it stand for itself. -/
def standsForItself (c : Char) : Bool :=
  marks.contains c || (c.toNat < 0x80 && !c.isAlphanum && c != '<' && c != '>')

/-- The character that an escape by one letter stands for. -/
def control? (c : Char) : Option Char :=
  if c = 'a' then some '\x07'
  else if c = 'f' then some '\x0c'
  else if c = 't' then some '\t'
  else if c = 'n' then some '\n'
  else if c = 'r' then some '\r'
  else if c = 'v' then some '\x0b'
  else none

/-- The number of `width` digits to base sixteen, after the number `n` of the digits before them. -/
def hexDigits? (loose : Bool) : Nat → Nat → List Char → Option (Nat × List Char)
  | 0, n, cs => some (n, cs)
  | width + 1, n, c :: rest => do
    let digit ← Text.hexValue? c
    hexDigits? loose width (n * 16 + digit) (skip loose rest)
  | _ + 1, _, [] => none

/-- The character whose code point has `width` digits. -/
def hexLiteral? (loose : Bool) (width : Nat) (cs : List Char) : Option (Atom × List Char) := do
  let (n, rest) ← hexDigits? loose width 0 (skip loose cs)
  if n.isValidChar then some (.literal (Char.ofNat n) (width = 2), rest) else none

/-- What an escape stands for; the backslash has been read. Classes by a property of characters are
refused here, since the properties are not at hand. -/
def escape? (loose : Bool) : List Char → Option (Atom × List Char)
  | 'x' :: rest => hexLiteral? loose 2 rest
  | 'u' :: rest => hexLiteral? loose 4 rest
  | 'U' :: rest => hexLiteral? loose 8 rest
  | 'd' :: rest | 's' :: rest | 'w' :: rest => some (.family false, rest)
  | 'D' :: rest | 'S' :: rest | 'W' :: rest => some (.family true, rest)
  | 'A' :: rest | 'z' :: rest => some (.edge false, rest)
  | 'b' :: rest | 'B' :: rest | '<' :: rest | '>' :: rest => some (.edge true, rest)
  | c :: rest =>
    if standsForItself c then some (.literal c false, rest)
    else (control? c).map fun c => (.literal c false, rest)
  | [] => none

/-! ## Sets of characters -/

/-- The names of the classes of ASCII characters. -/
def classNames : List (List Char) :=
  ["alnum", "alpha", "ascii", "blank", "cntrl", "digit", "graph", "lower", "print", "punct",
    "space", "upper", "word", "xdigit"].map String.toList

/-- A class by its name, with whether it is negated; the opening bracket has been read. -/
def named? : List Char → Option (Bool × List Char)
  | ':' :: rest =>
    let (negated, rest) := match rest with
      | '^' :: rest => (true, rest)
      | rest => (false, rest)
    match rest.dropWhile (· != ':') with
    | ':' :: ']' :: after =>
      if classNames.contains (rest.takeWhile (· != ':')) then some (negated, after) else none
    | _ => none
  | _ => none

/-- The hyphens at the front of a set, at most `fuel` of them: they stand for themselves. -/
def hyphens (loose : Bool) : Nat → List Char → List CharSet × List Char
  | fuel + 1, '-' :: rest =>
    let (more, rest) := hyphens loose fuel (skip loose rest)
    (.one '-' :: more, rest)
  | _, cs => ([], cs)

/-- Whether a set is negated, and the items at its front that stand for themselves only there; the
opening bracket has been read. -/
def opening (loose : Bool) (cs : List Char) : Bool × List CharSet × List Char :=
  let (negated, cs) := match skip loose cs with
    | '^' :: rest => (true, skip loose rest)
    | cs => (false, cs)
  match hyphens loose cs.length cs with
  | ([], ']' :: rest) => (negated, [.one ']'], rest)
  | (items, rest) => (negated, items, rest)

/-- A character or an escape in a set. -/
def member? (loose : Bool) : List Char → Option (Atom × List Char)
  | '\\' :: rest => escape? loose rest
  | c :: rest => some (.literal c false, rest)
  | [] => none

/-- The set of what an atom stands for, if it is a character or a class. -/
def CharSet.ofAtom? : Atom → Option CharSet
  | .literal c _ => some (one c)
  | .family negated => some (family negated)
  | .dot | .edge _ => none

/-- A character, a class, or a range of characters. A hyphen makes a range unless a bracket or
another hyphen follows it. -/
def item? (loose : Bool) (cs : List Char) : Option (CharSet × List Char) := do
  let (first, rest) ← member? loose cs
  match skip loose rest with
  | '-' :: after =>
    if peek loose after = some ']' ∨ peek loose after = some '-' then
      return (← CharSet.ofAtom? first, '-' :: after)
    else
      let (last, rest) ← member? loose (skip loose after)
      match first, last with
      | .literal low _, .literal high _ =>
        if low ≤ high then return (.range low high, rest) else none
      | _, _ => none
  | rest => return (← CharSet.ofAtom? first, rest)

/-- The set of the items, given in reverse, combined with the set before the last operator. -/
def combine (left : Option (SetOp × CharSet)) (items : List CharSet) : CharSet :=
  match left with
  | some (op, left) => .combined op left (.ofItems items.reverse)
  | none => .ofItems items.reverse

/-- A set up to its closing bracket, after some of its items. Each call reads at least one
character. -/
def set? (loose : Bool) : Nat → Option (SetOp × CharSet) → List CharSet → List Char →
    Option (CharSet × List Char)
  | 0, _, _, _ => none
  | fuel + 1, left, items, cs =>
    match skip loose cs with
    | [] => none
    | ']' :: rest => some (combine left items, rest)
    | '&' :: '&' :: rest => set? loose fuel (some (.intersection, combine left items)) [] rest
    | '-' :: '-' :: rest => set? loose fuel (some (.difference, combine left items)) [] rest
    | '~' :: '~' :: rest =>
      set? loose fuel (some (.symmetricDifference, combine left items)) [] rest
    | '[' :: rest =>
      match named? rest with
      | some (negated, rest) => set? loose fuel left (.named negated :: items) rest
      | none =>
        let (negated, first, rest) := opening loose rest
        match set? loose fuel none first.reverse rest with
        | some (inner, rest) => set? loose fuel left (.nested negated inner :: items) rest
        | none => none
    | cs =>
      match item? loose cs with
      | some (item, rest) => set? loose fuel left (item :: items) rest
      | none => none

/-! ## Groups -/

/-- The flags up to a colon or a closing parenthesis, which is given back. `negated` says that a
hyphen has been read, and `dangling` that nothing has been read since. -/
def flags? (negated dangling : Bool) (flags : Flags) :
    List Char → Option (Flags × Char × List Char)
  | [] => none
  | c :: rest =>
    if c = ':' ∨ c = ')' then if dangling then none else some (flags.reverse, c, rest)
    else if c = '-' then if negated then none else flags? true true flags rest
    else
      match Flag.all.find? (·.letter == c) with
      | some flag =>
        if (flags.lookup flag).isSome then none
        else flags? negated false ((flag, !negated) :: flags) rest
      | none => none

/-- Whether the characters may be the name of a group. -/
def isName : List Char → Bool
  | [] => false
  | c :: rest =>
    (c = '_' || Text.isAlphabetic c) &&
      rest.all fun c => c = '_' || c = '.' || c = '[' || c = ']' || Text.isAlphanumeric c

/-- What an opening parenthesis begins. -/
inductive Opening where
  /-- Flags for what follows; the closing parenthesis has been read. -/
  | flags (f : Flags)
  | group (f : Flags)
  | namedGroup (name : List Char)

/-- What an opening parenthesis begins; the parenthesis has been read. -/
def groupOpening? : List Char → Option (Opening × List Char)
  | '?' :: 'P' :: '<' :: rest | '?' :: '<' :: rest =>
    let name := rest.takeWhile (· != '>')
    match rest.dropWhile (· != '>') with
    | _ :: after => if isName name then some (.namedGroup name, after) else none
    | [] => none
  | '?' :: rest =>
    match flags? false false [] rest with
    | some (f, ':', rest) => some (.group f, rest)
    | some ([], _, _) => none
    | some (f, _, rest) => some (.flags f, rest)
    | none => none
  | rest => some (.group [], rest)

/-! ## Patterns -/

/-- What follows the question mark that makes a repetition lazy. -/
def skipLazy : List Char → List Char
  | '?' :: rest => rest
  | rest => rest

/-- A character, an assertion, or an escape. -/
def atom? (loose : Bool) : List Char → Option (Atom × List Char)
  | '\\' :: rest => escape? loose rest
  | '.' :: rest => some (.dot, rest)
  | '^' :: rest | '$' :: rest => some (.edge false, rest)
  | c :: rest => some (.literal c false, rest)
  | [] => none

/-- The names of the groups that have been read, the pattern, and what follows it. -/
abbrev Branches := List (List Char) × Node × List Char

/-- A pattern up to its end, or in a group up to the closing parenthesis. `done` holds the branches
that are complete and `parts` the parts of the present one, both in reverse; no two groups have the
same name. Each call reads at least one character. -/
def branches? : Nat → (loose inGroup : Bool) → (names : List (List Char)) →
    (done parts : List Node) → List Char → Option Branches
  | 0, _, _, _, _, _, _ => none
  | fuel + 1, loose, inGroup, names, done, parts, cs =>
    let branch := Node.ofParts parts.reverse
    let whole := Node.ofBranches (branch :: done).reverse
    match skip loose cs with
    | [] => if inGroup then none else some (names, whole, [])
    | ')' :: rest => if inGroup then some (names, whole, rest) else none
    | '|' :: rest => branches? fuel loose inGroup names (branch :: done) [] rest
    | '(' :: rest =>
      match groupOpening? (skip loose rest) with
      | some (.flags f, rest) =>
        branches? fuel (f.state .ignoreSpace loose) inGroup names done (.flags f :: parts) rest
      | some (.group f, rest) =>
        match branches? fuel (f.state .ignoreSpace loose) true names [] [] rest with
        | some (names, inner, rest) =>
          branches? fuel loose inGroup names done (.group f inner :: parts) rest
        | none => none
      | some (.namedGroup name, rest) =>
        if name ∈ names then none
        else
          match branches? fuel loose true (name :: names) [] [] rest with
          | some (names, inner, rest) =>
            branches? fuel loose inGroup names done (.group [] inner :: parts) rest
          | none => none
      | none => none
    | '[' :: rest =>
      let (negated, first, rest) := opening loose rest
      match set? loose (rest.length + 1) none first.reverse rest with
      | some (inner, rest) =>
        branches? fuel loose inGroup names done (.set negated inner :: parts) rest
      | none => none
    | '?' :: rest | '*' :: rest | '+' :: rest =>
      match parts with
      | [] | .flags _ :: _ => none
      | last :: before =>
        branches? fuel loose inGroup names done (.repeated last :: before) (skipLazy rest)
    | '\x7b' :: _ => none
    | cs =>
      match atom? loose cs with
      | some (a, rest) => branches? fuel loose inGroup names done (.atom a :: parts) rest
      | none => none

/-- Reads a whole text as a pattern. -/
def read? (cs : List Char) : Option Node := do
  let (_, node, _) ← branches? (cs.length + 1) false false [] [] [] cs
  if node.depth ≤ Node.depthLimit then return node else none

end Quiescence.Pattern
