import Quiescence.Document.Decoder
import Quiescence.Toml.Scalar
import Quiescence.Toml.Table

/-! # Reading TOML

A TOML text is read line by line. It either follows the rules to its end and is a map, or it is
malformed as a whole, however much of it could be read.
-/

namespace Quiescence.Toml

/-! ## Values

Two calls in a row read at least one character, so two units of fuel for each character are enough.
`depth` counts the arrays and inline tables around a value. -/

/-- Puts the fields of an inline table together. -/
def inlineTable? (fields : List (List String × String × Doc)) : Option Doc := do
  let entries ← fields.foldlM (fun (entries : Entries) (path, key, doc) =>
    entries.setValue path key doc) []
  return entries.toDoc

mutual

/-- A value. -/
def value? : Nat → Nat → Scan Doc
  | fuel + 1, depth, '[' :: rest =>
    if depth + 1 < depthLimit then do
      let (docs, rest) ← items? fuel (depth + 1) rest
      return (.seq docs, rest)
    else none
  | fuel + 1, depth, '{' :: rest =>
    if depth + 1 < depthLimit then
      match skipSpace rest with
      | '}' :: rest => some (.map [], rest)
      | _ => do
        let (fields, rest) ← fields? fuel (depth + 1) rest
        return (← inlineTable? fields, rest)
    else none
  | _, _, cs => scalar? cs

/-- The items of an array and its closing bracket. A comma may follow the last item. -/
def items? : Nat → Nat → Scan (List Doc)
  | fuel + 1, depth, cs => do
    match ← skipGap false cs with
    | ']' :: rest => return ([], rest)
    | cs =>
      let (doc, rest) ← value? fuel depth cs
      match ← skipGap false rest with
      | ',' :: rest =>
        let (docs, rest) ← items? fuel depth rest
        return (doc :: docs, rest)
      | ']' :: rest => return ([doc], rest)
      | _ => none
  | 0, _, _ => none

/-- The fields of an inline table that is not empty, and its closing brace. -/
def fields? : Nat → Nat → Scan (List (List String × String × Doc))
  | fuel + 1, depth, cs => do
    let ((path, key), rest) ← key? cs
    let rest ← mark? '=' rest
    let (doc, rest) ← value? fuel depth (skipSpace rest)
    match skipSpace rest with
    | ',' :: rest =>
      let (more, rest) ← fields? fuel depth rest
      return ((path, key, doc) :: more, rest)
    | '}' :: rest => return ([(path, key, doc)], rest)
    | _ => none
  | 0, _, _ => none

end

/-! ## Lines -/

/-- Reads a line that gives a value to a key. -/
def assignment? (a : Assembly) (cs : List Char) : Option (Assembly × List Char) := do
  let ((path, key), rest) ← key? cs
  let rest := skipSpace (← mark? '=' rest)
  let (doc, rest) ← value? (2 * rest.length + 1) 0 rest
  return (← a.setValue path key doc, ← endOfLine? rest)

/-- Reads a line that begins a table; the opening bracket has been read. -/
def header? (a : Assembly) (cs : List Char) : Option (Assembly × List Char) :=
  match cs with
  | '[' :: cs => do
    let ((path, key), rest) ← key? cs
    let rest ← (mark? ']' rest).bind (mark? ']')
    return (← a.openElement path key, ← endOfLine? rest)
  | cs => do
    let ((path, key), rest) ← key? cs
    let rest ← mark? ']' rest
    return (← a.openTable path key, ← endOfLine? rest)

/-- Reads the lines that are left; each takes at least one character. -/
def lines? : Nat → Assembly → List Char → Option Entries
  | fuel + 1, a, cs =>
    match skipSpace cs with
    | [] => a.close
    | '[' :: rest => do
      let (a, rest) ← header? a rest
      lines? fuel a rest
    | '#' :: _ | '\n' :: _ | '\r' :: _ => do lines? fuel a (← endOfLine? cs)
    | cs => do
      let (a, rest) ← assignment? a cs
      lines? fuel a rest
  | 0, _, _ => none

/-- Reads a text; a byte-order mark at its beginning does not count. -/
def read? (s : String) : Option Doc :=
  let cs := match s.toList with
    | '\uFEFF' :: rest => rest
    | cs => cs
  (lines? (cs.length + 1) .start cs).map Entries.toDoc

/-- Decodes a text. -/
def decode {α : Type} (decoder : Decoder α) (s : String) : Except DecodeError α :=
  match read? s with
  | some doc => decoder .toml doc
  | none => .error .malformed

end Quiescence.Toml
