import Quiescence.Document.Decoder

/-! # Decoding records

A record is given as a map by field names or as a sequence of its fields in declaration order. In a
map the fields may stand in any order among fields of other names, which are passed over; they are
read in the order of the document, and only then the missing ones are noticed. In a sequence fields
may be left off at the end if they have a default. JSON refuses a sequence with more items than
fields, TOML passes the rest over.

A description of a record is put together from descriptions of its fields in declaration order.
-/

namespace Quiescence

/-- One field of a record: its name, how its value is read, and the value it takes when it is left
out of a map or left off at the end of a sequence, if it may be. -/
structure Field (α : Type) where
  name : String
  decode : Decoder α
  absent : Option α
  leftOff : Option α

namespace Field

/-- A field that must be given. -/
def required {α : Type} (name : String) (decode : Decoder α) : Field α := ⟨name, decode, none, none⟩

/-- A field with a default. -/
def withDefault {α : Type} (name : String) (decode : Decoder α) (value : α) : Field α :=
  ⟨name, decode, some value, some value⟩

/-- A field that may be null, and that counts as null when a map does not have it. -/
def nullable {α : Type} (name : String) (decode : Decoder α) : Field (Option α) :=
  ⟨name, .option decode, some none, none⟩

end Field

/-- How the fields of a record are read. -/
structure Record (α : Type) where
  /-- The names of the fields in declaration order. -/
  names : List String
  /-- Reads the value of a named field and keeps nothing but the error. -/
  check : Format → String → Doc → Except DecodeError Unit
  /-- Puts the record together from the values of the named fields. -/
  ofNames : Format → (String → Option Doc) → Except DecodeError α
  /-- Puts the record together from items, of which the first stands at the given position of a
  sequence for the given shape, and leaves the items that are not needed. -/
  ofItems : Format → String → Nat → List Doc → Except DecodeError (α × List Doc)

namespace Record

/-- The record of a single field. -/
def field {α : Type} (f : Field α) : Record α where
  names := [f.name]
  check format name doc :=
    if name = f.name then (fun _ => ()) <$> f.decode format doc else .ok ()
  ofNames format get :=
    match get f.name, f.absent with
    | some doc, _ => f.decode format doc
    | none, some value => .ok value
    | none, none => .error (.missing f.name)
  ofItems format shape position
    | doc :: rest => do
      let value ← f.decode format doc
      return (value, rest)
    | [] => match f.leftOff with
      | some value => .ok (value, [])
      | none => .error (.wrongLength position shape)

/-- The fields of `r` followed by the fields of `s`. -/
def and {α β : Type} (r : Record α) (s : Record β) : Record (α × β) where
  names := r.names ++ s.names
  check format name doc := do
    r.check format name doc
    s.check format name doc
  ofNames format get := do
    let a ← r.ofNames format get
    let b ← s.ofNames format get
    return (a, b)
  ofItems format shape position docs := do
    let (a, rest) ← r.ofItems format shape position docs
    let (b, rest) ← s.ofItems format shape (position + r.names.length) rest
    return ((a, b), rest)

/-- The same fields, put together by `f`. -/
def map {α β : Type} (f : α → β) (r : Record α) : Record β where
  names := r.names
  check := r.check
  ofNames format get := f <$> r.ofNames format get
  ofItems format shape position docs := do
    let (a, rest) ← r.ofItems format shape position docs
    return (f a, rest)

/-- Reads the fields of a map in order. `seen` holds the names that have been met. -/
def checkFields {α : Type} (r : Record α) (format : Format) :
    List String → List (Doc × Doc) → Except DecodeError Unit
  | _, [] => .ok ()
  | seen, (.str name, value) :: rest =>
    if name ∈ r.names then
      if name ∈ seen then .error (.duplicate name)
      else do
        r.check format name value
        checkFields r format (name :: seen) rest
    else if value.isSkippable then checkFields r format seen rest
    else .error .malformed
  | _, _ :: _ => .error .malformed

/-- What a sequence for a record of this name should look like. -/
def shape {α : Type} (r : Record α) (name : String) : String :=
  "struct " ++ name ++ " with " ++ toString r.names.length
    ++ (if r.names.length = 1 then " element" else " elements")

/-- The decoder of a record; `name` stands for it in messages. -/
def decoder {α : Type} (name : String) (r : Record α) : Decoder α
  | format, .map fields => do
    r.checkFields format [] fields
    r.ofNames format (Doc.field? · fields)
  | format, .datetime => r.ofNames format fun _ => none
  | format, .seq docs => do
    let (value, rest) ← r.ofItems format (r.shape name) 0 docs
    match format, rest with
    | _, [] | .toml, _ => return value
    | .json, _ => .error .malformed
    | .value, _ => .error (.wrongLength docs.length "fewer elements in array")
  | format, doc => Decoder.mismatch ("struct " ++ name) format doc

end Record

end Quiescence
