import Quiescence.Document

/-! # Decoding documents

A decoder reads a value of some type from a document, or says why there is none. The first error in
the order of the document counts.
-/

namespace Quiescence

/-- Why a document has no value of the wanted type. -/
inductive DecodeError where
  /-- The text breaks the rules of its format. -/
  | malformed
  | wrongType (found expected : String)
  | wrongValue (found expected : String)
  | wrongLength (found : Nat) (expected : String)
  | missing (field : String)
  | duplicate (field : String)
  | unknownVariant (found : String) (known : List String)
deriving DecidableEq

/-- A name in a message. -/
def ticked (name : String) : String := "`" ++ name ++ "`"

/-- The wording of an error. A malformed text is reported without words of ours. -/
def DecodeError.message : DecodeError → Option String
  | malformed => none
  | wrongType found expected => some ("invalid type: " ++ found ++ ", expected " ++ expected)
  | wrongValue found expected => some ("invalid value: " ++ found ++ ", expected " ++ expected)
  | wrongLength found expected =>
    some ("invalid length " ++ toString found ++ ", expected " ++ expected)
  | missing field => some ("missing field " ++ ticked field)
  | duplicate field => some ("duplicate field " ++ ticked field)
  | unknownVariant found known =>
    some ("unknown variant " ++ ticked found ++ ", expected one of "
      ++ ", ".intercalate (known.map ticked))

/-- How to read a value of type `α` from a document of either format. -/
abbrev Decoder (α : Type) := Format → Doc → Except DecodeError α

namespace Decoder

/-- Refuses a document that is not of the expected type. -/
def mismatch {α : Type} (expected : String) : Decoder α := fun format doc =>
  match doc with
  | .unrepresentable | .unreadable => .error .malformed
  | doc => .error (.wrongType (doc.described format) expected)

/-- A natural number; `expected` names its type in messages. -/
def natural (expected : String) : Decoder Nat
  | _, .int (.ofNat n) => .ok n
  | format, .int (.negSucc n) =>
    .error (.wrongValue ((Doc.int (.negSucc n)).described format) expected)
  | format, doc => mismatch expected format doc

/-- A text. -/
def string : Decoder String
  | _, .str s => .ok s
  | format, doc => mismatch "a string" format doc

/-- A truth value. -/
def bool : Decoder Bool
  | _, .bool b => .ok b
  | format, doc => mismatch "a boolean" format doc

/-- A value that may be null. -/
def option {α : Type} (decode : Decoder α) : Decoder (Option α)
  | _, .null => .ok none
  | format, doc => some <$> decode format doc

/-- Decodes the items of a list in order. -/
def items {α : Type} (decode : Decoder α) (format : Format) : List Doc → Except DecodeError (List α)
  | [] => .ok []
  | item :: rest => do
    let value ← decode format item
    let values ← items decode format rest
    return value :: values

/-- A list, whose items are decoded in order. -/
def list {α : Type} (decode : Decoder α) : Decoder (List α)
  | format, .seq docs => items decode format docs
  | format, doc => mismatch "a sequence" format doc

/-! ## Enumerations

A member of an enumeration is given by its name, or by a map whose only key is the name. The value
under that key must say nothing: null in JSON, an empty table or array in TOML. -/

/-- The member of this name. -/
def variant {α : Type} (known : List String) (ofName? : String → Option α) (name : String) :
    Except DecodeError α :=
  match ofName? name with
  | some value => .ok value
  | none => .error (.unknownVariant name known)

/-- The member that is the first key of a map in a JSON text. -/
def jsonVariantMap {α : Type} (known : List String) (ofName? : String → Option α) :
    List (Doc × Doc) → Except DecodeError α
  | [] => .error .malformed
  | (key, content) :: rest => do
    let value ← match key with
      | .str name => variant known ofName? name
      | _ => .error .malformed
    match content with
    | .null => if rest.isEmpty then .ok value else .error .malformed
    | content => mismatch "unit" .json content

/-- The member that is the only key of a map in a JSON value. -/
def valueVariantMap {α : Type} (known : List String) (ofName? : String → Option α) :
    List (Doc × Doc) → Except DecodeError α
  | [(.str name, content)] => do
    let value ← variant known ofName? name
    match content with
    | .null => return value
    | content => mismatch "unit" .value content
  | _ => .error (.wrongValue "map" "map with a single key")

/-- The member that is the only key of a TOML table. -/
def tomlVariantMap {α : Type} (known : List String) (ofName? : String → Option α) :
    List (Doc × Doc) → Except DecodeError α
  | [(.str name, content)] => do
    let value ← variant known ofName? name
    match content with
    | .map [] | .seq [] => .ok value
    | _ => .error .malformed
  | _ => .error .malformed

/-- A member of an enumeration. -/
def enum {α : Type} (known : List String) (ofName? : String → Option α) : Decoder α
  | _, .str name => variant known ofName? name
  | .json, .map fields => jsonVariantMap known ofName? fields
  | .value, .map fields => valueVariantMap known ofName? fields
  | .toml, .map fields => tomlVariantMap known ofName? fields
  | .value, doc => mismatch "string or map" .value doc
  | .json, _ | .toml, _ => .error .malformed

end Decoder

end Quiescence
