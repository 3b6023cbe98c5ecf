import Quiescence.Decimal.Shortest
import Quiescence.Text.Quoted

/-! # Documents

A document is what a text in some format says, before anything is known about what it is meant to
say. Two formats are read: JSON and TOML. A document may be defective: a JSON text is decoded from
left to right, and what was read before an error in the text still counts, so the place of the error
is part of the document. An `unreadable` document stands where the text could not be understood, and
nothing follows it. An `unrepresentable` one was understood but has no value, such as a number that
is too large; it does no harm as long as nobody asks for it. JSON may also be at hand as a value,
which was read as a whole before anything in it was decoded.
-/

namespace Quiescence

/-- Where documents come from. -/
inductive Format where
  /-- A JSON text, which is decoded while it is read. -/
  | json
  /-- A JSON value, which has been read before. -/
  | value
  /-- A TOML text. -/
  | toml
deriving DecidableEq

/-- What a text says. The fields of a map stand in the order of the text; their keys are texts
wherever the document is sound. -/
inductive Doc where
  | null
  | bool (value : Bool)
  | int (value : Int)
  | float (value : Decimal.Binary64)
  | str (value : String)
  | seq (items : List Doc)
  | map (fields : List (Doc × Doc))
  | datetime
  | unrepresentable
  | unreadable
deriving Inhabited

namespace Doc

mutual

/-- Whether a document can be passed over: nothing in it is unreadable. -/
def isSkippable : Doc → Bool
  | seq items => areSkippable items
  | map fields => areFieldsSkippable fields
  | unreadable => false
  | null | bool _ | int _ | float _ | str _ | datetime | unrepresentable => true

/-- Whether all documents of a list can be passed over. -/
def areSkippable : List Doc → Bool
  | [] => true
  | item :: rest => item.isSkippable && areSkippable rest

/-- Whether all keys and values of a list of fields can be passed over. -/
def areFieldsSkippable : List (Doc × Doc) → Bool
  | [] => true
  | (key, value) :: rest => key.isSkippable && value.isSkippable && areFieldsSkippable rest

end

/-- The value of the first field with this key. -/
def field? (name : String) : List (Doc × Doc) → Option Doc
  | [] => none
  | (.str key, value) :: rest => if key = name then some value else field? name rest
  | _ :: rest => field? name rest

/-- How a message writes a number. -/
def floatStyle : Format → Decimal.Style
  | .json | .value => ⟨.toEven, Decimal.Scientific.compact⟩
  | .toml => ⟨.up, Decimal.Scientific.positional⟩

/-- What a message says was found. -/
def described (format : Format) : Doc → String
  | null => "null"
  | bool b => "boolean `" ++ toString b ++ "`"
  | int i => "integer `" ++ toString i ++ "`"
  | float x => "floating point `" ++ x.text (floatStyle format) ++ "`"
  | str s => "string " ++ Text.quoted s
  | seq _ => "sequence"
  | map _ | datetime => "map"
  | unrepresentable | unreadable => "nothing"

end Doc

end Quiescence
