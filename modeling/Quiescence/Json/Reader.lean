import Quiescence.Document.Decoder
import Quiescence.Json.Token

/-! # Reading JSON

A JSON text is read token by token, with the containers that are still open kept on a stack. Where
the text breaks the rules, the open containers are closed around an unreadable document, so that
what was read before is kept.
-/

namespace Quiescence.Json

/-- A container that is still open, with its contents in reverse. -/
inductive Frame where
  | array (items : List Doc)
  | object (fields : List (Doc × Doc))
  /-- An object whose last key still has no value. -/
  | member (fields : List (Doc × Doc)) (key : Doc)

/-- What may come next. -/
inductive Place where
  /-- A value. -/
  | value
  /-- A value or the end of the array. -/
  | firstItem
  /-- A key. -/
  | key
  /-- A key or the end of the object. -/
  | firstKey
  | colon
  /-- A comma or the end of the container. -/
  | next
deriving DecidableEq

/-- Whether a value may come. -/
def Place.takesValue (p : Place) : Bool := p = value || p = firstItem

/-- Whether a key may come. -/
def Place.takesKey (p : Place) : Bool := p = key || p = firstKey

/-- How far a text has been read. -/
inductive Progress where
  /-- Something must follow. -/
  | expecting (place : Place) (stack : List Frame)
  /-- The document is complete. -/
  | finished (doc : Doc)
  /-- The rules are broken at the end of this document or behind it. -/
  | stopped (doc : Doc)

namespace Progress

/-- Closes every open container around `doc`. -/
def enclose (doc : Doc) : List Frame → Doc
  | [] => doc
  | .array items :: stack => enclose (.seq (doc :: items).reverse) stack
  | .object fields :: stack => enclose (.map ((doc, .unreadable) :: fields).reverse) stack
  | .member fields key :: stack => enclose (.map ((key, doc) :: fields).reverse) stack

/-- Gives the text up at a document that may not stand where it stands. -/
def stopAt (doc : Doc) (stack : List Frame) : Progress := stopped (enclose doc stack)

/-- Gives the text up at something that is no document. -/
def stop (stack : List Frame) : Progress := stopAt .unreadable stack

/-- Puts a finished value where it belongs. -/
def put (doc : Doc) : List Frame → Progress
  | [] => finished doc
  | .array items :: stack => expecting .next (.array (doc :: items) :: stack)
  | .member fields key :: stack => expecting .next (.object ((key, doc) :: fields) :: stack)
  | .object fields :: stack => stop (.object fields :: stack)

/-- Puts a key into the object that is open. -/
def putKey (doc : Doc) : List Frame → Progress
  | .object fields :: stack => expecting .colon (.member fields doc :: stack)
  | stack => stop stack

/-- The document of a text between quotes. -/
def textDoc : Option String → Doc
  | some s => .str s
  | none => .unrepresentable

/-- Opens a container where a value may come. A container cannot be a key. -/
def enter (place first : Place) (frame : Frame) (empty : Doc) (stack : List Frame) : Progress :=
  if place.takesValue then expecting first (frame :: stack)
  else if place.takesKey then stopAt empty stack
  else stop stack

/-- Takes in one more token. -/
def step : Progress → Token → Progress
  | finished doc, _ => stopped doc
  | stopped doc, _ => stopped doc
  | expecting place stack, token =>
    match token with
    | .text s =>
      if place.takesValue then put (textDoc s) stack
      else if place.takesKey then putKey (textDoc s) stack
      else stop stack
    | .scalar doc =>
      if place.takesValue then put doc stack
      else if place.takesKey then stopAt doc stack
      else stop stack
    | .openArray => enter place .firstItem (.array []) (.seq []) stack
    | .openObject => enter place .firstKey (.object []) (.map []) stack
    | .closeArray => match place, stack with
      | .firstItem, .array items :: outer | .next, .array items :: outer =>
        put (.seq items.reverse) outer
      | _, _ => stop stack
    | .closeObject => match place, stack with
      | .firstKey, .object fields :: outer | .next, .object fields :: outer =>
        put (.map fields.reverse) outer
      | _, _ => stop stack
    | .comma => match place, stack with
      | .next, .array _ :: _ => expecting .value stack
      | .next, .object _ :: _ => expecting .key stack
      | _, _ => stop stack
    | .colon => if place = .colon then expecting .value stack else stop stack
    | .bad => stop stack

end Progress

/-- A text that has been read: its document, and whether the text holds nothing else. -/
structure Reading where
  doc : Doc
  complete : Bool

/-- What has been read when the text ends. -/
def Progress.toReading : Progress → Reading
  | expecting _ stack => ⟨enclose .unreadable stack, false⟩
  | finished doc => ⟨doc, true⟩
  | stopped doc => ⟨doc, false⟩

/-- Reads a text. -/
def read (s : String) : Reading :=
  ((tokens s).foldl Progress.step (.expecting .value [])).toReading

/-- Decodes a text. An error of the decoder comes before anything that follows the document. -/
def decode {α : Type} (decoder : Decoder α) (s : String) : Except DecodeError α := do
  let reading := read s
  let value ← decoder .json reading.doc
  if reading.complete then return value else throw .malformed

end Quiescence.Json
