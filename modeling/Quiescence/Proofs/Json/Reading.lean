import Quiescence.Proofs.Json.Layout

/-! # Reading what was written

Whoever spells a value, however many blanks and escapes are used, is read as the document of that
value, in one piece and with nothing behind it. The tokens of a value bring the reader from any
place where a value may come to the place behind it, whatever is open around it.
-/

namespace Quiescence.Json

namespace Value

mutual

/-- The document of a value. -/
def toDoc : Value → Doc
  | null => .null
  | bool b => .bool b
  | nat n => numeral n
  | str s => .str s
  | arr items => .seq (itemDocs items)
  | obj members => .map (memberDocs members)

/-- The documents of items. -/
def itemDocs : List Value → List Doc
  | [] => []
  | item :: rest => item.toDoc :: itemDocs rest

/-- The documents of members, each under its name. -/
def memberDocs : List (String × Value) → List (Doc × Doc)
  | [] => []
  | (key, value) :: rest => (.str key, value.toDoc) :: memberDocs rest

end

end Value

/-! ## Reading tokens -/

namespace Progress

variable {place : Place} {stack : List Frame}

theorem step_scalar (takes : place.takesValue) (doc : Doc) :
    step (expecting place stack) (.scalar doc) = put doc stack := by
  simp [step, takes]

theorem step_text (takes : place.takesValue) (s : String) :
    step (expecting place stack) (.text (some s)) = put (.str s) stack := by
  simp [step, takes, textDoc]

theorem step_openArray (takes : place.takesValue) :
    step (expecting place stack) .openArray = expecting .firstItem (.array [] :: stack) := by
  simp [step, enter, takes]

theorem step_openObject (takes : place.takesValue) :
    step (expecting place stack) .openObject = expecting .firstKey (.object [] :: stack) := by
  simp [step, enter, takes]

/-- Behind an item stands a comma or the end, at the start of an array an item or the end. -/
theorem step_closeArray (first : Bool) (done : List Doc) :
    step (expecting (if first then .firstItem else .next) (.array done :: stack)) .closeArray =
      put (.seq done.reverse) stack := by
  cases first <;> rfl

theorem step_closeObject (first : Bool) (done : List (Doc × Doc)) :
    step (expecting (if first then .firstKey else .next) (.object done :: stack)) .closeObject =
      put (.map done.reverse) stack := by
  cases first <;> rfl

/-- The comma that is due before an item leads to a place where the item may stand. -/
theorem foldl_itemComma (first : Bool) (done : List Doc) :
    ∃ place : Place, place.takesValue ∧
      (if first then [] else [Token.comma]).foldl step
          (expecting (if first then .firstItem else .next) (.array done :: stack)) =
        expecting place (.array done :: stack) := by
  cases first with
  | true => exact ⟨.firstItem, rfl, rfl⟩
  | false => exact ⟨.value, rfl, rfl⟩

/-- The comma that is due before a member, its name and the colon lead to a place where the value
may stand. -/
theorem foldl_memberKey (first : Bool) (done : List (Doc × Doc)) (key : String) :
    ((if first then [] else [Token.comma]) ++ [Token.text (some key), .colon]).foldl step
        (expecting (if first then .firstKey else .next) (.object done :: stack)) =
      expecting .value (.member done (.str key) :: stack) := by
  cases first <;> rfl

open Value

mutual

/-- The tokens of a value put its document where a value may come. -/
theorem foldl_tokens {place : Place} (v : Value) (takes : place.takesValue) (stack : List Frame) :
    v.tokens.foldl step (expecting place stack) = put v.toDoc stack := by
  cases v with
  | null => exact step_scalar takes .null
  | bool b => exact step_scalar takes (.bool b)
  | nat n => exact step_scalar takes (numeral n)
  | str s => exact step_text takes s
  | arr items =>
    rw [Value.tokens, List.foldl_cons, step_openArray takes]
    exact foldl_itemTokens true items [] stack
  | obj members =>
    rw [Value.tokens, List.foldl_cons, step_openObject takes]
    exact foldl_memberTokens true members [] stack

/-- Items and the end of their array put the array where it belongs. -/
theorem foldl_itemTokens (first : Bool) (items : List Value) (done : List Doc)
    (stack : List Frame) :
    (itemTokens first items ++ [Token.closeArray]).foldl step
        (expecting (if first then .firstItem else .next) (.array done :: stack)) =
      put (.seq (done.reverse ++ itemDocs items)) stack := by
  cases items with
  | nil => rw [itemTokens, itemDocs, List.append_nil]; exact step_closeArray first done
  | cons item items =>
    have later := foldl_itemTokens false items (item.toDoc :: done) stack
    obtain ⟨place, takes, reached⟩ := @foldl_itemComma stack first done
    rw [itemTokens, List.append_assoc, List.append_assoc, List.foldl_append, reached,
      List.foldl_append, foldl_tokens item takes]
    simpa [put, itemDocs] using later

/-- Members and the end of their object put the object where it belongs. -/
theorem foldl_memberTokens (first : Bool) (members : List (String × Value))
    (done : List (Doc × Doc)) (stack : List Frame) :
    (memberTokens first members ++ [Token.closeObject]).foldl step
        (expecting (if first then .firstKey else .next) (.object done :: stack)) =
      put (.map (done.reverse ++ memberDocs members)) stack := by
  cases members with
  | nil => rw [memberTokens, memberDocs, List.append_nil]; exact step_closeObject first done
  | cons member members =>
    obtain ⟨key, value⟩ := member
    have later := foldl_memberTokens false members ((.str key, value.toDoc) :: done) stack
    have split : memberTokens first ((key, value) :: members) ++ [Token.closeObject] =
        ((if first then [] else [Token.comma]) ++ [Token.text (some key), .colon]) ++
          (value.tokens ++ (memberTokens false members ++ [.closeObject])) := by
      simp [memberTokens]
    rw [split, List.foldl_append, foldl_memberKey, List.foldl_append, foldl_tokens value rfl]
    simpa [put, memberDocs] using later

end

end Progress

/-- Whatever text spells a value is read as its document, and as nothing more. -/
theorem Value.SpelledBy.read {v : Value} {text : String} (spelled : v.SpelledBy text) :
    read text = ⟨v.toDoc, true⟩ := by
  rw [Json.read, Written.tokens spelled, Progress.foldl_tokens v rfl]
  rfl

/-- Whatever text spells a value is decoded as its document is. -/
theorem Value.SpelledBy.decode {v : Value} {text : String} (spelled : v.SpelledBy text) {α : Type}
    (decoder : Decoder α) : decode decoder text = decoder .json v.toDoc := by
  rw [Json.decode, spelled.read]
  cases decoder .json v.toDoc <;> rfl

end Quiescence.Json
