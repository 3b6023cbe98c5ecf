import Quiescence.Proofs.Json.Grammar

/-! # The two layouts

A value has one sequence of tokens, and both layouts of the writer spell it: every text is closed by
its own quote, whatever its characters, and every number ends where the next token begins. The
layout on several lines becomes the compact one when the white space outside the quotes is removed.
-/

namespace Quiescence.Json

/-! ## Tokens of a value -/

namespace Value

mutual

/-- The tokens that stand for the value. -/
def tokens : Value → List Token
  | null => [.scalar .null]
  | bool b => [.scalar (.bool b)]
  | nat n => [.scalar (numeral n)]
  | str s => [.text (some s)]
  | arr items => .openArray :: (itemTokens true items ++ [.closeArray])
  | obj members => .openObject :: (memberTokens true members ++ [.closeObject])

/-- The tokens of items, with a comma before each but the first. -/
def itemTokens (first : Bool) : List Value → List Token
  | [] => []
  | item :: rest => (if first then [] else [.comma]) ++ item.tokens ++ itemTokens false rest

/-- The tokens of members, with a comma before each but the first. -/
def memberTokens (first : Bool) : List (String × Value) → List Token
  | [] => []
  | (key, value) :: rest =>
    (if first then [] else [.comma]) ++ .text (some key) :: .colon :: value.tokens
      ++ memberTokens false rest

end

/-- A text is JSON for a value if it spells the tokens of the value. -/
def SpelledBy (v : Value) (text : String) : Prop := Written v.tokens text.toList

end Value

/-! ## What the writer spells -/

variable {ts : List Token} {rest : List Char}

theorem hex4?_control :
    ∀ n < 0x20, hex4? '0' '0' (hexDigit (n / 16)) (hexDigit (n % 16)) = some n := by
  decide

/-- The writer writes a character in one of the ways that the grammar has. -/
theorem letter_escapeChar (c : Char) : Letter c (escapeChar c) := by
  unfold escapeChar
  split_ifs with quote slash backspace tab newline formFeed carriageReturn control
  · exact .short (by rw [quote]; rfl)
  · exact .short (by rw [slash]; rfl)
  · exact .short (by rw [backspace]; rfl)
  · exact .short (by rw [tab]; rfl)
  · exact .short (by rw [newline]; rfl)
  · exact .short (by rw [formFeed]; rfl)
  · exact .short (by rw [carriageReturn]; rfl)
  · exact .unit (hex4?_control _ control)
  · exact .plain (Nat.le_of_not_lt control) quote slash

theorem letters_escape (cs : List Char) : Letters cs (cs.flatMap escapeChar) := by
  induction cs with
  | nil => exact .nil
  | cons c cs ih => exact .cons (letter_escapeChar c) ih

theorem Written.quote (s : String) (written : Written ts rest) :
    Written (.text (some s) :: ts) (quote s ++ rest) := by
  have spells := Spells.text (letters_escape s.toList)
  rw [String.ofList_toList] at spells
  exact .token spells written

theorem Written.newline (level : Nat) (written : Written ts rest) :
    Written ts (Value.newline level ++ rest) := by
  refine .space rfl ?_
  induction 2 * level with
  | zero => exact written
  | succ n ih => exact .space rfl ih

theorem Written.comma (first : Bool) (written : Written ts rest) :
    Written ((if first then [] else [.comma]) ++ ts) ((if first then [] else [',']) ++ rest) := by
  cases first with
  | true => exact written
  | false => exact .token .comma written

theorem ends_nil : Ends [] := by
  simp [Ends]

theorem ends_bracket : Ends (']' :: rest) := by
  simp [Ends]

theorem ends_brace : Ends ('}' :: rest) := by
  simp [Ends]

theorem ends_newline (level : Nat) : Ends (Value.newline level ++ rest) := by
  simp [Ends, Value.newline]

namespace Value

/-- A comma ends a number. -/
theorem ends_append {front : List Char} (comma : ∀ c ∈ front.head?, c = ',') (ends : Ends rest) :
    Ends (front ++ rest) := by
  cases front with
  | nil => exact ends
  | cons c front => simp [comma c rfl, Ends]

mutual

/-- In front of any text that does not go on with a number, the compact layout adds the tokens of
its value. -/
theorem written_compact {ts : List Token} {rest : List Char} (v : Value) (ends : Ends rest)
    (written : Written ts rest) : Written (v.tokens ++ ts) (v.compactChars ++ rest) := by
  cases v with
  | null => exact .token .null written
  | bool b => cases b with
    | true => exact .token .isTrue written
    | false => exact .token .isFalse written
  | nat n => exact .number n ends written
  | str s => exact written.quote s
  | arr items =>
    have inner := written_compactItems true items ends_bracket (.token .closeArray written)
    simpa [tokens, compactChars] using Written.token .openArray inner
  | obj members =>
    have inner := written_compactMembers true members ends_brace (.token .closeObject written)
    simpa [tokens, compactChars] using Written.token .openObject inner

theorem written_compactItems {ts : List Token} {rest : List Char} (first : Bool)
    (items : List Value) (ends : Ends rest) (written : Written ts rest) :
    Written (itemTokens first items ++ ts) (compactItems first items ++ rest) := by
  cases items with
  | nil => exact written
  | cons item items =>
    have later := written_compactItems false items ends written
    have comma : ∀ c ∈ (compactItems false items).head?, c = ',' := by
      cases items <;> simp [compactItems]
    have here := written_compact item (ends_append comma ends) later
    simpa [itemTokens, compactItems] using here.comma first

theorem written_compactMembers {ts : List Token} {rest : List Char} (first : Bool)
    (members : List (String × Value)) (ends : Ends rest) (written : Written ts rest) :
    Written (memberTokens first members ++ ts) (compactMembers first members ++ rest) := by
  cases members with
  | nil => exact written
  | cons member members =>
    obtain ⟨key, value⟩ := member
    have later := written_compactMembers false members ends written
    have comma : ∀ c ∈ (compactMembers false members).head?, c = ',' := by
      cases members <;> simp [compactMembers]
    have here := written_compact value (ends_append comma ends) later
    have colon := Written.token .colon here
    simpa [memberTokens, compactMembers] using (colon.quote key).comma first

end

mutual

/-- The layout on several lines adds the same tokens. -/
theorem written_pretty {ts : List Token} {rest : List Char} (level : Nat) (v : Value)
    (ends : Ends rest) (written : Written ts rest) :
    Written (v.tokens ++ ts) (v.prettyChars level ++ rest) := by
  cases v with
  | null => exact .token .null written
  | bool b => cases b with
    | true => exact .token .isTrue written
    | false => exact .token .isFalse written
  | nat n => exact .number n ends written
  | str s => exact written.quote s
  | arr items =>
    have close := Written.token .closeArray written
    cases items with
    | nil =>
      simpa [tokens, itemTokens, prettyChars] using Written.token .openArray close
    | cons item items =>
      have inner := written_prettyItems (level + 1) true (item :: items) (ends_newline level)
        (close.newline level)
      simpa [tokens, prettyChars] using Written.token .openArray inner
  | obj members =>
    have close := Written.token .closeObject written
    cases members with
    | nil =>
      simpa [tokens, memberTokens, prettyChars] using Written.token .openObject close
    | cons member members =>
      have inner := written_prettyMembers (level + 1) true (member :: members) (ends_newline level)
        (close.newline level)
      simpa [tokens, prettyChars] using Written.token .openObject inner

theorem written_prettyItems {ts : List Token} {rest : List Char} (level : Nat) (first : Bool)
    (items : List Value) (ends : Ends rest) (written : Written ts rest) :
    Written (itemTokens first items ++ ts) (prettyItems level first items ++ rest) := by
  cases items with
  | nil => exact written
  | cons item items =>
    have later := written_prettyItems level false items ends written
    have comma : ∀ c ∈ (prettyItems level false items).head?, c = ',' := by
      cases items <;> simp [prettyItems]
    have here := written_pretty level item (ends_append comma ends) later
    simpa [itemTokens, prettyItems] using (here.newline level).comma first

theorem written_prettyMembers {ts : List Token} {rest : List Char} (level : Nat) (first : Bool)
    (members : List (String × Value)) (ends : Ends rest) (written : Written ts rest) :
    Written (memberTokens first members ++ ts) (prettyMembers level first members ++ rest) := by
  cases members with
  | nil => exact written
  | cons member members =>
    obtain ⟨key, value⟩ := member
    have later := written_prettyMembers level false members ends written
    have comma : ∀ c ∈ (prettyMembers level false members).head?, c = ',' := by
      cases members <;> simp [prettyMembers]
    have here := written_pretty level value (ends_append comma ends) later
    have colon := Written.token .colon (.space (by rfl : isSpace ' ') here)
    simpa [memberTokens, prettyMembers] using ((colon.quote key).newline level).comma first

end

theorem spelledBy_compact (v : Value) : v.SpelledBy v.compact := by
  simpa [SpelledBy, compact] using written_compact v ends_nil .nil

theorem spelledBy_pretty (v : Value) : v.SpelledBy v.pretty := by
  simpa [SpelledBy, pretty] using written_pretty 0 v ends_nil .nil

end Value

/-! ## Insignificant white space -/

/-- Where a character of a text stands. -/
inductive Site where
  | outside
  /-- Between quotes. -/
  | inside
  /-- Between quotes, right behind a backslash. -/
  | escaped
deriving DecidableEq

/-- Where the character after `c` stands. -/
def Site.next (c : Char) : Site → Site
  | outside => if c = '"' then inside else outside
  | inside => if c = '"' then outside else if c = '\\' then escaped else inside
  | escaped => inside

/-- A text that begins at `site`, less the white space outside its quotes. -/
def strip (site : Site) : List Char → List Char
  | [] => []
  | c :: cs =>
    if site = .outside && isSpace c then strip site cs else c :: strip (site.next c) cs

theorem strip_escapeChar (c : Char) (rest : List Char) :
    strip .inside (escapeChar c ++ rest) = escapeChar c ++ strip .inside rest := by
  unfold escapeChar
  split_ifs with quote slash _ _ _ _ _ control
  -- a letter behind a backslash is passed over, whichever it is
  iterate 7 · rfl
  · have : ∀ n < 16, hexDigit n ≠ '"' ∧ hexDigit n ≠ '\\' := by decide
    have high := this (c.toNat / 16) (by omega)
    have low := this (c.toNat % 16) (by omega)
    simp [strip, Site.next, high, low]
  · simp [strip, Site.next, quote, slash]

/-- What stands between the quotes of a text stays as it is, and the text ends with its quote. -/
theorem strip_quote (s : String) (rest : List Char) :
    strip .outside (quote s ++ rest) = quote s ++ strip .outside rest := by
  have inside (cs : List Char) : strip .inside (cs.flatMap escapeChar ++ '"' :: rest) =
      cs.flatMap escapeChar ++ '"' :: strip .outside rest := by
    induction cs with
    | nil => simp [strip, Site.next]
    | cons c cs ih =>
      rw [List.flatMap_cons, List.append_assoc, strip_escapeChar, ih, List.append_assoc]
  simp [quote, strip, Site.next, isSpace, inside]

/-- Visible characters other than quotes stay. -/
theorem strip_visible {w : List Char} (visible : ∀ c ∈ w, isSpace c = false ∧ c ≠ '"')
    (rest : List Char) : strip .outside (w ++ rest) = w ++ strip .outside rest := by
  induction w with
  | nil => rfl
  | cons c w ih =>
    obtain ⟨here, later⟩ := List.forall_mem_cons.mp visible
    simp [strip, Site.next, here, ih later]

theorem strip_newline (level : Nat) (rest : List Char) :
    strip .outside (Value.newline level ++ rest) = strip .outside rest := by
  have spaces (n : Nat) : strip .outside (List.replicate n ' ' ++ rest) = strip .outside rest := by
    induction n with
    | zero => rfl
    | succ n ih => simpa [List.replicate_succ, strip, Site.next, isSpace] using ih
  simpa [Value.newline, strip, Site.next, isSpace] using spaces (2 * level)

theorem strip_digits (n : Nat) (rest : List Char) :
    strip .outside (digits n ++ rest) = digits n ++ strip .outside rest := by
  refine strip_visible (fun c mem => ?_) rest
  have digit := isDigit_of_mem_digits mem
  refine ⟨isSpace_of_isDigit digit, ?_⟩
  rintro rfl
  cases digit

theorem strip_comma (first : Bool) (rest : List Char) :
    strip .outside ((if first then [] else [',']) ++ rest) =
      (if first then [] else [',']) ++ strip .outside rest := by
  cases first <;> simp [strip, Site.next, isSpace]

namespace Value

mutual

/-- Without its white space, the layout on several lines is the compact one. -/
theorem strip_prettyChars (level : Nat) (v : Value) (rest : List Char) :
    strip .outside (v.prettyChars level ++ rest) = v.compactChars ++ strip .outside rest := by
  cases v with
  | null => simp [prettyChars, compactChars, strip, Site.next, isSpace]
  | bool b => cases b <;> simp [prettyChars, compactChars, strip, Site.next, isSpace]
  | nat n => exact strip_digits n rest
  | str s => exact strip_quote s rest
  | arr items => cases items with
    | nil => simp [prettyChars, compactChars, compactItems, strip, Site.next, isSpace]
    | cons item items =>
      have inner := strip_prettyItems (level + 1) true (item :: items)
        (newline level ++ ']' :: rest)
      simpa [prettyChars, compactChars, strip, Site.next, isSpace, strip_newline] using inner
  | obj members => cases members with
    | nil => simp [prettyChars, compactChars, compactMembers, strip, Site.next, isSpace]
    | cons member members =>
      have inner := strip_prettyMembers (level + 1) true (member :: members)
        (newline level ++ '}' :: rest)
      simpa [prettyChars, compactChars, strip, Site.next, isSpace, strip_newline] using inner

theorem strip_prettyItems (level : Nat) (first : Bool) (items : List Value) (rest : List Char) :
    strip .outside (prettyItems level first items ++ rest) =
      compactItems first items ++ strip .outside rest := by
  cases items with
  | nil => rfl
  | cons item items =>
    have later := strip_prettyItems level false items rest
    have here := strip_prettyChars level item (prettyItems level false items ++ rest)
    simp [prettyItems, compactItems, strip_comma, strip_newline, here, later]

theorem strip_prettyMembers (level : Nat) (first : Bool) (members : List (String × Value))
    (rest : List Char) :
    strip .outside (prettyMembers level first members ++ rest) =
      compactMembers first members ++ strip .outside rest := by
  cases members with
  | nil => rfl
  | cons member members =>
    obtain ⟨key, value⟩ := member
    have later := strip_prettyMembers level false members rest
    have here := strip_prettyChars level value (prettyMembers level false members ++ rest)
    simp [prettyMembers, compactMembers, strip_comma, strip_newline, strip_quote, strip, Site.next,
      isSpace, here, later]

end

/-- The compact text is the text on several lines less its insignificant white space. -/
theorem strip_pretty (v : Value) : String.ofList (strip .outside v.pretty.toList) = v.compact := by
  have stripped := strip_prettyChars 0 v []
  simp only [List.append_nil, strip] at stripped
  rw [pretty, String.toList_ofList, stripped, compact]

end Value

end Quiescence.Json
