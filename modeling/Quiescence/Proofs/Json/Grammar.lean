import Mathlib.Tactic.IntervalCases
import Quiescence.Json.Reader
import Quiescence.Json.Writer

/-! # The grammar of JSON

How a text may spell a sequence of tokens: letters between quotes stand for themselves or are
escaped, natural numbers have no needless zero, and white space may stand before any token and at
the end. The reader takes every such text apart into just these tokens.
-/

namespace Quiescence.Json

variable {c : Char} {w rest cs : List Char} {n : Nat}

/-! ## Texts -/

/-- The ways to write a character between quotes: as it is, escaped by a letter or by its number, or
escaped by the numbers of its two halves. -/
inductive Letter : Char → List Char → Prop where
  | plain {c : Char} : 0x20 ≤ c.toNat → c ≠ '"' → c ≠ '\\' → Letter c [c]
  | short {c e : Char} : escaped? e = some c → Letter c ['\\', e]
  | unit {c x y z u : Char} : hex4? x y z u = some c.toNat → Letter c ['\\', 'u', x, y, z, u]
  | pair {c x y z u x' y' z' u' : Char} {high low : Nat} :
    hex4? x y z u = some high → hex4? x' y' z' u' = some low →
    0xD800 ≤ high → high < 0xDC00 → 0xDC00 ≤ low → low ≤ 0xDFFF →
    c.toNat = 0x10000 + (high - 0xD800) * 0x400 + (low - 0xDC00) →
    Letter c ['\\', 'u', x, y, z, u, '\\', 'u', x', y', z', u']

/-- The ways to write characters between quotes, one after the other. -/
inductive Letters : List Char → List Char → Prop where
  | nil : Letters [] []
  | cons {c : Char} {w cs ws : List Char} : Letter c w → Letters cs ws → Letters (c :: cs) (w ++ ws)

theorem not_surrogate (c : Char) : ¬ (0xD800 ≤ c.toNat ∧ c.toNat ≤ 0xDFFF) := by
  have := c.valid
  simp only [UInt32.isValidChar, Nat.isValidChar] at this
  simp only [Char.toNat]
  omega

/-- The reader takes a letter off the front of a text, in one part or in two. -/
theorem Letter.read (letter : Letter c w) {pieces : List Piece}
    (read : pieces? rest = some (pieces, cs)) :
    ∃ front, pieces? (w ++ rest) = some (front ++ pieces, cs) ∧
      assemble? (front ++ pieces) = (c :: ·) <$> assemble? pieces := by
  cases letter with
  | plain visible notQuote notSlash =>
    exact ⟨[.char c], by simp [pieces?, notSlash, Nat.not_lt.mpr visible, read], rfl⟩
  | @short e escape =>
    have notUnit : e ≠ 'u' := by
      rintro rfl
      cases escape
    exact ⟨[.char c], by simp [pieces?, notUnit, escape, read], rfl⟩
  | unit number =>
    exact ⟨[.char c], by simp [pieces?, number, read, Piece.ofUnit, not_surrogate c], rfl⟩
  | @pair _ _ _ _ _ _ _ _ high low numberHigh numberLow from_high below above to_low whole =>
    have isHalf : Piece.ofUnit high = .half high ∧ Piece.ofUnit low = .half low :=
      ⟨if_pos (by omega), if_pos (by omega)⟩
    refine ⟨[.half high, .half low], ?_, ?_⟩
    · simp [pieces?, numberHigh, numberLow, read, isHalf]
    · simp [assemble?, below, above, ← whole]

/-- What stands between quotes is read as the characters it spells. -/
theorem Letters.read {ws : List Char} (letters : Letters cs ws) (rest : List Char) :
    ∃ pieces, pieces? (ws ++ '"' :: rest) = some (pieces, rest) ∧ assemble? pieces = some cs := by
  induction letters with
  | nil => exact ⟨[], rfl, rfl⟩
  | cons letter _ ih =>
    obtain ⟨pieces, taken, whole⟩ := ih
    obtain ⟨front, taken, joined⟩ := letter.read taken
    exact ⟨front ++ pieces, by rwa [List.append_assoc], by rw [joined, whole]; rfl⟩

/-! ## Numbers -/

/-- The document of a natural number. -/
def numeral (n : Nat) : Doc := integerDoc false (digits n)

theorem digits_eq (n : Nat) : digits n = Nat.toDigits 10 n := by
  rw [digits, Nat.toString_eq_ofList_toDigits, String.toList_ofList]

theorem isDigit_of_mem_digits (mem : c ∈ digits n) : c.isDigit :=
  Nat.isDigit_of_mem_toDigits (by decide) (by decide) (digits_eq n ▸ mem)

theorem ofDigitChars_digits (n : Nat) : Nat.ofDigitChars 10 (digits n) 0 = n := by
  rw [digits_eq, Nat.ofDigitChars_ten_toDigits]

theorem digits_ne_nil (n : Nat) : digits n ≠ [] := by
  rw [digits_eq]
  exact Nat.toDigits_ne_nil

theorem digits_cons (n : Nat) : ∃ d ds, digits n = d :: ds ∧ d.isDigit := by
  obtain ⟨d, ds, made⟩ := List.exists_cons_of_ne_nil (digits_ne_nil n)
  exact ⟨d, ds, made, isDigit_of_mem_digits (made ▸ List.mem_cons_self : d ∈ digits n)⟩

/-- Only zero begins with a zero. -/
theorem head_digits (pos : 0 < n) : (digits n).head? ≠ some '0' := by
  rw [digits_eq]
  induction n using Nat.strongRecOn with
  | ind n ih =>
    by_cases small : n < 10
    · rw [Nat.toDigits_of_lt_base small]
      interval_cases n <;> decide
    · rw [Nat.toDigits_of_base_le (by decide) (by omega), List.head?_append]
      have := ih (n / 10) (by omega) (by omega)
      cases h : (Nat.toDigits 10 (n / 10)).head? with
      | none => exact absurd (List.head?_eq_none_iff.mp h) Nat.toDigits_ne_nil
      | some d => simpa [h] using this

/-- Up to the largest exact number, a number is read as what it is. -/
theorem numeral_of_exact (exact : n ≤ maxExact) : numeral n = .int n := by
  simp [numeral, integerDoc, ofDigitChars_digits, exact]

/-- No number goes on with the text: it begins with none of the characters that numbers are made
of, the sign aside. -/
def Ends (rest : List Char) : Prop :=
  ∀ c ∈ rest.head?, c.isDigit = false ∧ c ≠ '.' ∧ c ≠ 'e' ∧ c ≠ 'E'

theorem takeWhile_digits {ds : List Char} (all : ∀ d ∈ ds, d.isDigit) (ends : Ends rest) :
    (ds ++ rest).takeWhile Char.isDigit = ds ∧ (ds ++ rest).dropWhile Char.isDigit = rest := by
  induction ds with
  | nil =>
    cases rest with
    | nil => simp
    | cons c rest => simp [(ends c rfl).1]
  | cons d ds ih =>
    obtain ⟨here, later⟩ := List.forall_mem_cons.mp all
    simp [here, ih later]

theorem fraction?_of_ends (ends : Ends rest) : fraction? rest = some (none, rest) := by
  unfold fraction?
  split
  · exact absurd rfl (ends _ rfl).2.1
  · rfl

theorem exponent?_of_ends (ends : Ends rest) : exponent? rest = some (none, rest) := by
  unfold exponent?
  split
  · exact absurd rfl (ends _ rfl).2.2.1
  · exact absurd rfl (ends _ rfl).2.2.2
  · rfl

theorem digits?_digits (ends : Ends rest) : digits? (digits n ++ rest) = some (digits n, rest) := by
  obtain ⟨taken, left⟩ := takeWhile_digits (fun _ => isDigit_of_mem_digits) ends
  rw [digits?, taken, left]
  split
  · next none => exact absurd none (digits_ne_nil n)
  · rfl

theorem unsigned?_digits (ends : Ends rest) :
    unsigned? false (digits n ++ rest) = some (numeral n, rest) := by
  have proper : ¬ ((digits n).head? = some '0' ∧ 1 < (digits n).length) := by
    rintro ⟨zero, long⟩
    rcases Nat.eq_zero_or_pos n with rfl | pos
    · exact absurd long (by decide)
    · exact head_digits pos zero
  simp [unsigned?, digits?_digits ends, proper, fraction?_of_ends ends, exponent?_of_ends ends,
    numeral]

theorem number?_digits (ends : Ends rest) :
    number? (digits n ++ rest) = some (numeral n, rest) := by
  rw [← unsigned?_digits ends]
  unfold number?
  split
  · next tail same =>
    obtain ⟨d, ds, made, digit⟩ := digits_cons n
    rw [made, List.cons_append, List.cons.injEq] at same
    rw [same.1] at digit
    cases digit
  · rfl

/-! ## Tokens -/

/-- How the tokens other than numbers are spelled. -/
inductive Spells : Token → List Char → Prop where
  | openArray : Spells .openArray ['[']
  | closeArray : Spells .closeArray [']']
  | openObject : Spells .openObject ['{']
  | closeObject : Spells .closeObject ['}']
  | comma : Spells .comma [',']
  | colon : Spells .colon [':']
  | text {cs ws : List Char} : Letters cs ws →
    Spells (.text (some (String.ofList cs))) ('"' :: (ws ++ ['"']))
  | null : Spells (.scalar .null) ['n', 'u', 'l', 'l']
  | isTrue : Spells (.scalar (.bool true)) ['t', 'r', 'u', 'e']
  | isFalse : Spells (.scalar (.bool false)) ['f', 'a', 'l', 's', 'e']

/-- The texts that spell a sequence of tokens. -/
inductive Written : List Token → List Char → Prop where
  | nil : Written [] []
  | space {c : Char} {ts : List Token} {cs : List Char} : isSpace c → Written ts cs →
    Written ts (c :: cs)
  | token {t : Token} {w : List Char} {ts : List Token} {cs : List Char} : Spells t w →
    Written ts cs → Written (t :: ts) (w ++ cs)
  | number {ts : List Token} {cs : List Char} (n : Nat) : Ends cs → Written ts cs →
    Written (.scalar (numeral n) :: ts) (digits n ++ cs)

theorem first?_spells {t : Token} (spells : Spells t w) (rest : List Char) :
    first? (w ++ rest) = some (t, rest) := by
  cases spells with
  | text letters =>
    obtain ⟨pieces, taken, whole⟩ := letters.read rest
    simp [first?, taken, whole]
  | _ => rfl

theorem first?_digits (ends : Ends rest) :
    first? (digits n ++ rest) = some (.scalar (numeral n), rest) := by
  have read := number?_digits (n := n) ends
  obtain ⟨d, ds, made, digit⟩ := digits_cons n
  rw [made, List.cons_append] at read ⊢
  unfold first?
  split <;> simp_all

theorem Spells.head {t : Token} (spells : Spells t w) :
    ∃ c tail, w = c :: tail ∧ isSpace c = false := by
  cases spells <;> exact ⟨_, _, rfl, by decide⟩

theorem isSpace_of_isDigit (digit : c.isDigit) : isSpace c = false := by
  simp only [isSpace, Bool.or_eq_false_iff, decide_eq_false_iff_not]
  refine ⟨⟨⟨?_, ?_⟩, ?_⟩, ?_⟩ <;> rintro rfl <;> cases digit

theorem digits_head (n : Nat) : ∃ c tail, digits n = c :: tail ∧ isSpace c = false := by
  obtain ⟨d, ds, made, digit⟩ := digits_cons n
  exact ⟨d, ds, made, isSpace_of_isDigit digit⟩

theorem tokensUpTo_space {fuel : Nat} (space : isSpace c) (cs : List Char) :
    tokensUpTo fuel (c :: cs) = tokensUpTo fuel cs := by
  rw [tokensUpTo, tokensUpTo, List.dropWhile_cons_of_pos space]

/-- A token is read in one step, and as many steps are left as the rest has characters, since every
token has a character. -/
theorem tokensUpTo_token {fuel : Nat} {t : Token}
    (head : ∃ c tail, w = c :: tail ∧ isSpace c = false)
    (taken : first? (w ++ cs) = some (t, cs)) (enough : (w ++ cs).length ≤ fuel) :
    ∃ left, cs.length ≤ left ∧ tokensUpTo fuel (w ++ cs) = t :: tokensUpTo left cs := by
  obtain ⟨c, tail, rfl, visible⟩ := head
  rw [List.cons_append] at taken enough ⊢
  rw [List.length_cons, List.length_append] at enough
  obtain ⟨left, rfl⟩ := Nat.exists_eq_add_of_lt (Nat.lt_of_lt_of_le (Nat.succ_pos _) enough)
  refine ⟨0 + left, by omega, ?_⟩
  rw [tokensUpTo, List.dropWhile_cons_of_neg (by simp [visible])]
  simp only [taken]

/-- The reader takes a text apart into the tokens that it spells, given as many steps as the text
has characters. -/
theorem Written.tokensUpTo {ts : List Token} (written : Written ts cs) {fuel : Nat}
    (enough : cs.length ≤ fuel) : tokensUpTo fuel cs = ts := by
  induction written generalizing fuel with
  | nil => rw [Json.tokensUpTo]; rfl
  | space space _ ih => rw [tokensUpTo_space space, ih (Nat.le_of_succ_le enough)]
  | token spells _ ih =>
    obtain ⟨left, enough, read⟩ := tokensUpTo_token spells.head (first?_spells spells _) enough
    rw [read, ih enough]
  | number n ends _ ih =>
    obtain ⟨left, enough, read⟩ := tokensUpTo_token (digits_head n) (first?_digits ends) enough
    rw [read, ih enough]

/-- The tokens of a text are those that it spells. -/
theorem Written.tokens {ts : List Token} {s : String} (written : Written ts s.toList) :
    tokens s = ts :=
  written.tokensUpTo (String.length_toList ▸ Nat.le_refl _)

end Quiescence.Json
