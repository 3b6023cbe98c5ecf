import Mathlib.Data.List.Basic
import Mathlib.Data.List.TakeWhile
import Mathlib.Tactic.Conv
import Mathlib.Tactic.SplitIfs
import Quiescence.Moment.Rfc3339

/-! # The language of times

A time in RFC 3339 is a stamp: a local date and time of day, digits of a fraction of a second, and
an offset from universal time. The words of the language are laid down here without regard to how
they are read. The reader takes a text exactly if it is a word of the language: each of its parts
takes words of its own language from the front of the text, and takes them in full.
-/

namespace Quiescence

/-- What a time in RFC 3339 says. -/
structure Stamp where
  date : Date
  hour : Nat
  minute : Nat
  second : Nat
  /-- The digits behind the point. -/
  fraction : List Char
  /-- How far the local time is ahead of universal time, in seconds. -/
  offset : Int

namespace Moment

/-! ## The language of times -/

/-- A numeral of one to `width` digits. -/
structure Numeral (width : Nat) (word : List Char) (n : Nat) : Prop where
  full : word ≠ []
  room : word.length ≤ width
  digits : ∀ c ∈ word, c.isDigit
  value : n = Nat.ofDigitChars 10 word 0

/-- Nothing but white space. -/
def Blanks (word : List Char) : Prop := ∀ c ∈ word, Text.isBlank c

/-- A word of a language with white space before it. -/
def Spaced {α : Type} (language : List Char → α → Prop) (word : List Char) (a : α) : Prop :=
  ∃ blanks core, word = blanks ++ core ∧ Blanks blanks ∧ language core a

/-- A sign that separates two fields. -/
inductive Mark (c : Char) : List Char → Unit → Prop
  | mk : Mark c [c] ()

/-- A year: up to four digits, or a sign and any number of digits. -/
inductive Year : List Char → Int → Prop
  | plain {word : List Char} {n : Nat} (digits : Numeral 4 word n) : Year word n
  | plus {word : List Char} {n : Nat} (digits : Numeral word.length word n) : Year ('+' :: word) n
  | minus {word : List Char} {n : Nat} (digits : Numeral word.length word n) :
      Year ('-' :: word) (-n)

/-- A fraction of a second, which may be left out. -/
inductive Fraction : List Char → List Char → Prop
  | none : Fraction [] []
  | point {word : List Char} (full : word ≠ []) (digits : ∀ c ∈ word, c.isDigit) :
      Fraction ('.' :: word) word

/-- Two digits each for hours and minutes, which colons and white space may part, in seconds. -/
inductive OffsetSize : List Char → Nat → Prop
  | mk {hours gap minutes : List Char} {h m : Nat} (two : hours.length = 2)
      (hoursRead : Numeral 2 hours h) (parted : ∀ c ∈ gap, c = ':' ∨ Text.isBlank c)
      (two' : minutes.length = 2) (minutesRead : Numeral 2 minutes m) (day : h < 24)
      (hour : m < 60) : OffsetSize (hours ++ (gap ++ minutes)) (h * 3600 + m * 60)

/-- An offset from universal time. -/
inductive Offset : List Char → Int → Prop
  | zulu {c : Char} (letter : c = 'Z' ∨ c = 'z') : Offset [c] 0
  | utc {word : List Char} (name : word.map Char.toUpper = ['U', 'T', 'C']) : Offset word 0
  | east {word : List Char} {n : Nat} (size : OffsetSize word n) : Offset ('+' :: word) n
  | west {sign : Char} {word : List Char} {n : Nat} (minus : sign = '-' ∨ sign = '\u2212')
      (size : OffsetSize word n) : Offset (sign :: word) (-n)

/-- A date: year, month and day with hyphens between them. -/
inductive SpellsDate : List Char → Date → Prop
  | mk {year dash month dash' day : List Char} {d : Date} (yearRead : Spaced Year year d.year)
      (dashRead : Spaced (Mark '-') dash ()) (monthRead : Spaced (Numeral 2) month d.month)
      (dashRead' : Spaced (Mark '-') dash' ()) (dayRead : Spaced (Numeral 2) day d.day) :
      SpellsDate (year ++ (dash ++ (month ++ (dash' ++ day)))) d

/-- A time of day with its offset: hour, minute and second with colons between them. -/
inductive SpellsTime : List Char → Stamp → Prop
  | mk {hour colon minute colon' second fraction offset blanks : List Char} {s : Stamp}
      (hourRead : Spaced (Numeral 2) hour s.hour) (colonRead : Spaced (Mark ':') colon ())
      (minuteRead : Spaced (Numeral 2) minute s.minute) (colonRead' : Spaced (Mark ':') colon' ())
      (secondRead : Spaced (Numeral 2) second s.second)
      (fractionRead : Fraction fraction s.fraction) (offsetRead : Spaced Offset offset s.offset)
      (trailing : Blanks blanks) :
      SpellsTime (hour ++ (colon ++ (minute ++ (colon' ++ (second ++ (fraction ++
        (offset ++ blanks))))))) s

/-- What may stand between a date and a time of day. -/
def Separates (t : Char) : Prop := t = 'T' ∨ t = 't' ∨ t = ' '

/-- The text says what the stamp says. -/
def Spells (cs : List Char) (s : Stamp) : Prop :=
  ∃ date t time, cs = date ++ t :: time ∧ SpellsDate date s.date ∧ Separates t ∧ SpellsTime time s

/-! ## Reading words -/

variable {α : Type} {language : List Char → α → Prop} {cs rest word : List Char} {c : Char}
variable {width n : Nat}

/-- Nothing that follows is a digit. -/
def Stops (rest : List Char) : Prop := ∀ c ∈ rest.head?, c.isDigit = false

/-- Digits are taken in full if there is room for them, and if the room or the digits end there. -/
theorem takeDigits_append (digits : ∀ d ∈ word, d.isDigit) (room : word.length ≤ width)
    (ends : word.length = width ∨ Stops rest) : takeDigits width (word ++ rest) = (word, rest) := by
  have taken : ((word ++ rest).take width).takeWhile Char.isDigit = word := by
    rw [List.take_append, List.take_of_length_le room, List.takeWhile_append_of_pos digits]
    rcases ends with full | stops
    · simp [full]
    · cases rest with
      | nil => simp
      | cons c rest =>
        have := stops c rfl
        cases width - word.length <;> simp [this]
  simp [takeDigits, taken]

theorem isBlank_of_isDigit (digit : c.isDigit) : Text.isBlank c = false := by
  have := Char.isDigit_iff_toNat.mp digit
  simp only [Char.reduceToNat] at this
  simp only [Text.isBlank, Text.blankRanges, List.any_cons, List.any_nil, Bool.or_eq_false_iff,
    Bool.and_eq_false_iff, decide_eq_false_iff_not, and_true]
  omega

/-- A reader takes words of the language from the front of a text, and it takes them in full if no
digit follows. -/
structure Reads {α : Type} (read : List Char → Option (α × List Char))
    (language : List Char → α → Prop) : Prop where
  sound : ∀ {cs rest a}, read cs = some (a, rest) → ∃ word, cs = word ++ rest ∧ language word a
  complete : ∀ {word rest a}, language word a → Stops rest → read (word ++ rest) = some (a, rest)

theorem exists_blanks (cs : List Char) :
    ∃ blanks, cs = blanks ++ Text.skipBlank cs ∧ Blanks blanks :=
  ⟨cs.takeWhile Text.isBlank, (List.takeWhile_append_dropWhile ..).symm,
    fun _ mem => List.mem_takeWhile_imp mem⟩

theorem skipBlank_append {blanks : List Char} (blank : Blanks blanks) (rest : List Char) :
    Text.skipBlank (blanks ++ rest) = Text.skipBlank rest :=
  List.dropWhile_append_of_pos blank

theorem skipBlank_cons (visible : Text.isBlank c = false) (rest : List Char) :
    Text.skipBlank (c :: rest) = c :: rest :=
  List.dropWhile_cons_of_neg (by simp [visible])

/-- A reader that passes over white space first takes words with white space before them. -/
theorem Reads.spaced {read core : List Char → Option (α × List Char)}
    (skips : ∀ cs, read cs = core (Text.skipBlank cs)) (reads : Reads core language)
    (visible : ∀ {word a}, language word a → ∃ c tail, word = c :: tail ∧ Text.isBlank c = false) :
    Reads read (Spaced language) where
  sound {cs rest a} taken := by
    obtain ⟨blanks, split, blank⟩ := exists_blanks cs
    rw [skips] at taken
    obtain ⟨word, front, spelled⟩ := reads.sound taken
    exact ⟨blanks ++ word, by rw [List.append_assoc, ← front, ← split],
      blanks, word, rfl, blank, spelled⟩
  complete spelled stops := by
    obtain ⟨blanks, core, rfl, blank, spelled⟩ := spelled
    obtain ⟨c, tail, made, visible⟩ := visible spelled
    rw [skips, List.append_assoc, skipBlank_append blank, made, List.cons_append,
      skipBlank_cons visible, ← List.cons_append, ← made]
    exact reads.complete spelled stops

/-- What is taken as digits are the digits at the front. -/
theorem takeDigits_spec (width : Nat) (cs : List Char) :
    cs = (takeDigits width cs).1 ++ (takeDigits width cs).2 ∧
      (takeDigits width cs).1.length ≤ width ∧ ∀ c ∈ (takeDigits width cs).1, c.isDigit := by
  refine ⟨?_, ?_, fun c mem => List.mem_takeWhile_imp mem⟩
  · exact (List.prefix_iff_eq_append.mp
      ((List.takeWhile_prefix _).trans (List.take_prefix width cs))).symm
  · exact (List.takeWhile_prefix _).length_le.trans (List.length_take_le width cs)

theorem reads_number? (width : Nat) : Reads (number? width) (Numeral width) where
  sound {cs rest n} taken := by
    obtain ⟨split, room, digits⟩ := takeDigits_spec width cs
    unfold number? at taken
    split at taken
    case h_1 => cases taken
    case h_2 word _ full made =>
      cases taken
      rw [made] at split room digits
      exact ⟨word, split, full, room, digits, rfl⟩
  complete {word rest n} numeral stops := by
    obtain ⟨full, room, digits, rfl⟩ := numeral
    simp only [number?, takeDigits_append digits room (.inr stops)]

theorem Numeral.visible (numeral : Numeral width word n) :
    ∃ c tail, word = c :: tail ∧ Text.isBlank c = false := by
  obtain ⟨c, tail, made⟩ := List.exists_cons_of_ne_nil numeral.full
  exact ⟨c, tail, made, isBlank_of_isDigit (numeral.digits c (made ▸ List.mem_cons_self))⟩

theorem reads_field? : Reads field? (Spaced (Numeral 2)) :=
  (reads_number? 2).spaced (fun _ => rfl) Numeral.visible

theorem Numeral.widen {wider : Nat} (numeral : Numeral width word n) (room : word.length ≤ wider) :
    Numeral wider word n :=
  ⟨numeral.full, room, numeral.digits, numeral.value⟩

/-- A numeral is taken in full if as many digits may be taken as there are. -/
theorem Numeral.read (numeral : Numeral width word n) (stops : Stops rest) :
    number? (word ++ rest).length (word ++ rest) = some (n, rest) :=
  (reads_number? _).complete (numeral.widen (by simp)) stops

/-- The year of a text that does not begin with white space. -/
def yearHere? (cs : List Char) : Option (Int × List Char) :=
  match cs with
  | '-' :: rest => (number? rest.length rest).map fun (n, rest) => (-(n : Int), rest)
  | '+' :: rest => (number? rest.length rest).map fun (n, rest) => ((n : Int), rest)
  | rest => (number? 4 rest).map fun (n, rest) => ((n : Int), rest)

theorem reads_yearHere? : Reads yearHere? Year where
  sound {cs rest year} taken := by
    unfold yearHere? at taken
    split at taken <;> simp only [Option.map_eq_some_iff, Prod.mk.injEq, Prod.exists] at taken <;>
      obtain ⟨n, _, number, rfl, rfl⟩ := taken <;>
      obtain ⟨word, rfl, numeral⟩ := (reads_number? _).sound number
    · exact ⟨'-' :: word, rfl, .minus (numeral.widen le_rfl)⟩
    · exact ⟨'+' :: word, rfl, .plus (numeral.widen le_rfl)⟩
    · exact ⟨word, rfl, .plain numeral⟩
  complete {word rest year} spelled stops := by
    cases spelled with
    | plain numeral =>
      have read := (reads_number? 4).complete numeral stops
      obtain ⟨c, tail, rfl, _⟩ := numeral.visible
      have digit := numeral.digits c List.mem_cons_self
      rw [List.cons_append] at read ⊢
      unfold yearHere?
      split
      · next same => cases same; cases digit
      · next same => cases same; cases digit
      · rw [read]
        rfl
    | plus numeral =>
      simp only [yearHere?, List.cons_append, numeral.read stops]
      rfl
    | minus numeral =>
      simp only [yearHere?, List.cons_append, numeral.read stops]
      rfl

theorem reads_year? : Reads year? (Spaced Year) := by
  refine reads_yearHere?.spaced (fun _ => rfl) fun spelled => ?_
  cases spelled with
  | plain digits => exact digits.visible
  | plus digits => exact ⟨_, _, rfl, rfl⟩
  | minus digits => exact ⟨_, _, rfl, rfl⟩

theorem mark?_eq_some_iff (visible : Text.isBlank c = false) :
    mark? c cs = some rest ↔ ∃ word, cs = word ++ rest ∧ Spaced (Mark c) word () := by
  constructor
  · intro taken
    obtain ⟨blanks, split, blank⟩ := exists_blanks cs
    unfold mark? at taken
    split at taken
    · next d tail core =>
      split at taken
      · next same =>
        cases taken
        exact ⟨blanks ++ [c],
          by rw [List.append_assoc, List.singleton_append, ← same, ← core, ← split],
          blanks, [c], rfl, blank, .mk⟩
      · cases taken
    · cases taken
  · rintro ⟨_, rfl, blanks, _, rfl, blank, ⟨⟩⟩
    rw [List.append_assoc, mark?, skipBlank_append blank, List.singleton_append,
      skipBlank_cons visible]
    exact if_pos rfl

/-! ### Fractions -/

/-- A fraction in nanoseconds; digits after the ninth do not count. -/
def nanosOf (digits : List Char) : Nat :=
  Nat.ofDigitChars 10 (digits.take 9) 0 * Nat.pow 10 (9 - (digits.take 9).length)

/-- Of a word of digits no more than `width` are taken. -/
theorem takeDigits_word (digits : ∀ d ∈ word, d.isDigit) (stops : Stops rest) (width : Nat) :
    takeDigits width (word ++ rest) = (word.take width, word.drop width ++ rest) := by
  have first : ∀ d ∈ word.take width, d.isDigit := fun d mem => digits d (List.mem_of_mem_take mem)
  have ends : (word.take width).length = width ∨ Stops (word.drop width ++ rest) := by
    rcases Nat.lt_or_ge word.length width with short | long
    · right
      rwa [List.drop_of_length_le short.le, List.nil_append]
    · exact .inl (List.length_take_of_le long)
  conv_lhs => rw [← List.take_append_drop width word, List.append_assoc]
  exact takeDigits_append first (List.length_take_le width word) ends

theorem stops_dropWhile (cs : List Char) : Stops (cs.dropWhile Char.isDigit) := by
  intro c first
  have stopped := List.head?_dropWhile_not Char.isDigit cs
  rwa [first] at stopped

theorem Stops.dropWhile (stops : Stops rest) : rest.dropWhile Char.isDigit = rest := by
  cases rest with
  | nil => rfl
  | cons c rest => exact List.dropWhile_cons_of_neg (by simp [stops c rfl])

theorem fraction?_point (full : word ≠ []) (digits : ∀ d ∈ word, d.isDigit) (stops : Stops rest) :
    fraction? ('.' :: (word ++ rest)) = some (nanosOf word, rest) := by
  have left : (word.drop 9 ++ rest).dropWhile Char.isDigit = rest := by
    rw [List.dropWhile_append_of_pos fun d mem => digits d (List.mem_of_mem_drop mem),
      stops.dropWhile]
  have taken : word.take 9 ≠ [] := by simpa using full
  simp only [fraction?, takeDigits_word digits stops 9, left]
  rfl

theorem fraction?_sound {nano : Nat} (taken : fraction? cs = some (nano, rest)) :
    ∃ word digits, cs = word ++ rest ∧ Fraction word digits ∧ nano = nanosOf digits := by
  by_cases point : ∃ tail, cs = '.' :: tail
  · obtain ⟨tail, rfl⟩ := point
    have digits : ∀ d ∈ tail.takeWhile Char.isDigit, d.isDigit :=
      fun d mem => List.mem_takeWhile_imp mem
    have split := List.takeWhile_append_dropWhile (p := Char.isDigit) (l := tail)
    by_cases full : tail.takeWhile Char.isDigit = []
    · have nothing := takeDigits_word digits (stops_dropWhile tail) 9
      rw [split, full] at nothing
      simp [fraction?, nothing] at taken
    · rw [← split, fraction?_point full digits (stops_dropWhile tail)] at taken
      cases taken
      exact ⟨_, _, by rw [List.cons_append, split], .point full digits, rfl⟩
  · have absent : fraction? cs = some (0, cs) := by
      unfold fraction?
      split
      · exact absurd ⟨_, rfl⟩ point
      · rfl
    cases absent.symm.trans taken
    exact ⟨[], [], rfl, .none, rfl⟩

theorem fraction?_complete {digits : List Char} (spelled : Fraction word digits)
    (stops : Stops rest) (pointless : rest.head? ≠ some '.') :
    fraction? (word ++ rest) = some (nanosOf digits, rest) := by
  cases spelled with
  | point full digits => exact fraction?_point full digits stops
  | none =>
    rw [List.nil_append]
    unfold fraction?
    split
    · exact absurd rfl pointless
    · rfl

/-! ### Offsets -/

theorem pair?_eq_some_iff :
    pair? cs = some (n, rest) ↔ ∃ word, cs = word ++ rest ∧ word.length = 2 ∧ Numeral 2 word n := by
  constructor
  · intro taken
    unfold pair? at taken
    split at taken
    · next a b tail =>
      split_ifs at taken with digits
      cases taken
      rw [Bool.and_eq_true] at digits
      exact ⟨[a, b], rfl, rfl, by simp, le_rfl, by simp [digits], rfl⟩
    · cases taken
  · rintro ⟨word, rfl, two, numeral⟩
    obtain ⟨a, b, rfl⟩ := List.length_eq_two.mp two
    have digits := numeral.digits
    simp only [List.mem_cons, List.not_mem_nil, or_false, forall_eq_or_imp, forall_eq] at digits
    simp [pair?, digits, numeral.value]

/-- Colons and white space may part the hours of an offset from its minutes. -/
def parts (c : Char) : Bool := c = ':' || Text.isBlank c

theorem parts_of_isDigit (digit : c.isDigit) : parts c = false := by
  have colon : c ≠ ':' := by
    rintro rfl
    cases digit
  simp [parts, colon, isBlank_of_isDigit digit]

theorem reads_offsetSize? : Reads offsetSize? OffsetSize where
  sound {cs rest n} taken := by
    simp only [offsetSize?, bind, Option.bind_eq_some_iff, Prod.exists] at taken
    obtain ⟨h, middle, hours, m, tail, minutes, result⟩ := taken
    split_ifs at result with size
    cases result
    obtain ⟨word, rfl, two, numeral⟩ := pair?_eq_some_iff.mp hours
    obtain ⟨word', split, two', numeral'⟩ := pair?_eq_some_iff.mp minutes
    have parted : ∀ c ∈ middle.takeWhile parts, c = ':' ∨ Text.isBlank c := fun c mem => by
      simpa [parts] using List.mem_takeWhile_imp mem
    refine ⟨_, ?_, .mk two numeral parted two' numeral' size.2 size.1⟩
    rw [List.append_assoc, List.append_assoc, ← split]
    exact congrArg _ (List.takeWhile_append_dropWhile (p := parts)).symm
  complete {word rest n} spelled stops := by
    obtain ⟨two, hoursRead, parted, two', minutesRead, day, hour⟩ := spelled
    rename_i hours gap minutes h m
    have first : pair? (hours ++ (gap ++ (minutes ++ rest))) = some (h, gap ++ (minutes ++ rest)) :=
      pair?_eq_some_iff.mpr ⟨hours, rfl, two, hoursRead⟩
    have second : pair? (minutes ++ rest) = some (m, rest) :=
      pair?_eq_some_iff.mpr ⟨minutes, rfl, two', minutesRead⟩
    have skipped : (gap ++ (minutes ++ rest)).dropWhile parts = minutes ++ rest := by
      obtain ⟨c, tail, rfl⟩ := List.exists_cons_of_ne_nil minutesRead.full
      have digit := minutesRead.digits c List.mem_cons_self
      rw [List.dropWhile_append_of_pos fun c mem => by simpa [parts] using parted c mem]
      exact List.dropWhile_cons_of_neg (by simp [parts_of_isDigit digit])
    rw [List.append_assoc, List.append_assoc, offsetSize?, first]
    change (pair? ((gap ++ (minutes ++ rest)).dropWhile parts)).bind _ = _
    rw [skipped, second]
    exact if_pos ⟨hour, day⟩

/-- What is made of the size of an offset is made of one that is spelled. -/
theorem exists_size {f : Nat → Int} {offset : Int}
    (taken : ((offsetSize? cs).map fun (n, rest) => (f n, rest)) = some (offset, rest)) :
    ∃ word n, cs = word ++ rest ∧ OffsetSize word n ∧ f n = offset := by
  obtain ⟨⟨n, _⟩, size, same⟩ := Option.map_eq_some_iff.mp taken
  cases same
  obtain ⟨word, split, spelled⟩ := reads_offsetSize?.sound size
  exact ⟨word, n, split, spelled, rfl⟩

theorem reads_offset? : Reads offset? Offset where
  sound {cs rest offset} taken := by
    unfold offset? at taken
    split at taken
    · cases taken
      exact ⟨['Z'], rfl, .zulu (.inl rfl)⟩
    · cases taken
      exact ⟨['z'], rfl, .zulu (.inr rfl)⟩
    · obtain ⟨word, n, rfl, size, rfl⟩ := exists_size taken
      exact ⟨'+' :: word, rfl, .east size⟩
    · obtain ⟨word, n, rfl, size, rfl⟩ := exists_size (f := fun n => -n) taken
      exact ⟨'-' :: word, rfl, .west (.inl rfl) size⟩
    · obtain ⟨word, n, rfl, size, rfl⟩ := exists_size (f := fun n => -n) taken
      exact ⟨'\u2212' :: word, rfl, .west (.inr rfl) size⟩
    · split_ifs at taken with name
      cases taken
      exact ⟨cs.take 3, (List.take_append_drop 3 cs).symm, .utc name⟩
  complete {word rest offset} spelled stops := by
    cases spelled with
    | zulu letter =>
      rcases letter with rfl | rfl
      · rfl
      · rfl
    | utc name =>
      obtain ⟨a, b, c, rfl⟩ := List.length_eq_three.mp (by simpa using congrArg List.length name)
      simp only [List.map_cons, List.map_nil, List.cons.injEq, and_true] at name
      have shown : ((a :: b :: c :: rest).take 3).map Char.toUpper = ['U', 'T', 'C'] := by
        simp [name]
      simp only [List.cons_append, List.nil_append]
      unfold offset?
      split
      case h_6 => rw [if_pos shown]; rfl
      all_goals next same =>
        cases same
        exact absurd name.1 (by decide)
    | east size =>
      simp only [offset?, List.cons_append, reads_offsetSize?.complete size stops, Option.map_some]
    | west minus size =>
      rcases minus with rfl | rfl <;>
      simp only [offset?, List.cons_append, reads_offsetSize?.complete size stops, Option.map_some]

/-! ## Whole times -/

theorem stops_blanks {blanks : List Char} (blank : Blanks blanks) (stops : Stops rest) :
    Stops (blanks ++ rest) := by
  cases blanks with
  | nil => exact stops
  | cons b blanks =>
    intro c first
    cases first
    exact Bool.eq_false_iff.mpr fun digit =>
      Bool.false_ne_true ((isBlank_of_isDigit digit).symm.trans (blank b List.mem_cons_self))

theorem stops_mark (mark : Spaced (Mark c) word ()) (sign : c.isDigit = false) (rest : List Char) :
    Stops (word ++ rest) := by
  obtain ⟨blanks, _, rfl, blank, ⟨⟩⟩ := mark
  rw [List.append_assoc]
  refine stops_blanks blank fun d first => ?_
  cases first
  exact sign

theorem eq_of_toUpper_eq (upper : c.toUpper = 'U') : c = 'U' ∨ c = 'u' := by
  unfold Char.toUpper at upper
  split at upper
  · right
    have value := congrArg Char.val upper
    have small : 'U'.val = 'u'.val + ('A'.val - 'a'.val) := by decide
    rw [small] at value
    exact Char.ext ((UInt32.add_left_inj ('A'.val - 'a'.val)).mp value)
  · exact .inl upper

/-- An offset begins neither with a digit nor with a point. -/
theorem Offset.head {offset : Int} (spelled : Offset word offset) :
    ∃ c tail, word = c :: tail ∧ c.isDigit = false ∧ c ≠ '.' ∧ Text.isBlank c = false := by
  cases spelled with
  | zulu letter =>
    rcases letter with rfl | rfl <;> exact ⟨_, _, rfl, by decide, by decide, by decide⟩
  | utc name =>
    obtain ⟨a, b, c, rfl⟩ := List.length_eq_three.mp (by simpa using congrArg List.length name)
    simp only [List.map_cons, List.map_nil, List.cons.injEq, and_true] at name
    rcases eq_of_toUpper_eq name.1 with rfl | rfl <;>
      exact ⟨_, _, rfl, by decide, by decide, by decide⟩
  | east size => exact ⟨_, _, rfl, by decide, by decide, by decide⟩
  | west minus size =>
    rcases minus with rfl | rfl <;> exact ⟨_, _, rfl, by decide, by decide, by decide⟩

/-- Neither a digit nor a point stands before an offset. -/
theorem offset_head {offset : Int} (spelled : Spaced Offset word offset) (rest : List Char) :
    Stops (word ++ rest) ∧ (word ++ rest).head? ≠ some '.' := by
  obtain ⟨blanks, core, rfl, blank, spelled⟩ := spelled
  obtain ⟨c, tail, rfl, noDigit, noPoint, _⟩ := spelled.head
  have stops : Stops (c :: tail ++ rest) := by
    intro d first
    cases first
    exact noDigit
  rw [List.append_assoc]
  refine ⟨stops_blanks blank stops, ?_⟩
  cases blanks with
  | nil => simpa using noPoint
  | cons b blanks =>
    rintro first
    cases first
    exact absurd (blank '.' List.mem_cons_self) (by decide)

theorem stops_fraction {digits : List Char} (spelled : Fraction word digits) (stops : Stops rest) :
    Stops (word ++ rest) := by
  cases spelled with
  | none => exact stops
  | point => simp [Stops]

/-- The moment of a date and the time of day that follows. -/
def timeOfDay? (date : Date) (cs : List Char) : Option Moment := do
  let (hour, cs) ← field? cs
  let (minute, cs) ← field? (← mark? ':' cs)
  let (second, cs) ← field? (← mark? ':' cs)
  let (nano, cs) ← fraction? cs
  let (offset, cs) ← offset? (Text.skipBlank cs)
  if Text.skipBlank cs = [] then ofLocal? date hour minute second nano offset else none

variable {m : Moment} {t : Char} {d : Date} {s : Stamp}

theorem exists_date (read : parseChars cs = some m) : ∃ word d t rest, cs = word ++ t :: rest ∧
    SpellsDate word d ∧ Separates t ∧ timeOfDay? d rest = some m := by
  obtain ⟨⟨year, c₁⟩, yearRead, read⟩ := Option.bind_eq_some_iff.mp read
  obtain ⟨c₂, dash, read⟩ := Option.bind_eq_some_iff.mp read
  obtain ⟨⟨month, c₃⟩, monthRead, read⟩ := Option.bind_eq_some_iff.mp read
  obtain ⟨c₄, dash', read⟩ := Option.bind_eq_some_iff.mp read
  obtain ⟨⟨day, c₅⟩, dayRead, result⟩ := Option.bind_eq_some_iff.mp read
  obtain ⟨w₁, rfl, year_⟩ := reads_year?.sound yearRead
  obtain ⟨w₂, rfl, dash_⟩ := (mark?_eq_some_iff rfl).mp dash
  obtain ⟨w₃, rfl, month_⟩ := reads_field?.sound monthRead
  obtain ⟨w₄, rfl, dash'_⟩ := (mark?_eq_some_iff rfl).mp dash'
  obtain ⟨w₅, rfl, day_⟩ := reads_field?.sound dayRead
  have whole := SpellsDate.mk (d := ⟨year, month, day⟩) year_ dash_ month_ dash'_ day_
  have front (rest : List Char) : w₁ ++ (w₂ ++ (w₃ ++ (w₄ ++ (w₅ ++ rest)))) =
      w₁ ++ (w₂ ++ (w₃ ++ (w₄ ++ w₅))) ++ rest := by simp
  dsimp only at result
  split at result
  · exact ⟨_, _, 'T', _, front _, whole, .inl rfl, result⟩
  · exact ⟨_, _, 't', _, front _, whole, .inr (.inl rfl), result⟩
  · exact ⟨_, _, ' ', _, front _, whole, .inr (.inr rfl), result⟩
  · cases result

theorem bind_of_eq_some {α β : Type} {x : Option α} {a : α} (read : x = some a) (f : α → Option β) :
    x.bind f = f a := by
  rw [read, Option.bind_some]

theorem parseChars_date (spelled : SpellsDate word d) (separates : Separates t)
    (rest : List Char) : parseChars (word ++ t :: rest) = timeOfDay? d rest := by
  obtain ⟨year, dash, month, dash', day⟩ := spelled
  have stops : Stops (t :: rest) := by
    intro c first
    cases first
    rcases separates with rfl | rfl | rfl <;> rfl
  simp only [List.append_assoc]
  -- Every number is taken in full, because what separates it from the next one is no digit.
  refine (bind_of_eq_some (reads_year?.complete year (stops_mark dash rfl _)) _).trans <|
    (bind_of_eq_some ((mark?_eq_some_iff rfl).mpr ⟨_, rfl, dash⟩) _).trans <|
    (bind_of_eq_some (reads_field?.complete month (stops_mark dash' rfl _)) _).trans <|
    (bind_of_eq_some ((mark?_eq_some_iff rfl).mpr ⟨_, rfl, dash'⟩) _).trans <|
    (bind_of_eq_some (reads_field?.complete day stops) _).trans ?_
  rcases separates with rfl | rfl | rfl <;> rfl

theorem reads_spacedOffset :
    Reads (fun cs => offset? (Text.skipBlank cs)) (Spaced Offset) :=
  reads_offset?.spaced (fun _ => rfl) fun spelled =>
    have ⟨c, tail, made, _, _, visible⟩ := spelled.head
    ⟨c, tail, made, visible⟩

theorem skipBlank_eq_nil_iff : Text.skipBlank cs = [] ↔ Blanks cs := by
  simp [Text.skipBlank, Blanks]

theorem timeOfDay?_sound (read : timeOfDay? d cs = some m) : ∃ s : Stamp, s.date = d ∧
    SpellsTime cs s ∧
    ofLocal? d s.hour s.minute s.second (nanosOf s.fraction) s.offset = some m := by
  obtain ⟨⟨hour, c₁⟩, hourRead, read⟩ := Option.bind_eq_some_iff.mp read
  obtain ⟨c₂, colon, read⟩ := Option.bind_eq_some_iff.mp read
  obtain ⟨⟨minute, c₃⟩, minuteRead, read⟩ := Option.bind_eq_some_iff.mp read
  obtain ⟨c₄, colon', read⟩ := Option.bind_eq_some_iff.mp read
  obtain ⟨⟨second, c₅⟩, secondRead, read⟩ := Option.bind_eq_some_iff.mp read
  obtain ⟨⟨nano, c₆⟩, nanoRead, read⟩ := Option.bind_eq_some_iff.mp read
  obtain ⟨⟨offset, c₇⟩, offsetRead, result⟩ := Option.bind_eq_some_iff.mp read
  obtain ⟨w₁, rfl, hour_⟩ := reads_field?.sound hourRead
  obtain ⟨w₂, rfl, colon_⟩ := (mark?_eq_some_iff rfl).mp colon
  obtain ⟨w₃, rfl, minute_⟩ := reads_field?.sound minuteRead
  obtain ⟨w₄, rfl, colon'_⟩ := (mark?_eq_some_iff rfl).mp colon'
  obtain ⟨w₅, rfl, second_⟩ := reads_field?.sound secondRead
  obtain ⟨w₆, digits, rfl, fraction_, rfl⟩ := fraction?_sound nanoRead
  obtain ⟨w₇, rfl, offset_⟩ := reads_spacedOffset.sound offsetRead
  dsimp only at result
  split_ifs at result with blank
  exact ⟨⟨d, hour, minute, second, digits, offset⟩, rfl, .mk hour_ colon_ minute_ colon'_ second_
    fraction_ offset_ (skipBlank_eq_nil_iff.mp blank), result⟩

theorem timeOfDay?_complete (spelled : SpellsTime cs s) (d : Date) : timeOfDay? d cs =
    ofLocal? d s.hour s.minute s.second (nanosOf s.fraction) s.offset := by
  obtain ⟨hour, colon, minute, colon', second, fraction, offset, blank⟩ := spelled
  rename_i h c mi c' se fr of bl
  have ⟨behind, pointless⟩ := offset_head offset bl
  have last : Stops bl := by simpa using stops_blanks blank (by simp [Stops] : Stops [])
  -- The fraction may be left out. Then it is the offset that ends the second, and no point follows.
  refine (bind_of_eq_some (reads_field?.complete hour (stops_mark colon rfl _)) _).trans <|
    (bind_of_eq_some ((mark?_eq_some_iff rfl).mpr ⟨_, rfl, colon⟩) _).trans <|
    (bind_of_eq_some (reads_field?.complete minute (stops_mark colon' rfl _)) _).trans <|
    (bind_of_eq_some ((mark?_eq_some_iff rfl).mpr ⟨_, rfl, colon'⟩) _).trans <|
    (bind_of_eq_some (reads_field?.complete second (stops_fraction fraction behind)) _).trans <|
    (bind_of_eq_some (fraction?_complete fraction behind pointless) _).trans <|
    (bind_of_eq_some (reads_spacedOffset.complete offset last) _).trans ?_
  exact if_pos (skipBlank_eq_nil_iff.mpr blank)

theorem parseChars_eq_some_iff : parseChars cs = some m ↔ ∃ s : Stamp, Spells cs s ∧
    ofLocal? s.date s.hour s.minute s.second (nanosOf s.fraction) s.offset = some m := by
  constructor
  · intro read
    obtain ⟨word, d, t, rest, rfl, date, separates, read⟩ := exists_date read
    obtain ⟨s, rfl, time, found⟩ := timeOfDay?_sound read
    exact ⟨s, ⟨word, t, rest, rfl, date, separates, time⟩, found⟩
  · rintro ⟨s, ⟨word, t, rest, rfl, date, separates, time⟩, found⟩
    rw [parseChars_date date separates, timeOfDay?_complete time, found]

end Moment

end Quiescence
