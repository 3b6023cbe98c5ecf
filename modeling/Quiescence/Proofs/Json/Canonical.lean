import Quiescence.Proofs.Document.Coding
import Quiescence.Proofs.Document.Given
import Quiescence.Proofs.Moment.Rfc3339

/-! # The canonical text of a row

A row can be worded in many ways: its times at any offset and with any number of digits, its fields
in any order and among others. What is written of a row is one of these texts. All texts that say
the same of a handle, to the nanosecond, are written as this one, and it is written as itself.
-/

namespace Quiescence

/-! ## What a document says -/

/-- The document gives both names of the handle. -/
structure Handle.SaidBy (h : Handle) (doc : Doc) : Prop where
  context : doc.given? "context_id" 0 = some (.str h.context)
  name : doc.given? "resource_name" 1 = some (.str h.name)

/-- What is given for a time says that there is none, or it is the time of an instant. -/
inductive Instant.SaidBy : Option Instant → Option Doc → Prop
  | nothing : SaidBy none none
  | null : SaidBy none (some .null)
  | time {i : Instant} {text : String} (spelled : i.SpelledBy text) :
      SaidBy (some i) (some (.str text))

/-- A handle with the exact instants of its times. -/
structure ExactRow where
  handle : Handle
  opened : Instant
  modified : Option Instant

namespace ExactRow

/-- The row, with its times cut to nanoseconds. -/
def row (e : ExactRow) : Row := ⟨e.handle, e.opened.moment, e.modified.map Instant.moment⟩

/-- The document says which handle it is, when it was opened, and when it was last modified. -/
structure SaidBy (e : ExactRow) (doc : Doc) : Prop where
  handle : ∃ part, doc.given? "handle" 0 = some part ∧ e.handle.SaidBy part
  opened : Instant.SaidBy (some e.opened) (doc.given? "opened_at" 1)
  modified : Instant.SaidBy e.modified (doc.given? "last_modified" 2)

end ExactRow

variable {format : Format} {doc : Doc} {h k : Handle} {m : Moment} {r : Row} {e e' : ExactRow}

theorem Handle.SaidBy.unique (said : h.SaidBy doc) (said' : k.SaidBy doc) : h = k := by
  have context := Option.some.inj (said.context.symm.trans said'.context)
  have name := Option.some.inj (said.name.symm.trans said'.name)
  cases h
  cases k
  cases context
  cases name
  rfl

/-- A time does not stand for instants of different nanoseconds. -/
theorem Instant.SpelledBy.moment_eq {i j : Instant} {text : String} (spelled : i.SpelledBy text)
    (spelled' : j.SpelledBy text) : i.moment = j.moment := by
  have first := Moment.ofRfc3339?_eq_some_iff.mpr ⟨i, spelled, rfl⟩
  have second := Moment.ofRfc3339?_eq_some_iff.mpr ⟨j, spelled', rfl⟩
  exact Option.some.inj (first.symm.trans second)

theorem Instant.SaidBy.moment_eq {i j : Option Instant} {given : Option Doc}
    (said : Instant.SaidBy i given) (said' : Instant.SaidBy j given) :
    i.map moment = j.map moment := by
  cases said with
  | nothing => cases said'; rfl
  | null => cases said'; rfl
  | time spelled => cases said' with
    | time spelled' => exact congrArg some (spelled.moment_eq spelled')

/-- A document does not say different things of a row. -/
theorem ExactRow.SaidBy.row_eq (said : e.SaidBy doc) (said' : e'.SaidBy doc) : e.row = e'.row := by
  obtain ⟨part, given, handle⟩ := said.handle
  obtain ⟨part', given', handle'⟩ := said'.handle
  obtain rfl : part = part' := Option.some.inj (given.symm.trans given')
  have opened := Option.some.inj (said.opened.moment_eq said'.opened)
  rw [ExactRow.row, ExactRow.row, handle.unique handle', opened,
    said.modified.moment_eq said'.modified]

/-! ## What is read -/

theorem Decoder.eq_str_of_string {s : String} (decoded : Decoder.string format doc = .ok s) :
    doc = .str s := by
  cases doc <;> cases decoded
  rfl

theorem Decoder.option_eq_ok {α : Type} {decode : Decoder α} {a : Option α}
    (decoded : Decoder.option decode format doc = .ok a) :
    (doc = .null ∧ a = none) ∨ ∃ b, decode format doc = .ok b ∧ a = some b := by
  unfold Decoder.option at decoded
  split at decoded
  · cases decoded
    exact .inl ⟨rfl, rfl⟩
  · cases inner : decode format doc with
    | error e => rw [inner] at decoded; cases decoded
    | ok b => rw [inner] at decoded; cases decoded; exact .inr ⟨b, rfl, rfl⟩

theorem Handle.saidBy_of_decoder (decoded : Handle.decoder format doc = .ok h) : h.SaidBy doc := by
  have context := Record.ComposedOf.field (.required "context_id" .string)
  have name := Record.ComposedOf.field (.required "resource_name" .string)
  have both := context.and name (by decide)
  obtain ⟨⟨c, n⟩, reads, rfl⟩ := ((both.map _).readsFrom decoded).map both
  obtain ⟨first, second⟩ := reads.and context name
  obtain ⟨part, given, decoded⟩ := first.required
  obtain ⟨part', given', decoded'⟩ := second.required
  rw [Decoder.eq_str_of_string decoded] at given
  rw [Decoder.eq_str_of_string decoded'] at given'
  exact ⟨given, given'⟩

theorem Instant.exists_saidBy (decoded : Moment.decoder format doc = .ok m) :
    ∃ i : Instant, Instant.SaidBy (some i) (some doc) ∧ i.moment = m := by
  cases doc with
  | str text =>
    rw [Moment.decoder] at decoded
    cases read : Moment.ofRfc3339? text with
    | none => rw [read] at decoded; cases decoded
    | some _ =>
      rw [read] at decoded
      cases decoded
      obtain ⟨i, spelled, same⟩ := Moment.ofRfc3339?_eq_some_iff.mp read
      exact ⟨i, .time spelled, same⟩
  | _ => cases decoded

/-- Whatever is read as a row says so. -/
theorem ExactRow.exists_saidBy (decoded : Row.decoder format doc = .ok r) :
    ∃ e : ExactRow, e.SaidBy doc ∧ e.row = r := by
  have handle := Record.ComposedOf.field (.required "handle" Handle.decoder)
  have opened := Record.ComposedOf.field (.required "opened_at" Moment.decoder)
  have modified := Record.ComposedOf.field (.nullable "last_modified" Moment.decoder)
  have times := opened.and modified (by decide)
  have all := handle.and times (by decide)
  obtain ⟨⟨h, o, l⟩, reads, rfl⟩ := ((all.map _).readsFrom decoded).map all
  obtain ⟨first, rest⟩ := reads.and handle times
  obtain ⟨second, third⟩ := rest.and opened modified
  obtain ⟨part, given, decoded⟩ := first.required
  have handleSaid := Handle.saidBy_of_decoder decoded
  obtain ⟨part', given', decoded'⟩ := second.required
  obtain ⟨i, openedSaid, rfl⟩ := Instant.exists_saidBy decoded'
  rw [← given'] at openedSaid
  have modifiedSaid : ∃ j, Instant.SaidBy j (doc.given? "last_modified" 2) ∧
      j.map Instant.moment = l := by
    rcases third.nullable with ⟨absent, rfl⟩ | ⟨part'', given'', decoded''⟩
    · change doc.given? "last_modified" 2 = none at absent
      exact ⟨none, absent ▸ .nothing, rfl⟩
    · change doc.given? "last_modified" 2 = some part'' at given''
      rw [given'']
      rcases Decoder.option_eq_ok decoded'' with ⟨rfl, rfl⟩ | ⟨m, inner, rfl⟩
      · exact ⟨none, .null, rfl⟩
      · obtain ⟨j, said, rfl⟩ := Instant.exists_saidBy inner
        exact ⟨some j, said, rfl⟩
  obtain ⟨j, modifiedSaid, rfl⟩ := modifiedSaid
  exact ⟨⟨h, i, j⟩, ⟨⟨part, given, handleSaid⟩, openedSaid, modifiedSaid⟩, rfl⟩

namespace Json

/-- What is written of rows is canonical. -/
structure Canonical (write : Row → String) : Prop where
  /-- A text is read as the row of which it speaks. -/
  said : ∀ {text r}, decode Row.decoder text = .ok r →
    ∃ e : ExactRow, e.SaidBy (read text).doc ∧ e.row = r
  /-- What is written of a row that was read is read as the same row, and so it is written as it
  stands. -/
  fixed : ∀ {text r}, decode Row.decoder text = .ok r → decode Row.decoder (write r) = .ok r
  /-- Two texts are written alike if they say the same, to the nanosecond, and not otherwise. -/
  alike : ∀ {text text' r r' e e'}, decode Row.decoder text = .ok r →
    decode Row.decoder text' = .ok r' → ExactRow.SaidBy e (read text).doc →
    ExactRow.SaidBy e' (read text').doc → (write r = write r' ↔ e.row = e'.row)

theorem decoded_of_decode {α : Type} {decoder : Decoder α} {text : String} {a : α}
    (decoded : decode decoder text = .ok a) : decoder .json (read text).doc = .ok a := by
  rw [decode] at decoded
  cases inner : decoder .json (read text).doc with
  | error e => rw [inner] at decoded; cases decoded
  | ok b =>
    simp only [inner, bind, Except.bind] at decoded
    split at decoded <;> cases decoded
    rfl

/-- Every text of a row is written in one way, which depends on the handle and on the instants of
its times only. -/
theorem row_text_is_canonical : Canonical fun r => (r.toJson Moment.toRfc3339).compact := by
  have fixed (r : Row) : decode Row.decoder (r.toJson Moment.toRfc3339).compact = .ok r :=
    ((Value.spelledBy_compact _).decode _).trans (r.decode_toRfc3339 .json)
  refine ⟨fun decoded => ExactRow.exists_saidBy (decoded_of_decode decoded), fun _ => fixed _, ?_⟩
  intro text text' r r' e e' decoded decoded' said said'
  obtain ⟨f, heard, rfl⟩ := ExactRow.exists_saidBy (decoded_of_decode decoded)
  obtain ⟨f', heard', rfl⟩ := ExactRow.exists_saidBy (decoded_of_decode decoded')
  rw [said.row_eq heard, said'.row_eq heard']
  constructor
  · intro same
    have first := fixed f.row
    rw [same] at first
    exact Except.ok.inj (first.symm.trans (fixed f'.row))
  · exact fun same => by rw [same]

/-- A leap second in universal time, with a digit behind the nanoseconds, and the same leap second
an hour to the east, where the next year has begun. -/
theorem two_texts_of_leap_second_written_alike :
    let write (r : Row) : String := (r.toJson Moment.toRfc3339).compact
    let here : Value := .obj [
      ("handle", .obj [("context_id", .str "c"), ("resource_name", .str "")]),
      ("opened_at", .str "2016-12-31 23:59:60.5000000009Z"), ("last_modified", .null)]
    let east : Value := .obj [("opened_at", .str "2017-01-01T00:59:60.50+01:00"),
      ("colour", .nat 1),
      ("handle", .obj [("resource_name", .str ""), ("context_id", .str "c")])]
    ∃ r r' e e', decode Row.decoder here.compact = .ok r ∧ decode Row.decoder east.pretty = .ok r' ∧
      ExactRow.SaidBy e (read here.compact).doc ∧ ExactRow.SaidBy e' (read east.pretty).doc ∧
      e.row = e'.row ∧ write r = write r' ∧ decode Row.decoder (write r) = .ok r ∧
      write r = "\x7b\"handle\":\x7b\"context_id\":\"c\",\"resource_name\":\"\"\x7d,"
        ++ "\"opened_at\":\"2016-12-31T23:59:60.500Z\",\"last_modified\":null\x7d" := by
  intro write here east
  let r : Row := ⟨⟨"c", ""⟩, { second := 1483228799, nano := 1500000000 }, none⟩
  have first : decode Row.decoder here.compact = .ok r := by
    rw [(Value.spelledBy_compact here).decode]
    decide +kernel
  have second : decode Row.decoder east.pretty = .ok r := by
    rw [(Value.spelledBy_pretty east).decode]
    decide +kernel
  obtain ⟨e, said, row⟩ := row_text_is_canonical.said first
  obtain ⟨e', said', row'⟩ := row_text_is_canonical.said second
  have same : e.row = e'.row := row.trans row'.symm
  exact ⟨r, r, e, e', first, second, said, said', same,
    (row_text_is_canonical.alike first second said said').mpr same,
    row_text_is_canonical.fixed first, by decide +kernel⟩

end Json

end Quiescence
