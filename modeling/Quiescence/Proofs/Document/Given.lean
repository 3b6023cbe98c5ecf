import Quiescence.Proofs.Document.Fields

/-! # What a document gives the fields of a record

A map gives a field what stands under its name, a sequence what stands at its position. If a record
is read from a document at all, each of its fields has been read from what it was given there, or
has a default.
-/

namespace Quiescence

/-- What a document gives the field of this name and position. -/
def Doc.given? (name : String) (position : Nat) : Doc → Option Doc
  | .map entries => field? name entries
  | .seq items => items[position]?
  | _ => none

namespace Record

variable {α β : Type} {r : Record α} {s : Record β} {f : Field α} {fs gs : List SomeField}
variable {format : Format} {doc : Doc} {position : Nat} {a : α} {c : α × β} {b : β}

/-- The fields of the record, of which the first stands at the given position, are read from the
document as this value. -/
def ReadsFrom (r : Record α) (format : Format) (position : Nat) (a : α) : Doc → Prop
  | .map entries => r.ofNames format (Doc.field? · entries) = .ok a
  | .seq items => r.Takes format (items.drop position) (some a)
  | _ => r.ofNames format (fun _ => none) = .ok a

theorem Takes.unique {docs : List Doc} {one another : Option α} (first : r.Takes format docs one)
    (second : r.Takes format docs another) : one = another := by
  have same := (first "" 0).symm.trans (second "" 0)
  exact Option.map_injective (fun _ _ same => (Prod.mk.inj same).1) same

theorem ComposedOf.exists_takes (composed : r.ComposedOf fs) (format : Format) (docs : List Doc) :
    ∃ taken, r.Takes format docs taken :=
  have ⟨taken, takes, _⟩ := @takes_alike α r fs format composed docs docs fun _ _ _ => rfl
  ⟨taken, takes⟩

/-- A record that is decoded from a document is read from it field by field. -/
theorem ComposedOf.readsFrom (composed : r.ComposedOf fs) {name : String}
    (decoded : r.decoder name format doc = .ok a) : r.ReadsFrom format 0 a doc := by
  cases doc with
  | map entries =>
    rw [decoder] at decoded
    cases checked : r.checkFields format [] entries with
    | error e => rw [checked] at decoded; cases decoded
    | ok _ => rwa [checked] at decoded
  | seq items =>
    obtain ⟨taken, takes⟩ := composed.exists_takes format items
    rw [decoder] at decoded
    cases read : r.ofItems format (r.shape name) 0 items with
    | error e => rw [read] at decoded; cases decoded
    | ok pair =>
      have value := takes (r.shape name) 0
      rw [read] at decoded value
      obtain ⟨b, rfl, rfl⟩ := Option.map_eq_some_iff.mp value.symm
      -- Whatever becomes of the items that are left over, the value is the one that was taken.
      have same : b = a := by
        simp only [bind, Except.bind] at decoded
        split at decoded <;> cases decoded <;> rfl
      exact same ▸ takes
  | datetime => exact decoded
  | _ => cases decoded

namespace ReadsFrom

theorem field (reads : (Record.field f).ReadsFrom format position a doc) :
    ∃ default ∈ [f.absent, f.leftOff],
      f.value? format default (doc.given? f.name position) = some a := by
  have named {get : String → Option Doc} (read : (Record.field f).ofNames format get = .ok a) :
      f.value? format f.absent (get f.name) = some a := by
    rw [← Record.toOption_ofNames_field, read]
    rfl
  cases doc with
  | map entries => exact ⟨_, by simp, named reads⟩
  | seq items =>
    have value := (takes_field f _).unique reads
    rw [List.getElem?_drop, Nat.add_zero] at value
    exact ⟨f.leftOff, by simp, value⟩
  | _ => exact ⟨_, by simp, named reads⟩

theorem and (left : r.ComposedOf fs) (right : s.ComposedOf gs)
    (reads : (r.and s).ReadsFrom format position c doc) :
    r.ReadsFrom format position c.1 doc ∧
      s.ReadsFrom format (position + r.names.length) c.2 doc := by
  have named {get : String → Option Doc} (read : (r.and s).ofNames format get = .ok c) :
      r.ofNames format get = .ok c.1 ∧ s.ofNames format get = .ok c.2 := by
    simp only [← Except.toOption_eq_some_iff, Record.and, Except.toOption_bind,
      Option.bind_eq_some_iff] at read
    obtain ⟨a, first, b, second, pair⟩ := read
    cases pair
    exact ⟨Except.toOption_eq_some_iff.mp first, Except.toOption_eq_some_iff.mp second⟩
  cases doc with
  | map entries => exact named reads
  | seq items =>
    obtain ⟨first, takesFirst⟩ := left.exists_takes format (items.drop position)
    obtain ⟨second, takesSecond⟩ :=
      right.exists_takes format ((items.drop position).drop r.names.length)
    have both := (takesFirst.and takesSecond).unique reads
    obtain ⟨a, rfl, rest⟩ := Option.bind_eq_some_iff.mp both
    obtain ⟨b, rfl, rfl⟩ := Option.map_eq_some_iff.mp rest
    rw [List.drop_drop] at takesSecond
    exact ⟨takesFirst, takesSecond⟩
  | _ => exact named reads

theorem map (composed : r.ComposedOf fs) {put : α → β}
    (reads : (r.map put).ReadsFrom format position b doc) :
    ∃ a, r.ReadsFrom format position a doc ∧ put a = b := by
  have named {get : String → Option Doc} (read : (r.map put).ofNames format get = .ok b) :
      ∃ a, r.ofNames format get = .ok a ∧ put a = b := by
    simpa only [← Except.toOption_eq_some_iff, Record.map, Except.toOption_map,
      Option.map_eq_some_iff] using read
  cases doc with
  | map entries => exact named reads
  | seq items =>
    obtain ⟨taken, takes⟩ := composed.exists_takes format (items.drop position)
    obtain ⟨a, rfl, rfl⟩ := Option.map_eq_some_iff.mp ((takes.map put).unique reads)
    exact ⟨a, takes, rfl⟩
  | _ => exact named reads

/-- A field that must be given was given. -/
theorem required {name : String} {decode : Decoder α}
    (reads : (Record.field (.required name decode)).ReadsFrom format position a doc) :
    ∃ part, doc.given? name position = some part ∧ decode format part = .ok a := by
  obtain ⟨default, either, value⟩ := reads.field
  change (Field.required name decode).value? format default (doc.given? name position) = _ at value
  cases given : doc.given? name position with
  | none =>
    obtain rfl : default = none := by simpa [Field.required] using either
    rw [given] at value
    cases value
  | some part =>
    rw [given] at value
    exact ⟨part, rfl, Except.toOption_eq_some_iff.mp value⟩

/-- A field that may be null has nothing for a value if it was not given. -/
theorem nullable {name : String} {decode : Decoder α} {a : Option α}
    (reads : (Record.field (.nullable name decode)).ReadsFrom format position a doc) :
    (doc.given? name position = none ∧ a = none) ∨
      ∃ part, doc.given? name position = some part ∧ Decoder.option decode format part = .ok a := by
  obtain ⟨default, either, value⟩ := reads.field
  change (Field.nullable name decode).value? format default (doc.given? name position) = _ at value
  cases given : doc.given? name position with
  | none =>
    rw [given, Field.value?] at value
    subst value
    exact .inl ⟨rfl, by simpa [Field.nullable] using either⟩
  | some part =>
    rw [given] at value
    exact .inr ⟨part, rfl, Except.toOption_eq_some_iff.mp value⟩

end ReadsFrom

end Record

end Quiescence
