import Mathlib.Data.List.Perm.Subperm
import Mathlib.Logic.Relation
import Quiescence.Json.Reader
import Quiescence.Proofs.Document.Fields
import Quiescence.Toml.Reader

/-! # Documents that say the same in other words

An outline tells which parts of a document are records and lists, and how the defaults of fields are
spelled. Documents of one outline say the same in whatever order a map holds its fields, whatever
else it holds, and whether a field that has its default is spelled out or left out. A decoder that
follows the outline reads them alike.
-/

namespace Quiescence

/-- A field in an outline: its name, the outline of its value, and the documents that spell its
default, if it has one. -/
structure Part (β : Type) where
  name : String
  inner : β
  defaults : List Doc := []

/-- What is made of a document. -/
inductive Outline where
  /-- It is taken as a whole. -/
  | plain
  | list (item : Outline)
  /-- Its fields in declaration order. -/
  | record (parts : List (Part Outline))

/-- An edit that turns one document into another that says the same. Edits that add a field add it
in front; from there it gets to any place by a permutation. -/
inductive Rewords : Outline → Doc → Doc → Prop
  /-- The fields of a map in another order. -/
  | permuted {parts : List (Part Outline)} {entries others : List (Doc × Doc)}
      (same : entries.Perm others) : Rewords (.record parts) (.map entries) (.map others)
  /-- A field that is not in the outline, with any value; only what is unreadable cannot be passed
  over. -/
  | unknown {parts : List (Part Outline)} {key : String} (unknown : ∀ p ∈ parts, p.name ≠ key)
      {value : Doc} (skippable : value.isSkippable) (entries : List (Doc × Doc)) :
      Rewords (.record parts) (.map entries) (.map ((.str key, value) :: entries))
  /-- A field that the map does not have, with its default. -/
  | default {parts : List (Part Outline)} {p : Part Outline} (mem : p ∈ parts) {value : Doc}
      (spelled : value ∈ p.defaults) {entries : List (Doc × Doc)}
      (absent : .str p.name ∉ entries.map Prod.fst) :
      Rewords (.record parts) (.map entries) (.map ((.str p.name, value) :: entries))
  /-- An edit of the value of a field. -/
  | inside {parts : List (Part Outline)} {p : Part Outline} (mem : p ∈ parts) {value value' : Doc}
      (edit : Rewords p.inner value value') (entries : List (Doc × Doc)) :
      Rewords (.record parts) (.map ((.str p.name, value) :: entries))
        (.map ((.str p.name, value') :: entries))
  /-- The default of the field whose place is the first behind the sequence. -/
  | next {parts : List (Part Outline)} {p : Part Outline} {docs : List Doc}
      (there : parts[docs.length]? = some p) {value : Doc} (spelled : value ∈ p.defaults) :
      Rewords (.record parts) (.seq docs) (.seq (docs ++ [value]))
  /-- An edit of the value of a field that stands in a sequence. -/
  | place {parts : List (Part Outline)} {p : Part Outline} {before : List Doc}
      (there : parts[before.length]? = some p) {value value' : Doc}
      (edit : Rewords p.inner value value') (after : List Doc) :
      Rewords (.record parts) (.seq (before ++ value :: after)) (.seq (before ++ value' :: after))
  /-- An edit of an item of a list. -/
  | item {inner : Outline} {value value' : Doc} (edit : Rewords inner value value')
      (before after : List Doc) :
      Rewords (.list inner) (.seq (before ++ value :: after)) (.seq (before ++ value' :: after))

/-- Two documents differ by edits, made or undone, that do not change what they say. -/
def Reworded (outline : Outline) : Doc → Doc → Prop := Relation.EqvGen (Rewords outline)

/-! ## Decoders -/

namespace Decoder

mutual

/-- A decoder makes of documents what the outline says. -/
inductive Follows : {α : Type} → Decoder α → Outline → Prop
  | plain {α : Type} (decode : Decoder α) : Follows decode .plain
  | list {α : Type} {decode : Decoder α} {inner : Outline} (item : Follows decode inner) :
      Follows (.list decode) (.list inner)
  | record {α : Type} {r : Record α} {fs : List SomeField} {parts : List (Part Outline)}
      (name : String) (composed : r.ComposedOf fs) (fields : FieldsFollow fs parts) :
      Follows (r.decoder name) (.record parts)

/-- The fields of a record are those of an outline, with the same defaults. -/
inductive FieldsFollow : List SomeField → List (Part Outline) → Prop
  | nil : FieldsFollow [] []
  | cons {f : SomeField} {p : Part Outline} {fs : List SomeField} {parts : List (Part Outline)}
      (name : f.field.name = p.name) (inner : Follows f.field.decode p.inner)
      (defaults : ∀ format, ∀ doc ∈ p.defaults, ∃ a, f.field.absent = some a ∧
        f.field.leftOff = some a ∧ f.field.decode format doc = .ok a)
      (rest : FieldsFollow fs parts) : FieldsFollow (f :: fs) (p :: parts)

end

/-- A field is that of an outline. -/
structure FieldFollows (f : SomeField) (p : Part Outline) : Prop where
  name : f.field.name = p.name
  inner : f.field.decode.Follows p.inner
  defaults : ∀ format, ∀ doc ∈ p.defaults, ∃ a, f.field.absent = some a ∧
    f.field.leftOff = some a ∧ f.field.decode format doc = .ok a

variable {fs : List SomeField} {parts : List (Part Outline)} {p : Part Outline} {f : SomeField}
variable {format : Format} {α : Type} {decode : Decoder α} {outline : Outline}

theorem FieldFollows.required (name : String) (inner : Follows decode outline) :
    FieldFollows ⟨.required name decode⟩ ⟨name, outline, []⟩ :=
  ⟨rfl, inner, by simp⟩

theorem FieldFollows.withDefault (name : String) (a : α) (inner : Follows decode outline)
    (defaults : List Doc) (given : ∀ format, ∀ doc ∈ defaults, decode format doc = .ok a) :
    FieldFollows ⟨.withDefault name decode a⟩ ⟨name, outline, defaults⟩ :=
  ⟨rfl, inner, fun format doc mem => ⟨a, rfl, rfl, given format doc mem⟩⟩

theorem FieldFollows.cons (first : FieldFollows f p) (rest : FieldsFollow fs parts) :
    FieldsFollow (f :: fs) (p :: parts) :=
  .cons first.name first.inner first.defaults rest

theorem FieldsFollow.getElem? (follows : FieldsFollow fs parts) {i : Nat}
    (there : parts[i]? = some p) : ∃ f, fs[i]? = some f ∧ FieldFollows f p := by
  induction i generalizing fs parts with
  | zero =>
    cases follows with
    | nil => cases there
    | cons name inner defaults rest =>
      cases there
      exact ⟨_, rfl, name, inner, defaults⟩
  | succ i ih =>
    cases follows with
    | nil => cases there
    | cons name inner defaults rest => exact ih rest there

theorem FieldsFollow.exists_of_mem (follows : FieldsFollow fs parts) (mem : p ∈ parts) :
    ∃ f ∈ fs, FieldFollows f p := by
  obtain ⟨i, there⟩ := List.getElem?_of_mem mem
  obtain ⟨f, found, field⟩ := follows.getElem? there
  exact ⟨f, List.mem_of_getElem? found, field⟩

theorem FieldsFollow.names (follows : FieldsFollow fs parts) :
    fs.map (·.field.name) = parts.map Part.name := by
  induction fs generalizing parts with
  | nil =>
    cases follows
    rfl
  | cons f fs ih =>
    cases follows with
    | cons name _ _ rest => simp only [List.map_cons, name, ih rest]

theorem Follows.exists_record (follows : Follows decode (.record parts)) :
    ∃ (r : Record α) (fs : List SomeField) (name : String),
      decode = r.decoder name ∧ r.ComposedOf fs ∧ FieldsFollow fs parts := by
  cases follows with
  | record name composed fields => exact ⟨_, _, name, rfl, composed, fields⟩

theorem items_congr {value value' : Doc}
    (alike : (decode format value).toOption = (decode format value').toOption)
    (before after : List Doc) :
    (items decode format (before ++ value :: after)).toOption =
      (items decode format (before ++ value' :: after)).toOption := by
  induction before with
  | nil => simp only [List.nil_append, items, Except.toOption_bind, alike]
  | cons first before ih => simp only [List.cons_append, items, Except.toOption_bind, ih]

end Decoder

/-- A decoder that follows the outline reads the same after an edit. -/
theorem Rewords.alike {format : Format} {outline : Outline} {doc other : Doc}
    (edit : Rewords outline doc other) {α : Type} {decode : Decoder α}
    (follows : decode.Follows outline) :
    (decode format doc).toOption = (decode format other).toOption := by
  induction edit generalizing α with
  | permuted same =>
    obtain ⟨r, fs, name, rfl, composed, _⟩ := follows.exists_record
    exact composed.decoder_perm name same
  | @unknown parts key unknown value skippable entries =>
    obtain ⟨r, fs, name, rfl, composed, fields⟩ := follows.exists_record
    have unknown : key ∉ r.names := by
      rw [composed.names, fields.names, List.mem_map]
      exact fun ⟨p, mem, same⟩ => unknown p mem same
    exact composed.decoder_unknown name unknown skippable entries
  | default mem spelled absent =>
    obtain ⟨r, fs, name, rfl, composed, fields⟩ := follows.exists_record
    obtain ⟨f, mem, field⟩ := fields.exists_of_mem mem
    obtain ⟨a, byDefault, _, given⟩ := field.defaults format _ spelled
    rw [← field.name] at absent ⊢
    exact composed.decoder_default name mem byDefault given absent
  | inside mem edit entries ih =>
    obtain ⟨r, fs, name, rfl, composed, fields⟩ := follows.exists_record
    obtain ⟨f, mem, field⟩ := fields.exists_of_mem mem
    rw [← field.name]
    exact composed.decoder_inside name mem (ih field.inner) entries
  | next there spelled =>
    obtain ⟨r, fs, name, rfl, composed, fields⟩ := follows.exists_record
    obtain ⟨f, there, field⟩ := fields.getElem? there
    obtain ⟨a, _, byDefault, given⟩ := field.defaults format _ spelled
    exact composed.decoder_next name there byDefault given
  | place there edit after ih =>
    obtain ⟨r, fs, name, rfl, composed, fields⟩ := follows.exists_record
    obtain ⟨f, there, field⟩ := fields.getElem? there
    exact composed.decoder_place name there (ih field.inner) after
  | item edit before after ih =>
    cases follows with
    | list item => exact Decoder.items_congr (ih item) before after

/-- A decoder that follows the outline reads documents alike that say the same in other words. -/
theorem Reworded.alike {outline : Outline} {doc other : Doc} (reworded : Reworded outline doc other)
    {α : Type} {decode : Decoder α} (follows : decode.Follows outline) (format : Format) (a : α) :
    decode format doc = .ok a ↔ decode format other = .ok a := by
  have same : Equivalence fun one two =>
      (decode format one).toOption = (decode format two).toOption := eq_equivalence.comap _
  exact Except.toOption_eq_iff.mp
    (same.eqvGen_iff.mp (reworded.mono fun _ _ edit => edit.alike follows)) a

/-- Fields that a map does not have may all be added with their defaults. -/
theorem Reworded.add_defaults {parts : List (Part Outline)} {fields entries : List (Doc × Doc)}
    (spelled : ∀ field ∈ fields, ∃ p ∈ parts, field.1 = .str p.name ∧ field.2 ∈ p.defaults)
    (different : (fields.map Prod.fst).Nodup)
    (absent : ∀ key ∈ fields.map Prod.fst, key ∉ entries.map Prod.fst) :
    Reworded (.record parts) (.map entries) (.map (fields ++ entries)) := by
  induction fields with
  | nil => exact .refl _
  | cons field fields ih =>
    obtain ⟨key, value⟩ := field
    obtain ⟨⟨p, mem, rfl, default⟩, others⟩ := List.forall_mem_cons.mp spelled
    obtain ⟨fresh, different⟩ := List.nodup_cons.mp different
    obtain ⟨first, absent⟩ := List.forall_mem_cons.mp absent
    refine .trans _ _ _ (ih others different absent) (.rel _ _ (.default mem default ?_))
    rw [List.map_append, List.mem_append, not_or]
    exact ⟨fresh, first⟩

/-- What a map without fields is read as, is also read from one that spells some of the defaults. -/
theorem Decoder.Follows.decode_spelled {format : Format} {α : Type} {decode : Decoder α}
    {parts : List (Part Outline)} (follows : decode.Follows (.record parts)) {a : α}
    (nothing : decode format (.map []) = .ok a) {fields given : List (Doc × Doc)}
    (spelled : ∀ field ∈ fields, ∃ p ∈ parts, field.1 = .str p.name ∧ field.2 ∈ p.defaults)
    (different : (fields.map Prod.fst).Nodup) (among : given.Subperm fields) :
    decode format (.map given) = .ok a := by
  obtain ⟨chosen, same, sub⟩ := among
  have keys : (given.map Prod.fst).Nodup :=
    (same.map Prod.fst).nodup_iff.mp (different.sublist (sub.map Prod.fst))
  have spelled : ∀ field ∈ given, ∃ p ∈ parts, field.1 = .str p.name ∧ field.2 ∈ p.defaults :=
    fun field mem => spelled field (sub.subset (same.mem_iff.mpr mem))
  have added : Reworded (.record parts) (.map []) (.map (given ++ [])) :=
    .add_defaults spelled keys (by simp)
  rw [List.append_nil] at added
  exact (added.alike follows format a).mp nothing

/-- Whatever a decoder reads from a document, or from a text in one of the two formats, it reads
from every other one that says the same in other words. -/
structure Decoder.IgnoresWording {α : Type} (decode : Decoder α) (outline : Outline) : Prop where
  document : ∀ {doc other : Doc}, Reworded outline doc other → ∀ format a,
    decode format doc = .ok a ↔ decode format other = .ok a
  toml : ∀ {text text' : String} {doc other : Doc}, Toml.read? text = some doc →
    Toml.read? text' = some other → Reworded outline doc other → ∀ a,
    Toml.decode decode text = .ok a ↔ Toml.decode decode text' = .ok a
  json : ∀ {text text' : String}, (Json.read text).complete → (Json.read text').complete →
    Reworded outline (Json.read text).doc (Json.read text').doc → ∀ a,
    Json.decode decode text = .ok a ↔ Json.decode decode text' = .ok a

theorem Decoder.Follows.ignoresWording {α : Type} {decode : Decoder α} {outline : Outline}
    (follows : decode.Follows outline) : decode.IgnoresWording outline where
  document reworded := reworded.alike follows
  toml read read' reworded := by
    simp only [Toml.decode, read, read']
    exact reworded.alike follows .toml
  json {text text'} complete complete' reworded a := by
    have same := reworded.alike follows .json
    simp only [Json.decode, complete, complete', if_true]
    simpa only [bind_pure] using same a

end Quiescence
