import Mathlib.Data.List.Nodup
import Mathlib.Tactic.SplitIfs
import Mathlib.Tactic.Tauto
import Quiescence.Document.Record

/-! # What a record takes from a document

A record is put together from fields of different names. A map is read as the record if each of its
entries is admissible by itself and no two of them give the same field; the value of a field is then
read from the entry of its name, or is the default if there is none. In a sequence the value of a
field is read from the item at its position. So two maps, or two sequences, are read alike if they
give every field the same value.
-/

namespace Except

variable {ε α β : Type}

theorem toOption_bind (x : Except ε α) (f : α → Except ε β) :
    (x >>= f).toOption = x.toOption.bind fun a => (f a).toOption := by
  cases x <;> rfl

theorem toOption_map (f : α → β) (x : Except ε α) : (f <$> x).toOption = x.toOption.map f := by
  cases x <;> rfl

theorem toOption_eq_some_iff {x : Except ε α} {a : α} : x.toOption = some a ↔ x = .ok a := by
  cases x <;> simp [Except.toOption]

theorem toOption_eq_iff {x y : Except ε α} :
    x.toOption = y.toOption ↔ ∀ a, x = .ok a ↔ y = .ok a := by
  simp only [← toOption_eq_some_iff]
  exact Option.ext_iff

end Except

namespace Quiescence

namespace Doc

theorem field?_cons (name key : String) (value : Doc) (entries : List (Doc × Doc)) :
    field? name ((.str key, value) :: entries) =
      if key = name then some value else field? name entries :=
  rfl

theorem field?_of_not_mem {name : String} {entries : List (Doc × Doc)}
    (absent : .str name ∉ entries.map Prod.fst) : field? name entries = none := by
  induction entries with
  | nil => rfl
  | cons entry entries ih =>
    obtain ⟨key, value⟩ := entry
    obtain ⟨other, behind⟩ := not_or.mp (mt List.mem_cons.mpr absent)
    cases key with
    | str key =>
      have other : key ≠ name := fun same => other (congrArg Doc.str same.symm)
      rw [field?_cons, if_neg other, ih behind]
    | _ => exact ih behind

end Doc

/-- The value that a document gives a field, or the default if no document is given. -/
def Field.value? {α : Type} (f : Field α) (format : Format) (default : Option α) :
    Option Doc → Option α
  | some doc => (f.decode format doc).toOption
  | none => default

/-- A field of some type. -/
structure SomeField where
  {type : Type}
  field : Field type

namespace Record

theorem toOption_ofNames_field {α : Type} (f : Field α) (format : Format)
    (get : String → Option Doc) : ((Record.field f).ofNames format get).toOption =
      f.value? format f.absent (get f.name) := by
  simp only [Record.field]
  split <;> simp_all [Field.value?, Except.toOption]

section Items

variable {α β : Type} {r : Record α} {s : Record β} {format : Format} {docs : List Doc}

/-- From the start of this sequence a record takes this value, or none. It takes an item for each of
its fields and leaves the others. -/
def Takes (r : Record α) (format : Format) (docs : List Doc) (value : Option α) : Prop :=
  ∀ shape position, (r.ofItems format shape position docs).toOption =
    value.map (·, docs.drop r.names.length)

theorem takes_field (f : Field α) (docs : List Doc) :
    (Record.field f).Takes format docs (f.value? format f.leftOff docs[0]?) := by
  intro shape position
  cases docs with
  | nil =>
    simp only [Record.field, List.getElem?_nil, Field.value?]
    cases f.leftOff <;> rfl
  | cons doc docs =>
    simp only [Record.field, Except.toOption_bind, Field.value?, List.getElem?_cons_zero]
    cases (f.decode format doc).toOption <;> rfl

theorem Takes.and {a : Option α} {b : Option β} (left : r.Takes format docs a)
    (right : s.Takes format (docs.drop r.names.length) b) :
    (r.and s).Takes format docs (a.bind fun a => b.map (a, ·)) := by
  intro shape position
  simp only [Record.and, Except.toOption_bind, left shape position]
  cases a with
  | none => rfl
  | some a =>
    simp only [Option.map_some, Option.bind_some, right shape]
    cases b <;> simp [pure, Except.pure, Except.toOption, List.drop_drop]

theorem Takes.map {a : Option α} (taken : r.Takes format docs a) (put : α → β) :
    (r.map put).Takes format docs (a.map put) := by
  intro shape position
  simp only [Record.map, Except.toOption_bind, taken shape position]
  cases a <;> rfl

end Items

/-- The fields that a record is put together from, in declaration order. Their names differ. -/
inductive ComposedOf : {α : Type} → Record α → List SomeField → Prop
  | field {α : Type} (f : Field α) : ComposedOf (.field f) [⟨f⟩]
  | and {α β : Type} {r : Record α} {s : Record β} {fs gs : List SomeField}
      (left : ComposedOf r fs) (right : ComposedOf s gs)
      (apart : ∀ name ∈ r.names, name ∉ s.names) : ComposedOf (r.and s) (fs ++ gs)
  | map {α β : Type} {r : Record α} {fs : List SomeField} (put : α → β) (inner : ComposedOf r fs) :
      ComposedOf (r.map put) fs

namespace ComposedOf

variable {α : Type} {r : Record α} {fs : List SomeField} {f g : SomeField} {format : Format}

theorem names (composed : r.ComposedOf fs) : r.names = fs.map (·.field.name) := by
  induction composed with
  | field f => rfl
  | and _ _ _ left right => simp only [Record.and, left, right, List.map_append]
  | map _ _ inner => exact inner

theorem length_names (composed : r.ComposedOf fs) : r.names.length = fs.length := by
  rw [composed.names, List.length_map]

theorem name_mem (composed : r.ComposedOf fs) (mem : f ∈ fs) : f.field.name ∈ r.names := by
  rw [composed.names]
  exact List.mem_map_of_mem mem

theorem nodup (composed : r.ComposedOf fs) : r.names.Nodup := by
  induction composed with
  | field f => exact List.nodup_singleton _
  | and _ _ apart left right =>
    exact left.append right fun name inLeft inRight => apart name inLeft inRight
  | map _ _ inner => exact inner

/-- A name stands for one field. -/
theorem eq_of_name_eq (composed : r.ComposedOf fs) (mem : f ∈ fs) (mem' : g ∈ fs)
    (same : f.field.name = g.field.name) : f = g :=
  List.inj_on_of_nodup_map (composed.names ▸ composed.nodup) mem mem' same

theorem check_of_not_mem (composed : r.ComposedOf fs) {name : String} (other : name ∉ r.names)
    (doc : Doc) : r.check format name doc = .ok () := by
  induction composed with
  | field f => exact if_neg fun same => other (by simp [Record.field, same])
  | and _ _ _ left right =>
    simp only [Record.and, List.mem_append, not_or] at other ⊢
    rw [left other.1, right other.2]
    rfl
  | map _ _ inner => exact inner other

/-- The check of a record lets a document pass as the value of a field if it has one. -/
theorem check_eq_ok_iff (composed : r.ComposedOf fs) (mem : f ∈ fs) (doc : Doc) :
    r.check format f.field.name doc = .ok () ↔ (f.field.decode format doc).toOption.isSome := by
  induction composed with
  | field g =>
    obtain rfl := List.mem_singleton.mp mem
    cases decoded : g.decode format doc <;> simp [Record.field, decoded, Except.toOption]
  | @and _ _ r s fs gs left right apart ihLeft ihRight =>
    rcases List.mem_append.mp mem with mem | mem
    · have elsewhere : s.check format f.field.name doc = .ok () :=
        right.check_of_not_mem (apart _ (left.name_mem mem)) doc
      rw [← ihLeft mem]
      cases checked : r.check format f.field.name doc <;>
        simp [Record.and, checked, elsewhere, bind, Except.bind]
    · have elsewhere : r.check format f.field.name doc = .ok () :=
        left.check_of_not_mem (fun inLeft => apart _ inLeft (right.name_mem mem)) doc
      rw [← ihRight mem]
      simp only [Record.and, elsewhere, bind, Except.bind]
  | map _ _ inner => exact inner mem

/-- A record read by names depends only on the values of its fields. -/
theorem ofNames_congr (composed : r.ComposedOf fs) {get get' : String → Option Doc}
    (alike : ∀ f ∈ fs, f.field.value? format f.field.absent (get f.field.name) =
      f.field.value? format f.field.absent (get' f.field.name)) :
    (r.ofNames format get).toOption = (r.ofNames format get').toOption := by
  induction composed with
  | field f => simpa only [toOption_ofNames_field] using alike _ (List.mem_singleton_self _)
  | and _ _ _ left right =>
    obtain ⟨first, second⟩ := List.forall_mem_append.mp alike
    simp only [Record.and, Except.toOption_bind, left first, right second]
  | map _ _ inner => simp only [Record.map, Except.toOption_map, inner alike]

/-- Two sequences that give every field the same value give the same record. -/
theorem takes_alike (composed : r.ComposedOf fs) {docs docs' : List Doc}
    (alike : ∀ (i : Nat) (f : SomeField), fs[i]? = some f →
      f.field.value? format f.field.leftOff docs[i]? =
        f.field.value? format f.field.leftOff docs'[i]?) :
    ∃ value, r.Takes format docs value ∧ r.Takes format docs' value := by
  induction composed generalizing docs docs' with
  | field f =>
    refine ⟨_, takes_field f docs, ?_⟩
    rw [alike 0 ⟨f⟩ rfl]
    exact takes_field f docs'
  | @and _ _ r s fs gs left _ _ ihLeft ihRight =>
    have first (i : Nat) (f : SomeField) (there : fs[i]? = some f) :=
      alike i f (by rw [List.getElem?_append_left (List.getElem?_eq_some_iff.mp there).1, there])
    have second (i : Nat) (g : SomeField) (there : gs[i]? = some g) :
        g.field.value? format g.field.leftOff (docs.drop r.names.length)[i]? =
          g.field.value? format g.field.leftOff (docs'.drop r.names.length)[i]? := by
      rw [List.getElem?_drop, List.getElem?_drop, left.length_names]
      refine alike (fs.length + i) g ?_
      rw [List.getElem?_append_right (Nat.le_add_right _ _), Nat.add_sub_cancel_left, there]
    obtain ⟨a, one, other⟩ := ihLeft first
    obtain ⟨b, one', other'⟩ := ihRight second
    exact ⟨_, one.and one', other.and other'⟩
  | map put _ inner =>
    obtain ⟨a, one, other⟩ := inner alike
    exact ⟨_, one.map put, other.map put⟩

end ComposedOf

section Maps

variable {α : Type} {r : Record α} {fs : List SomeField} {format : Format}
variable {entry : Doc × Doc} {entries others : List (Doc × Doc)} {f : SomeField}

/-- Whether an entry of a map can be read: as a field of the record if it has the name of one, and
it can be passed over if not. -/
def Admits (r : Record α) (format : Format) (entry : Doc × Doc) : Prop :=
  ∃ name, entry.1 = .str name ∧
    if name ∈ r.names then r.check format name entry.2 = .ok () else entry.2.isSkippable

/-- Two entries of a map do not give the same field of the record. -/
def Apart (r : Record α) (one other : Doc × Doc) : Prop :=
  ∀ name ∈ r.names, one.1 = .str name → other.1 ≠ .str name

theorem Apart.symm {one other : Doc × Doc} (apart : r.Apart one other) : r.Apart other one :=
  fun name known there here => apart name known here there

/-- The entries of a map can all be read, and no field is given twice. -/
structure Accepts (r : Record α) (format : Format) (entries : List (Doc × Doc)) : Prop where
  admitted : ∀ entry ∈ entries, r.Admits format entry
  apart : entries.Pairwise r.Apart

theorem accepts_cons_iff : r.Accepts format (entry :: entries) ↔
    r.Admits format entry ∧ (∀ other ∈ entries, r.Apart entry other) ∧
      r.Accepts format entries := by
  constructor
  · intro ⟨admitted, apart⟩
    obtain ⟨first, admitted⟩ := List.forall_mem_cons.mp admitted
    obtain ⟨fresh, apart⟩ := List.pairwise_cons.mp apart
    exact ⟨first, fresh, admitted, apart⟩
  · intro ⟨first, fresh, admitted, apart⟩
    exact ⟨List.forall_mem_cons.mpr ⟨first, admitted⟩, List.pairwise_cons.mpr ⟨fresh, apart⟩⟩

theorem Accepts.perm (accepts : r.Accepts format entries) (same : entries.Perm others) :
    r.Accepts format others where
  admitted entry mem := accepts.admitted entry (same.mem_iff.mpr mem)
  apart := (same.pairwise_iff Apart.symm).mp accepts.apart

theorem admits_str_iff {name : String} {value : Doc} : r.Admits format (.str name, value) ↔
    if name ∈ r.names then r.check format name value = .ok () else value.isSkippable := by
  simp [Admits]

/-- Two entries give the same field only if the first has a name of the record. -/
theorem apart_str_iff {name : String} {value : Doc} {other : Doc × Doc} :
    r.Apart (.str name, value) other ↔ (name ∈ r.names → other.1 ≠ .str name) := by
  simp only [Apart, Doc.str.injEq]
  exact ⟨fun apart known => apart name known rfl,
    fun apart _ known same => same ▸ apart (same ▸ known)⟩

/-- The record accepts a field that is added if it can be read and was not there. -/
theorem accepts_cons_iff_of_fresh {key : String} {value : Doc}
    (admitted : r.Admits format (.str key, value))
    (fresh : key ∈ r.names → .str key ∉ entries.map Prod.fst) :
    r.Accepts format ((.str key, value) :: entries) ↔ r.Accepts format entries := by
  have apart : ∀ other ∈ entries, r.Apart (.str key, value) other := fun other mem =>
    apart_str_iff.mpr fun known same => fresh known (same ▸ List.mem_map_of_mem mem)
  simp only [accepts_cons_iff, admitted, true_and, and_iff_right apart]

theorem ComposedOf.admits_field_iff (composed : r.ComposedOf fs) (mem : f ∈ fs) (value : Doc) :
    r.Admits format (.str f.field.name, value) ↔ (f.field.decode format value).toOption.isSome := by
  rw [admits_str_iff, if_pos (composed.name_mem mem), composed.check_eq_ok_iff mem]

/-- Reading a map finds no error exactly if the map is acceptable. -/
theorem checkFields_eq_ok_iff {seen : List String} :
    r.checkFields format seen entries = .ok () ↔ r.Accepts format entries ∧
      ∀ entry ∈ entries, ∀ name ∈ seen, name ∈ r.names → entry.1 ≠ .str name := by
  induction entries generalizing seen with
  | nil => simpa [checkFields] using (⟨by simp, .nil⟩ : r.Accepts format [])
  | cons entry entries ih =>
    obtain ⟨key, value⟩ := entry
    cases key with
    | str name =>
      simp only [checkFields, accepts_cons_iff, admits_str_iff, apart_str_iff, List.forall_mem_cons]
      split_ifs with known met skippable
      · simpa using fun _ _ _ fresh => (fresh name met known rfl).elim
      · cases checked : r.check format name value with
        | error e => simp [bind, Except.bind]
        | ok _ =>
          have unmet : ∀ other ∈ seen, other ∈ r.names → Doc.str name ≠ .str other :=
            fun other mem _ same => met (Doc.str.inj same ▸ mem)
          simp only [bind, Except.bind, ih, List.forall_mem_cons, forall_and]
          tauto
      · have unknown : ∀ other ∈ seen, other ∈ r.names → Doc.str name ≠ .str other :=
          fun other _ mem same => known (Doc.str.inj same ▸ mem)
        simp only [ih, skippable, known]
        tauto
      · simp [skippable]
    | _ => simp [checkFields, accepts_cons_iff, Admits]

/-- In an acceptable map every field of the record stands under its name. -/
theorem Accepts.field?_eq_some_iff (accepts : r.Accepts format entries) {name : String}
    (known : name ∈ r.names) {doc : Doc} :
    Doc.field? name entries = some doc ↔ (.str name, doc) ∈ entries := by
  induction entries with
  | nil => simp [Doc.field?]
  | cons entry entries ih =>
    obtain ⟨key, value⟩ := entry
    obtain ⟨⟨key, rfl, _⟩, fresh, accepts⟩ := accepts_cons_iff.mp accepts
    by_cases same : key = name
    · subst same
      have absent : (.str key, doc) ∉ entries := fun mem =>
        apart_str_iff.mp (fresh _ mem) known rfl
      simp [Doc.field?, absent, eq_comm]
    · have other : name ≠ key := Ne.symm same
      simp [Doc.field?, same, other, ih accepts]

end Maps

section Decoder

variable {α : Type} {r : Record α} {fs : List SomeField} {f : SomeField} {format : Format}

/-- Two maps are read alike if the record accepts both or none of them, and if they give every field
the same value. -/
theorem ComposedOf.decoder_map_alike (composed : r.ComposedOf fs) (name : String)
    {entries others : List (Doc × Doc)}
    (accepted : r.Accepts format entries ↔ r.Accepts format others)
    (alike : r.Accepts format entries → ∀ f ∈ fs,
      f.field.value? format f.field.absent (Doc.field? f.field.name entries) =
        f.field.value? format f.field.absent (Doc.field? f.field.name others)) :
    (r.decoder name format (.map entries)).toOption =
      (r.decoder name format (.map others)).toOption := by
  have checked (entries : List (Doc × Doc)) :
      (r.checkFields format [] entries).toOption = some () ↔ r.Accepts format entries := by
    rw [Except.toOption_eq_some_iff, checkFields_eq_ok_iff]
    simp
  simp only [decoder, Except.toOption_bind]
  by_cases accepts : r.Accepts format entries
  · rw [(checked entries).mpr accepts, (checked others).mpr (accepted.mp accepts)]
    exact composed.ofNames_congr (alike accepts)
  · rw [Option.eq_none_iff_forall_ne_some.mpr fun _ => mt (checked entries).mp accepts,
      Option.eq_none_iff_forall_ne_some.mpr fun _ =>
        mt (checked others).mp (mt accepted.mpr accepts)]
    rfl

/-- Two sequences are read alike if both or none of them are longer than the record, and if they
give every field the same value. -/
theorem ComposedOf.decoder_seq_alike (composed : r.ComposedOf fs) (name : String)
    {docs docs' : List Doc} (fits : docs.length ≤ fs.length ↔ docs'.length ≤ fs.length)
    (alike : ∀ (i : Nat) (f : SomeField), fs[i]? = some f →
      f.field.value? format f.field.leftOff docs[i]? =
        f.field.value? format f.field.leftOff docs'[i]?) :
    (r.decoder name format (.seq docs)).toOption =
      (r.decoder name format (.seq docs')).toOption := by
  obtain ⟨value, one, other⟩ := composed.takes_alike alike
  have read {docs : List Doc} (taken : r.Takes format docs value) :
      (r.decoder name format (.seq docs)).toOption =
        if format = .toml ∨ docs.length ≤ fs.length then value else none := by
    have room : docs.length ≤ fs.length ↔ docs.drop r.names.length = [] := by
      rw [List.drop_eq_nil_iff, composed.length_names]
    simp only [decoder, Except.toOption_bind, taken (r.shape name) 0, room]
    cases value with
    | none => simp
    | some a => cases docs.drop r.names.length <;> cases format <;> rfl
  simp only [read one, read other, fits]

/-- The order of the fields does not matter. -/
theorem ComposedOf.decoder_perm (composed : r.ComposedOf fs) (name : String)
    {entries others : List (Doc × Doc)} (same : entries.Perm others) :
    (r.decoder name format (.map entries)).toOption =
      (r.decoder name format (.map others)).toOption := by
  refine composed.decoder_map_alike name ⟨(·.perm same), (·.perm same.symm)⟩ ?_
  intro accepts f mem
  congr 1
  ext doc
  rw [accepts.field?_eq_some_iff (composed.name_mem mem), same.mem_iff,
    (accepts.perm same).field?_eq_some_iff (composed.name_mem mem)]

/-- A field that is none of the record's does not matter. -/
theorem ComposedOf.decoder_unknown (composed : r.ComposedOf fs) (name : String) {key : String}
    (unknown : key ∉ r.names) {value : Doc} (skippable : value.isSkippable)
    (entries : List (Doc × Doc)) :
    (r.decoder name format (.map entries)).toOption =
      (r.decoder name format (.map ((.str key, value) :: entries))).toOption := by
  refine composed.decoder_map_alike name (accepts_cons_iff_of_fresh ?_ ?_).symm ?_
  · rwa [admits_str_iff, if_neg unknown]
  · exact fun known => absurd known unknown
  · intro _ f mem
    have other : key ≠ f.field.name := fun same => unknown (same ▸ composed.name_mem mem)
    rw [Doc.field?_cons, if_neg other]

/-- A field that has its default might as well not be there. -/
theorem ComposedOf.decoder_default (composed : r.ComposedOf fs) (name : String) (mem : f ∈ fs)
    {a : f.type} (byDefault : f.field.absent = some a) {value : Doc}
    (given : f.field.decode format value = .ok a) {entries : List (Doc × Doc)}
    (absent : .str f.field.name ∉ entries.map Prod.fst) :
    (r.decoder name format (.map entries)).toOption =
      (r.decoder name format (.map ((.str f.field.name, value) :: entries))).toOption := by
  refine composed.decoder_map_alike name (accepts_cons_iff_of_fresh ?_ ?_).symm ?_
  · rw [composed.admits_field_iff mem, given]
    rfl
  · exact fun _ => absent
  · intro _ g mem'
    rw [Doc.field?_cons]
    split
    case isTrue same =>
      cases composed.eq_of_name_eq mem mem' same
      rw [Doc.field?_of_not_mem absent, Field.value?, Field.value?, byDefault, given]
      rfl
    case isFalse => rfl

/-- Of a field only the value matters. -/
theorem ComposedOf.decoder_inside (composed : r.ComposedOf fs) (name : String) (mem : f ∈ fs)
    {value value' : Doc}
    (alike : (f.field.decode format value).toOption = (f.field.decode format value').toOption)
    (entries : List (Doc × Doc)) :
    (r.decoder name format (.map ((.str f.field.name, value) :: entries))).toOption =
      (r.decoder name format (.map ((.str f.field.name, value') :: entries))).toOption := by
  refine composed.decoder_map_alike name ?_ ?_
  · simp only [accepts_cons_iff, apart_str_iff, composed.admits_field_iff mem, alike]
  · intro _ g mem'
    rw [Doc.field?_cons, Doc.field?_cons]
    split
    case isTrue same =>
      cases composed.eq_of_name_eq mem mem' same
      exact alike
    case isFalse => rfl

/-- A default might as well be left off at the end of a sequence. -/
theorem ComposedOf.decoder_next (composed : r.ComposedOf fs) (name : String) {docs : List Doc}
    (there : fs[docs.length]? = some f) {a : f.type} (byDefault : f.field.leftOff = some a)
    {value : Doc} (given : f.field.decode format value = .ok a) :
    (r.decoder name format (.seq docs)).toOption =
      (r.decoder name format (.seq (docs ++ [value]))).toOption := by
  have room : docs.length < fs.length := (List.getElem?_eq_some_iff.mp there).1
  refine composed.decoder_seq_alike name ?_ ?_
  · rw [List.length_append, List.length_singleton]
    omega
  · intro i g there'
    rcases Nat.lt_trichotomy i docs.length with before | rfl | behind
    · rw [List.getElem?_append_left before]
    · cases Option.some.inj (there.symm.trans there')
      rw [List.getElem?_eq_none (Nat.le_refl _), List.getElem?_concat_length, Field.value?,
        Field.value?, byDefault, given]
      rfl
    · rw [List.getElem?_eq_none (by omega), List.getElem?_eq_none (by simp; omega)]

/-- Of an item that stands for a field only the value matters. -/
theorem ComposedOf.decoder_place (composed : r.ComposedOf fs) (name : String) {before : List Doc}
    (there : fs[before.length]? = some f) {value value' : Doc}
    (alike : (f.field.decode format value).toOption = (f.field.decode format value').toOption)
    (after : List Doc) :
    (r.decoder name format (.seq (before ++ value :: after))).toOption =
      (r.decoder name format (.seq (before ++ value' :: after))).toOption := by
  refine composed.decoder_seq_alike name (by simp) ?_
  intro i g there'
  rcases Nat.lt_trichotomy i before.length with earlier | rfl | later
  · rw [List.getElem?_append_left earlier, List.getElem?_append_left earlier]
  · cases Option.some.inj (there.symm.trans there')
    simpa [Field.value?] using alike
  · obtain ⟨j, rfl⟩ := Nat.exists_eq_add_of_lt later
    rw [List.getElem?_append_right (by omega), List.getElem?_append_right (by omega)]
    simp [Nat.add_assoc]

end Decoder

end Record

end Quiescence
