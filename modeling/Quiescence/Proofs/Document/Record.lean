import Mathlib.Tactic.SplitIfs
import Quiescence.Document.Record

/-! # Records read from maps

A map whose names are all different is read as a record if every field of the record has a value
there, or a default, and whatever else the map holds can be passed over. The order of the fields in
the map does not matter.
-/

namespace Quiescence

/-- The fields of a map that holds these documents under these names. -/
def Doc.named (pairs : List (String × Doc)) : List (Doc × Doc) :=
  pairs.map fun (name, doc) => (.str name, doc)

/-- In a map with different names every document is found under its name. -/
theorem Doc.field?_named {pairs : List (String × Doc)} (different : (pairs.map Prod.fst).Nodup)
    {name : String} {doc : Doc} (mem : (name, doc) ∈ pairs) :
    field? name (named pairs) = some doc := by
  induction pairs with
  | nil => cases mem
  | cons pair pairs ih =>
    obtain ⟨fresh, different⟩ := List.nodup_cons.mp different
    rw [named, List.map_cons, field?]
    rcases List.mem_cons.mp mem with rfl | mem
    · exact if_pos rfl
    · have other : pair.1 ≠ name := fun same => fresh (same ▸ List.mem_map_of_mem mem)
      exact (if_neg other).trans (ih different mem)

namespace Record

variable {α β : Type} {r : Record α} {s : Record β} {f : Field α} {format : Format}
variable {get : String → Option Doc} {a : α} {b : β} {doc : Doc}

/-- The documents that `get` finds under the names of the fields give the value `a`. -/
structure Yields (r : Record α) (format : Format) (get : String → Option Doc) (a : α) : Prop where
  /-- Each of them is sound by itself. -/
  checked : ∀ name doc, get name = some doc → r.check format name doc = .ok ()
  built : r.ofNames format get = .ok a

theorem Yields.field (found : get f.name = some doc) (decoded : f.decode format doc = .ok a) :
    (Record.field f).Yields format get a where
  checked name other found' := by
    by_cases same : name = f.name
    · rw [same, found] at found'
      cases found'
      simp only [Record.field, same, if_true, decoded]
      rfl
    · simp [Record.field, same]
  built := by simp [Record.field, found, decoded]

theorem Yields.and (left : r.Yields format get a) (right : s.Yields format get b) :
    (r.and s).Yields format get (a, b) where
  checked name doc found := by
    simp only [Record.and, left.checked name doc found, right.checked name doc found, bind,
      Except.bind]
  built := by
    simp only [Record.and, left.built, right.built, bind, Except.bind, pure, Except.pure]

theorem Yields.map (yields : r.Yields format get a) (put : α → β) :
    (r.map put).Yields format get (put a) where
  checked := yields.checked
  built := by
    simp only [Record.map, yields.built]
    rfl

/-- Different names whose documents are sound pass the check in any order. -/
theorem checkFields_named {pairs : List (String × Doc)} {seen : List String}
    (different : (pairs.map Prod.fst).Nodup) (fresh : ∀ pair ∈ pairs, pair.1 ∉ seen)
    (sound : ∀ pair ∈ pairs, r.check format pair.1 pair.2 = .ok ())
    (skippable : ∀ pair ∈ pairs, pair.1 ∉ r.names → pair.2.isSkippable) :
    r.checkFields format seen (Doc.named pairs) = .ok () := by
  induction pairs generalizing seen with
  | nil => rfl
  | cons pair pairs ih =>
    obtain ⟨first, different⟩ := List.nodup_cons.mp different
    obtain ⟨fresh, later⟩ := List.forall_mem_cons.mp fresh
    obtain ⟨sound, sounds⟩ := List.forall_mem_cons.mp sound
    obtain ⟨skip, skips⟩ := List.forall_mem_cons.mp skippable
    rw [Doc.named, List.map_cons, checkFields]
    split_ifs with known
    · rw [sound]
      refine ih different (fun other mem => ?_) sounds skips
      have : other.1 ≠ pair.1 := fun same => first (same ▸ List.mem_map_of_mem mem)
      simp [this, later other mem]
    · exact ih different later sounds skips
    · exact absurd (skip known) ‹_›

/-- A map with different names is read as the value that its documents give. -/
theorem Yields.decode {pairs : List (String × Doc)} (different : (pairs.map Prod.fst).Nodup)
    (skippable : ∀ pair ∈ pairs, pair.1 ∉ r.names → pair.2.isSkippable)
    (yields : r.Yields format (Doc.field? · (Doc.named pairs)) a) (name : String) :
    r.decoder name format (.map (Doc.named pairs)) = .ok a := by
  have sound : ∀ pair ∈ pairs, r.check format pair.1 pair.2 = .ok () := fun pair mem =>
    yields.checked _ _ (Doc.field?_named different mem)
  have checked : r.checkFields format [] (Doc.named pairs) = .ok () :=
    checkFields_named different (by simp) sound skippable
  simp only [decoder, checked, yields.built, bind, Except.bind]

/-- A map that holds just the fields of a record is read as the value that they give. -/
theorem Yields.decode_fields (pairs : List (String × Doc)) (names : pairs.map Prod.fst = r.names)
    (different : r.names.Nodup) (yields : r.Yields format (Doc.field? · (Doc.named pairs)) a)
    (name : String) : r.decoder name format (.map (Doc.named pairs)) = .ok a :=
  yields.decode (names ▸ different)
    (fun _ mem other => absurd (names ▸ List.mem_map_of_mem mem) other) name

end Record

end Quiescence
