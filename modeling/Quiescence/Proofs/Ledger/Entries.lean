import Quiescence.Proofs.Ledger.Tally

/-! # What a change makes of every entry

What the ledger knows of a handle is looked up in two steps, first the context and then the name. A
change of one handle is seen by that handle alone, also where other contexts hold the same name.
-/

namespace Quiescence.Ledger

variable {ledger next : Ledger} {now : Moment} {h : Handle}

/-- A shelf that is put in place is found there, and all other shelves are as they were. -/
theorem shelf_setShelf (context : String) (new : Shelf) (shelves : List (String × Shelf))
    (count count' : Nat) (asked : String) :
    shelf ⟨setShelf context new shelves, count⟩ asked =
      if asked = context then new else shelf ⟨shelves, count'⟩ asked := by
  unfold setShelf shelf
  split
  · next nothing =>
    rw [List.lookup_filter_key]
    split
    · exact (List.isEmpty_iff.mp nothing).symm
    · rfl
  · split
    · next used =>
      rw [List.lookup_map_value fun key old => if key == context then new else old]
      by_cases same : asked = context
      · obtain ⟨old, found⟩ := Option.isSome_iff_exists.mp used
        simp [same, found]
      · simp [same]
    · next unused =>
      have absent := Option.not_isSome_iff_eq_none.mp unused
      rw [List.lookup_append]
      by_cases same : asked = context
      · simp [same, absent]
      · simp [same, List.lookup_cons, beq_false_of_ne same]

/-- Exchanging one entry of a shelf is seen by the handle of that entry alone. -/
theorem entry?_setShelf (ledger : Ledger) (h : Handle) {new : Shelf} {count : Nat}
    (others : ∀ name ≠ h.name, new.lookup name = (ledger.shelf h.context).lookup name)
    (asked : Handle) :
    entry? ⟨setShelf h.context new ledger.shelves, count⟩ asked =
      if asked = h then new.lookup h.name else ledger.entry? asked := by
  unfold entry?
  rw [shelf_setShelf h.context new ledger.shelves count ledger.count]
  obtain ⟨context, name⟩ := h
  obtain ⟨context', name'⟩ := asked
  by_cases shelved : context' = context
  · subst shelved
    by_cases named : name' = name
    · simp [named]
    · simp [named, others name' named]
  · simp [shelved]

theorem contains_iff : ledger.contains h ↔ ∃ entry, ledger.entry? h = some entry :=
  Option.isSome_iff_exists

theorem usesContext_of_contains (present : ledger.contains h) : ledger.usesContext h.context := by
  by_contra unused
  have absent := Option.not_isSome_iff_eq_none.mp unused
  simp [contains, entry?, shelf, absent] at present

/-! ## When a change is accepted -/

theorem add_cases (now : Moment) (h : Handle) (ledger : Ledger) :
    (ledger.contains h ∧ ledger.add now h = .error (.alreadyOpen h)) ∨
      (ledger.contains h = false ∧ ∃ next, ledger.add now h = .ok next) := by
  unfold add
  split
  · next present => exact .inl ⟨present, rfl⟩
  · next absent => exact .inr ⟨Bool.eq_false_iff.mpr absent, _, rfl⟩

theorem remove_cases (h : Handle) (ledger : Ledger) :
    (ledger.contains h = false ∧ ledger.remove h = .error (.notOpen h)) ∨
      (ledger.contains h ∧ ∃ next, ledger.remove h = .ok next) := by
  unfold remove
  split
  · next present => exact .inr ⟨present, _, rfl⟩
  · next absent => exact .inl ⟨Bool.eq_false_iff.mpr absent, rfl⟩

theorem mark_cases (now : Moment) (h : Handle) (ledger : Ledger) :
    (ledger.contains h = false ∧ ledger.mark now h = .error (.notOpen h)) ∨
      (ledger.contains h ∧ ∃ next, ledger.mark now h = .ok next) := by
  unfold mark
  split
  · next present => exact .inr ⟨present, _, rfl⟩
  · next absent => exact .inl ⟨Bool.eq_false_iff.mpr absent, rfl⟩

/-! ## What an accepted change does -/

theorem entry?_add (added : ledger.add now h = .ok next) (asked : Handle) :
    next.entry? asked = if asked = h then some ⟨now, none⟩ else ledger.entry? asked := by
  unfold add at added
  split at added
  · cases added
  · next absent =>
    cases added
    have fresh : (ledger.shelf h.context).lookup h.name = none :=
      Option.not_isSome_iff_eq_none.mp absent
    rw [entry?_setShelf ledger h fun name other => ?_]
    · simp [List.lookup_append, fresh]
    · simp [List.lookup_append, List.lookup_cons, beq_false_of_ne other]

theorem entry?_remove (removed : ledger.remove h = .ok next) (asked : Handle) :
    next.entry? asked = if asked = h then none else ledger.entry? asked := by
  unfold remove at removed
  split at removed
  · cases removed
    rw [entry?_setShelf ledger h fun name other => by rw [List.lookup_filter_key, if_neg other],
      List.lookup_filter_key, if_pos rfl]
  · cases removed

theorem entry?_mark (marked : ledger.mark now h = .ok next) (asked : Handle) :
    next.entry? asked = if asked = h
      then (ledger.entry? asked).map fun entry => { entry with modifiedAt := some now }
      else ledger.entry? asked := by
  unfold mark at marked
  split at marked
  · cases marked
    have changed (name : String) := List.lookup_map_value
      (fun name entry => if name == h.name then { entry with modifiedAt := some now } else entry)
      (ledger.shelf h.context) name
    rw [entry?_setShelf ledger h fun name other => ?_, changed]
    · split
      · next same => simp [same, entry?]
      · rfl
    · rw [changed]
      simp [other]
  · cases marked

theorem entry?_clearContext (context : String) (ledger : Ledger) (asked : Handle) :
    entry? (ledger.clearContext context).2 asked =
      if asked.context = context then none else ledger.entry? asked := by
  simp only [shelf, entry?, clearContext, List.lookup_filter_key]
  split
  · rfl
  · rfl

theorem entry?_empty (asked : Handle) : empty.entry? asked = none := rfl

theorem contains_add (added : ledger.add now h = .ok next) (k : Handle) :
    next.contains k ↔ k = h ∨ ledger.contains k := by
  rw [contains, contains, entry?_add added]
  by_cases same : k = h
  · simp [same]
  · simp [same]

theorem contains_remove (removed : ledger.remove h = .ok next) (k : Handle) :
    next.contains k ↔ ledger.contains k ∧ k ≠ h := by
  rw [contains, contains, entry?_remove removed]
  by_cases same : k = h
  · simp [same]
  · simp [same]

theorem contains_mark (marked : ledger.mark now h = .ok next) (k : Handle) :
    next.contains k ↔ ledger.contains k := by
  rw [contains, contains, entry?_mark marked]
  by_cases same : k = h
  · simp [same]
  · simp [same]

end Quiescence.Ledger
