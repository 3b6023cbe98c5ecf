import Quiescence.Proofs.Ledger.Listing

/-! # Striking handles one by one

Striking all handles of a context one by one leaves the very ledger that striking the context
leaves, and striking all handles leaves nothing. The order in which they go makes no difference.
-/

namespace Quiescence.Ledger

variable {ledger next : Ledger} {h : Handle} {context : String}

/-- Strikes handles one after the other; one that is not open is passed over. -/
def strike (hs : List Handle) (ledger : Ledger) : Ledger :=
  hs.foldl (fun ledger h =>
    match ledger.remove h with
    | .ok next => next
    | .error _ => ledger) ledger

@[simp]
theorem strike_nil (ledger : Ledger) : ledger.strike [] = ledger := rfl

theorem strike_cons (removed : ledger.remove h = .ok next) (hs : List Handle) :
    ledger.strike (h :: hs) = next.strike hs := by
  rw [strike, List.foldl_cons, removed]
  rfl

theorem strike_cons_of_refused {fault : Fault} (refused : ledger.remove h = .error fault)
    (hs : List Handle) : ledger.strike (h :: hs) = ledger.strike hs := by
  rw [strike, List.foldl_cons, refused]
  rfl

theorem strike_append (first second : List Handle) (ledger : Ledger) :
    ledger.strike (first ++ second) = (ledger.strike first).strike second := List.foldl_append

theorem contains_strike (hs : List Handle) (ledger : Ledger) (k : Handle) :
    (ledger.strike hs).contains k ↔ ledger.contains k ∧ k ∉ hs := by
  induction hs generalizing ledger with
  | nil => simp
  | cons h rest ih =>
    rcases remove_cases h ledger with ⟨absent, refused⟩ | ⟨_, next, removed⟩
    · rw [strike_cons_of_refused refused, ih, List.mem_cons, not_or]
      refine and_congr_right fun present => ⟨fun spared => ⟨?_, spared⟩, And.right⟩
      rintro rfl
      rw [absent] at present
      cases present
    · rw [strike_cons removed, ih, contains_remove removed, List.mem_cons, not_or, and_assoc]

/-- Exchanging the shelf of a context makes no difference to the other contexts. -/
theorem filter_setShelf (context : String) (new : Shelf) (shelves : List (String × Shelf)) :
    (setShelf context new shelves).filter (·.1 != context) =
      shelves.filter (·.1 != context) := by
  unfold setShelf
  split
  · rw [List.filter_filter]
    simp
  · split
    · have struck : (shelves.filter (·.1 != context)).lookup context = none := by
        rw [List.lookup_filter_key, if_pos rfl]
      rw [List.filter_map]
      exact List.map_replace_key_eq_self struck new
    · simp

namespace Tallied

theorem strike (tallied : ledger.Tallied) (hs : List Handle) : (ledger.strike hs).Tallied := by
  induction hs generalizing ledger with
  | nil => exact tallied
  | cons h rest ih =>
    rcases remove_cases h ledger with ⟨_, refused⟩ | ⟨_, next, removed⟩
    · rw [strike_cons_of_refused refused]
      exact ih tallied
    · rw [strike_cons removed]
      exact ih (tallied.remove removed)

theorem opened_strike (tallied : ledger.Tallied) (hs : List Handle) :
    (ledger.strike hs).opened = ledger.opened \ hs.toFinset := by
  ext k
  rw [(tallied.strike hs).mem_opened_iff, contains_strike, Finset.mem_sdiff,
    tallied.mem_opened_iff, List.mem_toFinset]

/-- What is struck elsewhere leaves the names of a context as they are. -/
theorem names_strike (tallied : ledger.Tallied) {hs : List Handle}
    (elsewhere : ∀ h ∈ hs, h.context ≠ context) :
    (ledger.strike hs).names context = ledger.names context := by
  refine ((tallied.strike hs).sortedLT_names context).eq_of_mem_iff
    (tallied.sortedLT_names context) fun name => ?_
  rw [(tallied.strike hs).mem_names_iff, tallied.mem_names_iff, contains_strike,
    and_iff_left_iff_imp]
  exact fun _ struck => elsewhere _ struck rfl

/-- A ledger in which nothing is open has nothing else in it. -/
theorem eq_empty (tallied : ledger.Tallied) (nothing : ledger.opened = ∅) : ledger = empty := by
  have count : ledger.count = 0 := by rw [← tallied.card_opened, nothing, Finset.card_empty]
  have shelves : ledger.shelves = [] := by
    by_contra some
    obtain ⟨pair, shelved⟩ := List.exists_mem_of_ne_nil _ some
    have used : ledger.usesContext pair.1 := by
      rw [usesContext, List.lookup_eq_some_of_mem tallied.contexts shelved]
      rfl
    obtain ⟨name, present⟩ := (tallied.usesContext_iff pair.1).mp used
    simpa [nothing] using (tallied.mem_opened_iff _).mpr present
  obtain ⟨_, _⟩ := ledger
  exact congrArg₂ Ledger.mk shelves count

/-- Striking all names of a context strikes the context. -/
theorem strike_names (tallied : ledger.Tallied) {names : List String} (different : names.Nodup)
    (members : ∀ name, name ∈ names ↔ ledger.contains ⟨context, name⟩) :
    ledger.strike (names.map (⟨context, ·⟩)) =
      ⟨ledger.shelves.filter (·.1 != context), ledger.count - names.length⟩ := by
  induction names generalizing ledger with
  | nil =>
    have unused : ledger.shelves.lookup context = none := by
      refine Option.not_isSome_iff_eq_none.mp fun used => ?_
      obtain ⟨name, present⟩ := (tallied.usesContext_iff context).mp used
      exact List.not_mem_nil ((members name).mpr present)
    rw [List.filter_key_eq_self unused]
    rfl
  | cons name rest ih =>
    obtain ⟨fresh, different⟩ := List.nodup_cons.mp different
    have present := (members name).mp List.mem_cons_self
    have removed : ledger.remove ⟨context, name⟩ = .ok ⟨Ledger.setShelf context
        ((ledger.shelf context).filter (·.1 != name)) ledger.shelves, ledger.count - 1⟩ :=
      if_pos present
    rw [List.map_cons, strike_cons removed, ih (tallied.remove removed) different fun other => ?_]
    · simp only [filter_setShelf, List.length_cons, Nat.sub_sub, Nat.add_comm 1]
    · rw [contains_remove removed, ← members, List.mem_cons]
      constructor
      · intro later
        refine ⟨.inr later, fun same => fresh ?_⟩
        rwa [← (Handle.mk.inj same).2]
      · rintro ⟨same | later, differ⟩
        · exact absurd (congrArg (Handle.mk context) same) differ
        · exact later

theorem strike_context (tallied : ledger.Tallied) (context : String) :
    ledger.strike ((ledger.names context).map (⟨context, ·⟩)) =
      (ledger.clearContext context).2 := by
  rw [tallied.strike_names (tallied.sortedLT_names context).nodup (tallied.mem_names_iff context),
    length_names]
  rfl

theorem strike_handles (tallied : ledger.Tallied) : ledger.strike ledger.handles = empty := by
  refine (tallied.strike _).eq_empty ?_
  rw [tallied.opened_strike, opened, Finset.sdiff_self]

end Tallied

end Quiescence.Ledger
