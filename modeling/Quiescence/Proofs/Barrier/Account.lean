import Quiescence.Proofs.Barrier.Closing

/-! # Accounts of what is open

An observer that is registered once, and stays so, hears every notice exactly once. That is enough
to keep an account of what is open: no notice ever contradicts it, and quiescence is told as soon as
a close leaves nothing open, and at no other time.
-/

namespace Quiescence

variable {account last : Finset Handle} {o : String}

/-- Notices lead from one account of what is open to another without a contradiction. -/
inductive Follows : Finset Handle → List Notice → Finset Handle → Prop
  | nil (account : Finset Handle) : Follows account [] account
  | opened {h : Handle} {rest : List Notice} {account last : Finset Handle}
      (absent : h ∉ account) (later : Follows (insert h account) rest last) :
      Follows account (.opened h :: rest) last
  | modified {h : Handle} {rest : List Notice} {account last : Finset Handle}
      (present : h ∈ account) (later : Follows account rest last) :
      Follows account (.modified h :: rest) last
  | closed {h : Handle} {rest : List Notice} {account last : Finset Handle}
      (present : h ∈ account) (remaining : account.erase h ≠ ∅)
      (later : Follows (account.erase h) rest last) :
      Follows account (.closed h :: rest) last
  /-- The close that leaves nothing open is followed by quiescence on the spot. -/
  | emptied {h : Handle} {rest : List Notice} {account last : Finset Handle}
      (present : h ∈ account) (nothing : account.erase h = ∅) (later : Follows ∅ rest last) :
      Follows account (.closed h :: .quiescent :: rest) last

namespace Follows

theorem append {middle : Finset Handle} {first second : List Notice}
    (front : Follows account first middle) (back : Follows middle second last) :
    Follows account (first ++ second) last := by
  induction front with
  | nil => exact back
  | opened absent _ ih => exact .opened absent (ih back)
  | modified present _ ih => exact .modified present (ih back)
  | closed present remaining _ ih => exact .closed present remaining (ih back)
  | emptied present nothing _ ih => exact .emptied present nothing (ih back)

/-- Closes of different handles that are open, with quiescence behind them if nothing is left. -/
theorem closes {hs : List Handle} (different : hs.Nodup) (present : ∀ h ∈ hs, h ∈ account)
    (some : hs ≠ []) :
    Follows account (hs.map .closed ++ if account \ hs.toFinset = ∅ then [.quiescent] else [])
      (account \ hs.toFinset) := by
  induction hs generalizing account with
  | nil => exact absurd rfl some
  | cons h rest ih =>
    obtain ⟨fresh, different⟩ := List.nodup_cons.mp different
    have left : account \ (h :: rest).toFinset = account.erase h \ rest.toFinset := by
      rw [List.toFinset_cons, Finset.sdiff_insert, Finset.erase_sdiff_comm]
    have held := present h List.mem_cons_self
    rw [left]
    cases rest with
    | nil =>
      rw [List.toFinset_nil, Finset.sdiff_empty]
      by_cases nothing : account.erase h = ∅
      · rw [if_pos nothing, nothing]
        exact .emptied held nothing (.nil ∅)
      · rw [if_neg nothing]
        exact .closed held nothing (.nil _)
    | cons k more =>
      have others : ∀ other ∈ k :: more, other ∈ account.erase h := by
        intro other member
        refine Finset.mem_erase.mpr ⟨?_, present other (List.mem_cons_of_mem _ member)⟩
        rintro rfl
        exact fresh member
      have remaining : account.erase h ≠ ∅ := Finset.ne_empty_of_mem (others k List.mem_cons_self)
      exact .closed held remaining (ih different others (List.cons_ne_nil k more))

end Follows

/-! ## The notices of a change -/

namespace Gate

variable {g next : Gate}

/-- The notices of some closes account for what they strike. -/
theorem closing_follows (tallied : g.ledger.Tallied) {hs : List Handle} (different : hs.Nodup)
    (present : ∀ h ∈ hs, g.ledger.contains h) (some : hs ≠ [])
    (left : next.ledger = g.ledger.strike hs) :
    Follows g.ledger.opened (notices (closing g next hs)) next.ledger.opened := by
  have opened : next.ledger.opened = g.ledger.opened \ hs.toFinset := by
    rw [left, tallied.opened_strike]
  have account := Follows.closes different
    (fun h member => (tallied.mem_opened_iff h).mpr (present h member)) some
  have empty : next.ledger.isEmpty ↔ next.ledger.opened = ∅ :=
    (left ▸ tallied.strike hs : next.ledger.Tallied).isEmpty_iff
  rw [notices_closing]
  simp only [empty, opened]
  exact account

theorem apply_follows (tallied : g.ledger.Tallied) {now : Moment} {event : Event}
    {effects : List Effect} (applied : g.apply now event = .ok (next, effects)) :
    Follows g.ledger.opened (notices effects) next.ledger.opened := by
  rcases apply_cases applied with ⟨ledger, _, added, rfl, rfl⟩ | ⟨ledger, _, marked, rfl, rfl⟩ |
    ⟨ledger, _, removed, rfl, rfl⟩
  · obtain ⟨absent, opened⟩ := tallied.opened_add added
    exact .opened absent (opened ▸ .nil _)
  · obtain ⟨present, opened⟩ := tallied.opened_mark marked
    exact .modified present (opened ▸ .nil _)
  · have present := (tallied.mem_opened_iff _).mp (tallied.opened_remove removed).1
    refine closing_follows tallied (List.nodup_singleton _) ?_ (List.cons_ne_nil _ _) ?_
    · intro h member
      exact List.mem_singleton.mp member ▸ present
    · rw [Ledger.strike_cons removed]
      exact settle_ledger ledger g

theorem evict_follows (tallied : g.ledger.Tallied) (context : String) :
    Follows g.ledger.opened (notices (g.evict context).2.2)
      (g.evict context).2.1.ledger.opened := by
  by_cases none : g.ledger.names context = []
  · rw [evict_of_none none]
    exact .nil _
  · rw [evict_of_some none]
    refine closing_follows tallied (tallied.sortedLT_held context).nodup ?_ (by simpa using none) ?_
    · exact fun h listed => ((tallied.mem_held_iff context h).mp listed).2
    · rw [tallied.strike_context]
      exact settle_ledger _ g

theorem evictAll_follows (tallied : g.ledger.Tallied) :
    Follows g.ledger.opened (notices g.evictAll.2.2) g.evictAll.2.1.ledger.opened := by
  by_cases none : g.ledger.handles = []
  · rw [evictAll_of_none none]
    exact .nil _
  · rw [evictAll_of_some none]
    refine closing_follows tallied tallied.sortedLT_handles.nodup ?_ none ?_
    · exact fun h => (tallied.mem_handles_iff h).mp
    · rw [tallied.strike_handles]
      exact settle_ledger _ g

end Gate

/-! ## An observer that is registered once -/

/-- The notices that an observer hears. -/
def heardBy (o : String) (log : List Callback) : List Notice :=
  (heard log).filterMap fun (observer, notice) => if observer = o then some notice else none

/-- Whether an observer is removed in a callback. -/
def Callback.removes (o : String) : Callback → Bool
  | told .. => false
  | removed _ other _ => other == o

/-- The observer is not removed in any of the callbacks. -/
def Spares (o : String) (log : List Callback) : Prop :=
  ∀ callback ∈ log, callback.removes o = false

@[simp]
theorem heardBy_append (o : String) (first second : List Callback) :
    heardBy o (first ++ second) = heardBy o first ++ heardBy o second := by
  rw [heardBy, heard_append, List.filterMap_append]
  rfl

theorem spares_append {first second : List Callback} :
    Spares o (first ++ second) ↔ Spares o first ∧ Spares o second := List.forall_mem_append

namespace Audience

variable {notice : Notice} {glimpse : Glimpse}

/-- How often an observer is registered. -/
def registrations (o : String) (a : Audience) : Nat := a.registered.count o

theorem registrations_register (o named : String) (r : Reactions) (a : Audience) :
    a.registrations o ≤ (a.register named r).registrations o := by
  simp only [registrations, register, introduce_registered, List.count_append]
  exact Nat.le_add_right _ _

/-- Removing another observer leaves the registrations of this one. -/
theorem registrations_remove {named : String} (other : named ≠ o) (a : Audience) :
    (a.remove named).registrations o = a.registrations o := by
  simp only [registrations, remove, introduce_registered]
  exact List.count_filter (by simpa using other.symm)

theorem registrations_react (teller : String) (rs : List Reaction) (a : Audience)
    (spared : Spares o (a.react teller rs).log) :
    a.registrations o ≤ (a.react teller rs).audience.registrations o := by
  induction rs generalizing a with
  | nil => exact le_rfl
  | cons reaction rest ih =>
    cases reaction with
    | add named => exact (registrations_register o named {} a).trans (ih _ spared)
    | remove named =>
      obtain ⟨other, spared⟩ := List.forall_mem_cons.mp spared
      rw [← registrations_remove (ne_of_beq_false other) a]
      exact ih _ spared
    | panic => exact le_rfl

theorem registrations_tellEach (observers : List String) (a : Audience)
    (spared : Spares o (a.tellEach notice glimpse observers).log) :
    a.registrations o ≤ (a.tellEach notice glimpse observers).audience.registrations o := by
  induction observers generalizing a with
  | nil => exact le_rfl
  | cons observer others ih =>
    simp only [tellEach] at spared ⊢
    split at spared
    · exact registrations_react observer _ a (List.forall_mem_cons.mp spared).2
    · obtain ⟨early, late⟩ := spares_append.mp spared
      exact (registrations_react observer _ a (List.forall_mem_cons.mp early).2).trans (ih _ late)

theorem heardBy_tell (a : Audience) (calm : (a.tell notice glimpse).panic = none)
    (once : a.registrations o = 1) : heardBy o (a.tell notice glimpse).log = [notice] := by
  have copies (observers : List String) : (observers.map (·, notice)).filterMap
      (fun (observer, notice) => if observer = o then some notice else none) =
        List.replicate (observers.count o) notice := by
    induction observers with
    | nil => rfl
    | cons observer others ih =>
      rw [List.map_cons, List.filterMap_cons, ih, List.count_cons]
      by_cases same : observer = o
      · simp [same, List.replicate_succ]
      · simp [same]
  rw [heardBy, tell_heard a calm, copies]
  exact congrArg (List.replicate · notice) once

end Audience

namespace Barrier

variable {α : Type} {value : α}

theorem registrations_perform (effects : List Effect) (b : Barrier)
    (spared : Spares o (b.perform value effects).log) :
    b.audience.registrations o ≤
      (b.perform value effects).barrier.audience.registrations o := by
  induction effects generalizing b with
  | nil => exact le_rfl
  | cons effect rest ih =>
    cases effect with
    | signal => exact ih { b with gate := b.gate.signal } spared
    | tell notice =>
      simp only [perform] at spared ⊢
      cases ended : (b.audience.tell notice b.glimpse).panic with
      | some observer =>
        simp only [ended] at spared ⊢
        exact Audience.registrations_tellEach _ _ spared
      | none =>
        simp only [ended] at spared ⊢
        obtain ⟨early, late⟩ := spares_append.mp spared
        exact (Audience.registrations_tellEach _ _ early).trans (ih _ late)

/-- Unless somebody panics, an observer that is registered once hears every notice once. -/
theorem heardBy_perform (effects : List Effect) (b : Barrier)
    (calm : ∀ observer, (b.perform value effects).reply ≠ .panicked observer)
    (before : b.audience.registrations o = 1)
    (after : (b.perform value effects).barrier.audience.registrations o = 1)
    (spared : Spares o (b.perform value effects).log) :
    heardBy o (b.perform value effects).log = notices effects := by
  induction effects generalizing b with
  | nil => rfl
  | cons effect rest ih =>
    cases effect with
    | signal => exact ih { b with gate := b.gate.signal } calm before after spared
    | tell notice =>
      simp only [perform] at calm after spared ⊢
      cases ended : (b.audience.tell notice b.glimpse).panic with
      | some observer =>
        simp only [ended] at calm
        exact absurd rfl (calm observer)
      | none =>
        simp only [ended] at calm after spared ⊢
        obtain ⟨early, late⟩ := spares_append.mp spared
        -- in between, the observer is registered no less than before and no more than afterwards
        have grown := Audience.registrations_tellEach _ _ early
        have middle := (registrations_perform rest _ late).antisymm (after ▸ before ▸ grown)
        rw [heardBy_append, Audience.heardBy_tell _ ended before, ih _ calm (middle.trans after)
          after late]
        rfl

/-- What such an observer hears accounts for what a change and its effects leave open. -/
theorem perform_follows (effects : List Effect) (b : Barrier)
    (told : Follows account (notices effects) b.gate.ledger.opened)
    (calm : ∀ observer, (b.perform value effects).reply ≠ .panicked observer)
    (before : b.audience.registrations o = 1)
    (after : (b.perform value effects).barrier.audience.registrations o = 1)
    (spared : Spares o (b.perform value effects).log) :
    Follows account (heardBy o (b.perform value effects).log)
      (b.perform value effects).barrier.gate.ledger.opened := by
  rw [heardBy_perform effects b calm before after spared]
  rcases perform_gate value effects b with same | signalled
  · rwa [same]
  · rwa [signalled, Gate.signal_ledger]

end Barrier

end Quiescence
