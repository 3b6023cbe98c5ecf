import Quiescence.Barrier
import Quiescence.Proofs.Gate.Sound

/-! # Carrying out the effects of a change

Effects never touch the ledger or the waiter: of the gate they change at most who is parked, by a
signal. A panic ends them where they stand. The notices in front of a signal decide alone whether it
is reached, so what becomes of a parked thread depends on the observers that are told of the closes,
and on no others.
-/

namespace Quiescence

namespace Gate

/-- A second signal finds nobody asleep whose wait is over. -/
theorem signal_signal (g : Gate) : g.signal.signal = g.signal := by
  change ({ g.signal with
    released := g.signal.released ++ g.signal.parked.filter fun n => !g.isActive n
    parked := g.signal.parked.filter g.isActive } : Gate) = g.signal
  simp [signal]

end Gate

namespace Audience

/-- Tells several notices, one after the other, until an observer panics. -/
def tellAll (glimpse : Glimpse) : List Notice → Audience → Telling
  | [], a => ⟨a, [], none⟩
  | notice :: rest, a =>
    let told := a.tell notice glimpse
    match told.panic with
    | some _ => told
    | none =>
      let later := tellAll glimpse rest told.audience
      { later with log := told.log ++ later.log }

/-- Reactions tell nobody anything. -/
theorem react_log (observer : String) (reactions : List Reaction) (a : Audience) :
    ∀ other notice shown, .told other notice shown ∉ (a.react observer reactions).log := by
  induction reactions generalizing a with
  | nil => nofun
  | cons reaction rest ih =>
    cases reaction with
    | add => exact ih _
    | remove =>
      intro other notice shown member
      rcases List.mem_cons.mp member with removed | later
      · cases removed
      · exact ih _ other notice shown later
    | panic => nofun

/-- A telling is about its notice alone, and shows everybody the same glimpse. -/
theorem tellEach_log (notice : Notice) (glimpse : Glimpse) (observers : List String)
    (a : Audience) : ∀ observer other shown,
      .told observer other shown ∈ (a.tellEach notice glimpse observers).log →
        other = notice ∧ shown = glimpse := by
  induction observers generalizing a with
  | nil => nofun
  | cons first others ih =>
    have front : ∀ observer other shown, .told observer other shown ∈
        Callback.told first notice glimpse ::
          (a.react first ((a.reactions first).to notice)).log →
        other = notice ∧ shown = glimpse := by
      intro observer other shown member
      rcases List.mem_cons.mp member with told | reacted
      · obtain ⟨_, rfl, rfl⟩ := Callback.told.inj told
        exact ⟨rfl, rfl⟩
      · exact absurd reacted (react_log _ _ _ _ _ _)
    simp only [tellEach]
    split
    · exact front
    · intro observer other shown member
      rcases List.mem_append.mp member with early | later
      · exact front observer other shown early
      · exact ih _ observer other shown later

theorem tellAll_log (glimpse : Glimpse) (notices : List Notice) (a : Audience) :
    ∀ observer other shown, .told observer other shown ∈ (a.tellAll glimpse notices).log →
      other ∈ notices := by
  induction notices generalizing a with
  | nil => nofun
  | cons notice rest ih =>
    have front : ∀ observer other shown,
        .told observer other shown ∈ (a.tell notice glimpse).log → other ∈ notice :: rest := by
      intro observer other shown member
      exact (tellEach_log _ _ _ _ observer other shown member).1 ▸ List.mem_cons_self
    simp only [tellAll]
    split
    · exact front
    · intro observer other shown member
      rcases List.mem_append.mp member with early | later
      · exact front observer other shown early
      · exact List.mem_cons_of_mem _ (ih _ observer other shown later)

/-- A panic happens in a callback, so the log shows the notice that led to it. -/
theorem tellEach_told_of_panic (notice : Notice) (glimpse : Glimpse) (observers : List String)
    (a : Audience) (panicked : (a.tellEach notice glimpse observers).panic.isSome) :
    ∃ observer, .told observer notice glimpse ∈ (a.tellEach notice glimpse observers).log := by
  cases observers with
  | nil => cases panicked
  | cons observer others =>
    simp only [tellEach]
    split
    · exact ⟨observer, List.mem_cons_self⟩
    · exact ⟨observer, List.mem_append_left _ List.mem_cons_self⟩

end Audience

namespace Barrier

variable {α : Type}

/-- Of the gate, effects change at most who is parked. -/
theorem perform_gate (value : α) (effects : List Effect) (b : Barrier) :
    (b.perform value effects).barrier.gate = b.gate ∨
      (b.perform value effects).barrier.gate = b.gate.signal := by
  induction effects generalizing b with
  | nil => exact .inl rfl
  | cons effect rest ih =>
    cases effect with
    | signal =>
      rcases ih { b with gate := b.gate.signal } with once | again
      · exact .inr once
      · exact .inr (again.trans (Gate.signal_signal _))
    | tell notice =>
      simp only [perform]
      split
      · exact .inl rfl
      · exact ih _

/-- A signal among the effects is given unless an observer panics. -/
theorem perform_gate_of_done {value : α} {effects : List Effect} {b : Barrier}
    (done : (b.perform value effects).reply = .done value) (signals : .signal ∈ effects) :
    (b.perform value effects).barrier.gate = b.gate.signal := by
  induction effects generalizing b with
  | nil => cases signals
  | cons effect rest ih =>
    cases effect with
    | signal =>
      rcases perform_gate value rest { b with gate := b.gate.signal } with once | again
      · exact once
      · exact again.trans (Gate.signal_signal _)
    | tell notice =>
      have later : Effect.signal ∈ rest := List.mem_of_ne_of_mem (by simp) signals
      simp only [perform] at done ⊢
      split at done
      · cases done
      · exact ih done later

/-- Effects are never refused. -/
theorem perform_reply (value : α) (effects : List Effect) (b : Barrier) :
    (b.perform value effects).reply = .done value ∨
      ∃ observer, (b.perform value effects).reply = .panicked observer := by
  induction effects generalizing b with
  | nil => exact .inl rfl
  | cons effect rest ih =>
    cases effect with
    | signal => exact ih _
    | tell notice =>
      simp only [perform]
      split
      · exact .inr ⟨_, rfl⟩
      · exact ih _

@[simp]
theorem perform_waitLimit (value : α) (effects : List Effect) (b : Barrier) :
    (b.perform value effects).barrier.waitLimit = b.waitLimit := by
  induction effects generalizing b with
  | nil => rfl
  | cons effect rest ih =>
    cases effect with
    | signal => exact ih _
    | tell notice =>
      simp only [perform]
      split
      · rfl
      · exact ih _

/-- Every callback sees the barrier as the change has left it. -/
theorem perform_log (value : α) (effects : List Effect) (b : Barrier) :
    ∀ observer notice shown, .told observer notice shown ∈ (b.perform value effects).log →
      shown = b.glimpse := by
  induction effects generalizing b with
  | nil => nofun
  | cons effect rest ih =>
    cases effect with
    | signal => exact ih { b with gate := b.gate.signal }
    | tell notice =>
      simp only [perform]
      split
      · intro observer other shown member
        exact (Audience.tellEach_log _ _ _ _ observer other shown member).2
      · intro observer other shown member
        rcases List.mem_append.mp member with early | later
        · exact (Audience.tellEach_log _ _ _ _ observer other shown early).2
        · exact ih { b with audience := (b.audience.tell notice b.glimpse).audience } observer other
            shown later

/-- The notices in front are told first, and the rest is carried out unless one of them ended in a
panic. -/
theorem perform_tell_append (value : α) (notices : List Notice) (rest : List Effect) (b : Barrier) :
    b.perform value (notices.map .tell ++ rest) =
      let told := b.audience.tellAll b.glimpse notices
      let informed := { b with audience := told.audience }
      match told.panic with
      | some observer => ⟨informed, told.log, .panicked observer⟩
      | none =>
        let later := informed.perform value rest
        { later with log := told.log ++ later.log } := by
  induction notices generalizing b with
  | nil => rfl
  | cons notice others ih =>
    simp only [List.map_cons, List.cons_append, perform, Audience.tellAll]
    cases panicked : (b.audience.tell notice b.glimpse).panic with
    | some observer => simp [panicked]
    | none =>
      let informed := { b with audience := (b.audience.tell notice b.glimpse).audience }
      have same : informed.glimpse = b.glimpse := rfl
      rw [ih informed, same]
      cases ended : (informed.audience.tellAll b.glimpse others).panic with
      | some observer => simp only [ended, informed]
      | none => simp only [ended, informed, List.append_assoc]

end Barrier

end Quiescence
