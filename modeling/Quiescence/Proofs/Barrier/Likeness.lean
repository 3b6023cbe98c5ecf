import Quiescence.Proofs.Barrier.Closing

/-! # Operations that go alike

How the effects of a change are carried out depends on the notices among them and on who listens,
and on nothing else of the barrier: not on its ledger, not on its waiter, and not on a signal in
between. The rest of the barrier is only seen by the observers while they are told.
-/

namespace Quiescence

/-- The callback, had the observer found the barrier like this. -/
def Callback.seeing (glimpse : Glimpse) : Callback → Callback
  | told observer notice _ => told observer notice glimpse
  | removed observer other found => removed observer other found

theorem Callback.seeing_seeing (glimpse other : Glimpse) (callback : Callback) :
    (callback.seeing other).seeing glimpse = callback.seeing glimpse := by
  cases callback <;> rfl

theorem heard_seeing (glimpse : Glimpse) (log : List Callback) :
    heard (log.map (Callback.seeing glimpse)) = heard log := by
  rw [heard, List.filterMap_map]
  refine List.filterMap_congr fun callback _ => ?_
  cases callback <;> rfl

namespace Audience.Alike

variable {a b : Audience}

theorem react_log (alike : a.Alike b) (teller : String) (rs : List Reaction) (glimpse : Glimpse) :
    (a.react teller rs).log = (b.react teller rs).log.map (Callback.seeing glimpse) := by
  induction rs generalizing a b with
  | nil => rfl
  | cons reaction rest ih =>
    cases reaction with
    | add named => exact ih (alike.register named)
    | remove named =>
      have found : a.listens named = b.listens named := by rw [listens, listens, alike.registered]
      simp only [Audience.react, found, List.map_cons, ih (alike.remove named), Callback.seeing]
    | panic => rfl

/-- Audiences that are alike are told alike, whatever they see meanwhile. -/
theorem tellEach_seeing (alike : a.Alike b) (notice : Notice) (shown seen : Glimpse)
    (observers : List String) :
    let one := a.tellEach notice shown observers
    let other := b.tellEach notice seen observers
    one.audience.Alike other.audience ∧ one.panic = other.panic ∧
      one.log = other.log.map (Callback.seeing shown) := by
  induction observers generalizing a b with
  | nil => exact ⟨alike, rfl, rfl⟩
  | cons observer others ih =>
    obtain ⟨next, same⟩ := alike.react observer ((b.reactions observer).to notice)
    have log := alike.react_log observer ((b.reactions observer).to notice) shown
    simp only [Audience.tellEach, alike.reactions observer, same, log]
    split
    · exact ⟨next, rfl, rfl⟩
    · obtain ⟨last, panic, later⟩ := ih next
      simp only [later, List.map_append, List.map_cons]
      exact ⟨last, panic, rfl⟩

theorem tell_seeing (alike : a.Alike b) (notice : Notice) (shown seen : Glimpse) :
    let one := a.tell notice shown
    let other := b.tell notice seen
    one.audience.Alike other.audience ∧ one.panic = other.panic ∧
      one.log = other.log.map (Callback.seeing shown) := by
  unfold tell
  rw [alike.registered]
  exact alike.tellEach_seeing notice shown seen b.registered

end Audience.Alike

namespace Barrier

variable {α : Type} {b c : Barrier}

/-- Only the notices among the effects are heard of. -/
theorem perform_plain (alike : b.audience.Alike c.audience) (value : α) (effects : List Effect) :
    let outcome := b.perform value effects
    let plain := c.perform value ((notices effects).map .tell)
    outcome.reply = plain.reply ∧ outcome.log = plain.log.map (Callback.seeing b.glimpse) := by
  induction effects generalizing b c with
  | nil => exact ⟨rfl, rfl⟩
  | cons effect rest ih =>
    cases effect with
    | signal => exact ih (b := { b with gate := b.gate.signal }) alike
    | tell notice =>
      obtain ⟨next, panic, log⟩ := alike.tell_seeing notice b.glimpse c.glimpse
      obtain ⟨reply, later⟩ :=
        ih (b := { b with audience := (b.audience.tell notice b.glimpse).audience })
          (c := { c with audience := (c.audience.tell notice c.glimpse).audience }) next
      have told : notices (.tell notice :: rest) = notice :: notices rest := rfl
      simp only [told, List.map_cons, perform, panic]
      split
      · exact ⟨rfl, log⟩
      · refine ⟨reply, ?_⟩
        rw [later, log, List.map_append]
        rfl

/-- The same notices are answered and heard alike by the same observers. -/
theorem perform_like (alike : b.audience.Alike c.audience) (value : α)
    {effects others : List Effect} (same : notices effects = notices others) :
    let one := b.perform value effects
    let other := c.perform value others
    one.reply = other.reply ∧ one.log = other.log.map (Callback.seeing b.glimpse) := by
  obtain ⟨reply, log⟩ := perform_plain alike value effects
  obtain ⟨reply', log'⟩ := perform_plain (.refl c.audience) value others
  rw [same] at reply log
  refine ⟨reply.trans reply'.symm, ?_⟩
  rw [log, log', List.map_map]
  exact List.map_congr_left fun callback _ => (callback.seeing_seeing _ _).symm

end Barrier

end Quiescence
