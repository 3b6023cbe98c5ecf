import Quiescence.Proofs.Barrier.Effects

/-! # Who hears what

Every registration hears every notice once, in the order of the registrations, as long as nobody
panics. What observers do in answer never changes what an observer does the next time; so if a
notice changes nothing about who is registered, telling it again goes the same way.
-/

namespace Quiescence

/-- The observer that a callback tells something, and what it is told. -/
def Callback.heard? : Callback → Option (String × Notice)
  | told observer notice _ => some (observer, notice)
  | removed .. => none

/-- What observers hear, without what they see meanwhile. -/
def heard (log : List Callback) : List (String × Notice) := log.filterMap Callback.heard?

@[simp]
theorem heard_nil : heard [] = [] := rfl

@[simp]
theorem heard_append (first second : List Callback) :
    heard (first ++ second) = heard first ++ heard second := List.filterMap_append

/-- The notice that an effect tells. -/
def Effect.notice? : Effect → Option Notice
  | tell notice => some notice
  | signal => none

/-- The notices among some effects. -/
def notices (effects : List Effect) : List Notice := effects.filterMap Effect.notice?

namespace Audience

variable {a b : Audience} {notice : Notice} {glimpse : Glimpse}

theorem react_heard (observer : String) (reactions : List Reaction) (a : Audience) :
    heard (a.react observer reactions).log = [] := by
  refine List.filterMap_eq_nil_iff.mpr fun callback member => ?_
  cases callback with
  | told other notice shown =>
    exact absurd member (react_log observer reactions a other notice shown)
  | removed => rfl

/-- Unless somebody panics, all who are told hear the notice in their order. -/
theorem tellEach_heard (observers : List String) (a : Audience)
    (calm : (a.tellEach notice glimpse observers).panic = none) :
    heard (a.tellEach notice glimpse observers).log = observers.map (·, notice) := by
  induction observers generalizing a with
  | nil => rfl
  | cons observer others ih =>
    have own : heard (Callback.told observer notice glimpse ::
        (a.react observer ((a.reactions observer).to notice)).log) = [(observer, notice)] :=
      congrArg ((observer, notice) :: ·) (react_heard observer _ a)
    simp only [tellEach] at calm ⊢
    split at calm
    · next panicked => simp [panicked] at calm
    · simp only [heard_append, own, ih _ calm, List.map_cons, List.singleton_append]

theorem tell_heard (a : Audience) (calm : (a.tell notice glimpse).panic = none) :
    heard (a.tell notice glimpse).log = a.registered.map (·, notice) :=
  tellEach_heard a.registered a calm

/-! ## What observers do -/

@[simp]
theorem introduce_registered (named : String) (r : Reactions) (a : Audience) :
    (a.introduce named r).registered = a.registered := by
  unfold introduce
  split
  · rfl
  · rfl

/-- An observer that is named without reactions has none before and after. -/
theorem reactions_introduce (a : Audience) (named observer : String) :
    (a.introduce named {}).reactions observer = a.reactions observer := by
  unfold introduce
  split
  · rfl
  · next fresh =>
    have absent := Option.not_isSome_iff_eq_none.mp fresh
    simp only [reactions, List.lookup_append]
    by_cases same : observer = named
    · simp [same, absent]
    · simp [List.lookup_cons, beq_false_of_ne same]

theorem reactions_react (teller : String) (rs : List Reaction) (a : Audience) (observer : String) :
    (a.react teller rs).audience.reactions observer = a.reactions observer := by
  induction rs generalizing a with
  | nil => rfl
  | cons reaction rest ih =>
    cases reaction with
    | add named => exact (ih _).trans (reactions_introduce a named observer)
    | remove named => exact (ih _).trans (reactions_introduce a named observer)
    | panic => rfl

theorem reactions_tellEach (observers : List String) (a : Audience) (observer : String) :
    (a.tellEach notice glimpse observers).audience.reactions observer = a.reactions observer := by
  induction observers generalizing a with
  | nil => rfl
  | cons first others ih =>
    simp only [tellEach]
    split
    · exact reactions_react first _ a observer
    · exact (ih _).trans (reactions_react first _ a observer)

/-- The same registrations, of observers that do the same. -/
structure Alike (a b : Audience) : Prop where
  registered : a.registered = b.registered
  reactions : ∀ observer, a.reactions observer = b.reactions observer

namespace Alike

theorem refl (a : Audience) : a.Alike a := ⟨rfl, fun _ => rfl⟩

theorem trans {c : Audience} (first : a.Alike b) (second : b.Alike c) : a.Alike c :=
  ⟨first.registered.trans second.registered,
    fun observer => (first.reactions observer).trans (second.reactions observer)⟩

theorem symm (alike : a.Alike b) : b.Alike a :=
  ⟨alike.registered.symm, fun observer => (alike.reactions observer).symm⟩

theorem register (alike : a.Alike b) (named : String) :
    (a.register named {}).Alike (b.register named {}) where
  registered := by simp [Audience.register, alike.registered]
  reactions observer := by
    have same := alike.reactions observer
    rwa [← reactions_introduce a named, ← reactions_introduce b named] at same

theorem remove (alike : a.Alike b) (named : String) :
    (a.remove named).Alike (b.remove named) where
  registered := by simp [Audience.remove, alike.registered]
  reactions observer := by
    have same := alike.reactions observer
    rwa [← reactions_introduce a named, ← reactions_introduce b named] at same

/-- Audiences that are alike react alike. -/
theorem react (alike : a.Alike b) (teller : String) (rs : List Reaction) :
    (a.react teller rs).audience.Alike (b.react teller rs).audience ∧
      (a.react teller rs).panic = (b.react teller rs).panic := by
  induction rs generalizing a b with
  | nil => exact ⟨alike, rfl⟩
  | cons reaction rest ih =>
    cases reaction with
    | add named => exact ih (alike.register named)
    | remove named => exact ih (alike.remove named)
    | panic => exact ⟨alike, rfl⟩

theorem tellEach (alike : a.Alike b) (notice : Notice) (glimpse : Glimpse)
    (observers : List String) :
    (a.tellEach notice glimpse observers).audience.Alike
        (b.tellEach notice glimpse observers).audience ∧
      (a.tellEach notice glimpse observers).panic =
        (b.tellEach notice glimpse observers).panic := by
  induction observers generalizing a b with
  | nil => exact ⟨alike, rfl⟩
  | cons observer others ih =>
    obtain ⟨next, same⟩ := alike.react observer ((b.reactions observer).to notice)
    simp only [Audience.tellEach, alike.reactions observer, same]
    split
    · exact ⟨next, rfl⟩
    · exact ih next

end Alike

/-- Nobody panics when the notice is told, and afterwards the same observers are registered. -/
def Steady (a : Audience) (notice : Notice) : Prop :=
  ∀ glimpse, (a.tell notice glimpse).panic = none ∧
    (a.tell notice glimpse).audience.registered = a.registered

theorem Steady.alike (steady : a.Steady notice) (glimpse : Glimpse) :
    (a.tell notice glimpse).audience.Alike a :=
  ⟨(steady glimpse).2, reactions_tellEach a.registered a⟩

theorem Steady.of_alike (steady : a.Steady notice) (alike : b.Alike a) : b.Steady notice := by
  intro glimpse
  obtain ⟨next, same⟩ := alike.tellEach notice glimpse a.registered
  unfold tell
  rw [alike.registered]
  exact ⟨same.trans (steady glimpse).1, next.registered.trans (steady glimpse).2⟩

/-- What the registered observers hear of some notices. -/
def hears (a : Audience) (notices : List Notice) : List (String × Notice) :=
  notices.flatMap fun notice => a.registered.map (·, notice)

theorem hears_append (a : Audience) (first second : List Notice) :
    a.hears (first ++ second) = a.hears first ++ a.hears second := List.flatMap_append

theorem Alike.hears (alike : a.Alike b) (notices : List Notice) :
    a.hears notices = b.hears notices := by
  simp only [Audience.hears, alike.registered]

end Audience

namespace Barrier

/-- Steady observers let every effect happen, and all of them hear all notices. -/
theorem perform_steady {α : Type} (value : α) (effects : List Effect) (b : Barrier)
    (steady : ∀ notice ∈ notices effects, b.audience.Steady notice) :
    let outcome := b.perform value effects
    outcome.reply = .done value ∧ outcome.barrier.audience.Alike b.audience ∧
      outcome.barrier.gate = (if .signal ∈ effects then b.gate.signal else b.gate) ∧
      heard outcome.log = b.audience.hears (notices effects) := by
  induction effects generalizing b with
  | nil => exact ⟨rfl, .refl _, rfl, rfl⟩
  | cons effect rest ih =>
    cases effect with
    | signal =>
      obtain ⟨reply, alike, gate, hears⟩ := ih { b with gate := b.gate.signal } steady
      refine ⟨reply, alike, ?_, hears⟩
      simp only [perform, gate, Gate.signal_signal, ite_self, List.mem_cons_self, if_true]
    | tell notice =>
      have first := steady notice List.mem_cons_self
      have told := first.alike b.glimpse
      obtain ⟨reply, alike, gate, hears⟩ :=
        ih { b with audience := (b.audience.tell notice b.glimpse).audience } fun later member =>
          (steady later (List.mem_cons_of_mem _ member)).of_alike told
      simp only [perform, (first b.glimpse).1]
      refine ⟨reply, alike.trans told, ?_, ?_⟩
      · simpa using gate
      · rw [heard_append, hears, Audience.tell_heard _ (first b.glimpse).1, told.hears]
        rfl

end Barrier

end Quiescence
