import Quiescence.Proofs.Barrier.Hearing

/-! # How far the telling gets

What there is to hear of some notices is settled by the audience alone: a notice is for the
registrations that stand when it goes out, and only what observers did about earlier notices has
changed them. The observers hear all of it, unless one of them panics: then this is the last thing
that anybody hears.
-/

namespace Quiescence

/-- The observer whose panic ended an operation. -/
def Reply.panicker? {α : Type} : Reply α → Option String
  | panicked observer => some observer
  | done _ | refused _ => none

namespace Audience

variable {a b : Audience} {notice : Notice} {glimpse : Glimpse} {end? : Option String}
  {planned more made others : List (String × Notice)}

/-- Whether an observer panics when it is told something. -/
def Panics (a : Audience) (call : String × Notice) : Prop :=
  .panic ∈ (a.reactions call.1).to call.2

/-- Of some planned callbacks, those are made that come before the first panic, and the one that
panics. -/
inductive Made (a : Audience) (planned : List (String × Notice)) :
    List (String × Notice) → Option String → Prop
  | whole (calm : ∀ call ∈ planned, ¬ a.Panics call) : Made a planned planned none
  | broken {front : List (String × Notice)} {observer : String} {notice : Notice}
      (starts : front ++ [(observer, notice)] <+: planned)
      (calm : ∀ call ∈ front, ¬ a.Panics call) (panics : a.Panics (observer, notice)) :
      Made a planned (front ++ [(observer, notice)]) (some observer)

namespace Made

/-- What an observer does about a notice is all that matters of an audience. -/
theorem congr (same : ∀ observer, a.reactions observer = b.reactions observer)
    (run : a.Made planned made end?) : b.Made planned made end? := by
  have panics (call : String × Notice) : a.Panics call ↔ b.Panics call := by
    rw [Panics, Panics, same]
  cases run with
  | whole calm => exact .whole fun call member => (panics call).not.mp (calm call member)
  | broken starts calm last =>
    exact .broken starts (fun call member => (panics call).not.mp (calm call member))
      ((panics _).mp last)

theorem append (first : a.Made planned made none) (later : a.Made more others end?) :
    a.Made (planned ++ more) (made ++ others) end? := by
  cases first with
  | whole calm =>
    cases later with
    | whole calm' => exact .whole (List.forall_mem_append.mpr ⟨calm, calm'⟩)
    | broken starts calm' panics =>
      rw [← List.append_assoc]
      refine .broken ?_ (List.forall_mem_append.mpr ⟨calm, calm'⟩) panics
      rw [List.append_assoc]
      exact List.prefix_append_right_inj planned |>.mpr starts

/-- Nothing comes after a panic. -/
theorem extend {observer : String} (run : a.Made planned made (some observer))
    (more : List (String × Notice)) : a.Made (planned ++ more) made (some observer) := by
  cases run with
  | broken starts calm panics =>
    exact .broken (starts.trans (List.prefix_append _ _)) calm panics

end Made

theorem react_panic (observer : String) (rs : List Reaction) (a : Audience) :
    (a.react observer rs).panic = if .panic ∈ rs then some observer else none := by
  induction rs generalizing a with
  | nil => rfl
  | cons reaction rest ih =>
    cases reaction with
    | add named => simpa [react] using ih (a.register named {})
    | remove named => simpa [react] using ih (a.remove named)
    | panic => simp [react]

/-- Everybody in turn is told, up to the first panic. -/
theorem tellEach_made (notice : Notice) (glimpse : Glimpse) (observers : List String)
    (a : Audience) :
    a.Made (observers.map (·, notice)) (heard (a.tellEach notice glimpse observers).log)
      (a.tellEach notice glimpse observers).panic := by
  induction observers generalizing a with
  | nil => exact .whole (List.forall_mem_nil _)
  | cons observer others ih =>
    have own : heard (Callback.told observer notice glimpse ::
        (a.react observer ((a.reactions observer).to notice)).log) = [(observer, notice)] :=
      congrArg ((observer, notice) :: ·) (react_heard observer _ a)
    have panic := react_panic observer ((a.reactions observer).to notice) a
    simp only [tellEach, List.map_cons]
    split
    · next panicker ended =>
      rw [ended] at panic
      obtain ⟨panics, rfl⟩ : Reaction.panic ∈ (a.reactions observer).to notice ∧
          panicker = observer := by simpa using panic
      simp only [own, ended]
      exact @Made.broken a _ [] panicker notice (List.prefix_append _ _) (List.forall_mem_nil _)
        panics
    · next ended =>
      have calm : ¬ a.Panics (observer, notice) := by simpa [ended, Panics] using panic
      have first : a.Made [(observer, notice)] [(observer, notice)] none :=
        .whole (List.forall_mem_singleton.mpr calm)
      simp only [heard_append, own]
      exact first.append ((ih _).congr fun other => reactions_react observer _ a other)

/-! ## The registrations from one notice to the next -/

/-- The audience once an observer has answered a notice. -/
def heed (notice : Notice) (a : Audience) (observer : String) : Audience :=
  (a.react observer ((a.reactions observer).to notice)).audience

/-- The audience once all who are registered have answered a notice. -/
def informed (notice : Notice) (a : Audience) : Audience := a.registered.foldl (heed notice) a

theorem tellEach_audience (observers : List String) (a : Audience)
    (calm : (a.tellEach notice glimpse observers).panic = none) :
    (a.tellEach notice glimpse observers).audience = observers.foldl (heed notice) a := by
  induction observers generalizing a with
  | nil => rfl
  | cons observer others ih =>
    simp only [tellEach] at calm ⊢
    split at calm
    · next panicked => simp [panicked] at calm
    · exact ih _ calm

/-- All that there is to hear of some notices. Each of them is for the registrations that stand when
it goes out. -/
def program : List Notice → Audience → List (String × Notice)
  | [], _ => []
  | notice :: rest, a => a.registered.map (·, notice) ++ program rest (a.informed notice)

/-- Nobody who is registered changes the registrations in answer to a notice. -/
def Passive (a : Audience) : Prop :=
  ∀ observer ∈ a.registered, ∀ notice, ∀ reaction ∈ (a.reactions observer).to notice,
    reaction = .panic

theorem Passive.informed (passive : a.Passive) (notice : Notice) : a.informed notice = a := by
  have heed (observer : String) (member : observer ∈ a.registered) :
      a.heed notice observer = a := by
    have panics := passive observer member notice
    unfold Audience.heed
    cases reactions : (a.reactions observer).to notice with
    | nil => rfl
    | cons reaction rest =>
      rw [reactions] at panics
      rw [panics reaction List.mem_cons_self]
      rfl
  have fold : a.registered.foldl (Audience.heed notice) a = a := by
    refine List.foldlRecOn (motive := (· = a)) a.registered (Audience.heed notice) rfl ?_
    intro b same observer member
    rw [same, heed observer member]
  exact fold

/-- Where nobody changes them, the registrations are those that stand at the start. -/
theorem Passive.program (passive : a.Passive) (notices : List Notice) :
    a.program notices = a.hears notices := by
  induction notices with
  | nil => rfl
  | cons notice rest ih =>
    rw [Audience.program, passive.informed, ih]
    rfl

end Audience

namespace Barrier

/-- The effects of a change are heard of up to the first panic. -/
theorem perform_made {α : Type} (value : α) (effects : List Effect) (b : Barrier) :
    b.audience.Made (b.audience.program (notices effects)) (heard (b.perform value effects).log)
      (b.perform value effects).reply.panicker? := by
  induction effects generalizing b with
  | nil => exact .whole (List.forall_mem_nil _)
  | cons effect rest ih =>
    cases effect with
    | signal => exact ih { b with gate := b.gate.signal }
    | tell notice =>
      have first : b.audience.Made (b.audience.registered.map (·, notice))
          (heard (b.audience.tell notice b.glimpse).log)
          (b.audience.tell notice b.glimpse).panic :=
        Audience.tellEach_made notice b.glimpse b.audience.registered b.audience
      have planned : b.audience.program (notices (.tell notice :: rest)) =
          b.audience.registered.map (·, notice) ++
            (b.audience.informed notice).program (notices rest) := rfl
      rw [planned]
      simp only [perform]
      cases ended : (b.audience.tell notice b.glimpse).panic with
      | some observer =>
        rw [ended] at first
        exact first.extend _
      | none =>
        rw [ended] at first
        have later := ih { b with audience := (b.audience.tell notice b.glimpse).audience }
        have informed : (b.audience.tell notice b.glimpse).audience =
          b.audience.informed notice := Audience.tellEach_audience _ _ ended
        rw [heard_append]
        refine first.append ?_
        rw [← informed]
        exact later.congr fun other => Audience.reactions_tellEach b.audience.registered _ other

end Barrier

end Quiescence
