import Quiescence.Proofs.Session.Parks
import Quiescence.Proofs.Session.Unmade
import Quiescence.Proofs.Session.Verdict

/-! # A thread waits like a task

A wait without a limit can be made by a task or by a thread that parks. They are woken in different
ways, the task by the change that leaves nothing open and the thread by the signal that follows it,
but whoever looks on between two steps cannot tell which of them waits: every step has the same
answer, makes the same callbacks and leaves the same number of open handles and the same word on
whether anybody waits.
-/

namespace Quiescence.Session

/-- What can be seen of a step: its answer, its callbacks and the barrier as it leaves it. -/
structure View where
  answer : Answer
  log : List Callback
  left : Glimpse

/-- What can be seen of a turn. -/
def Turn.view (turn : Turn) : View := ⟨turn.answer, turn.log, turn.session.barrier.glimpse⟩

/-- What can be seen of some steps, in order. -/
def views (s : Session) (steps : List Step) : List View := (s.run steps).2.map Turn.view

/-- No step takes its slot away from the task of this wait as long as it waits. -/
def Undropped (n : Nat) (s : Session) : List Step → Prop
  | [] => True
  | x :: rest => (s.barrier.gate.isActive n → s.displaces x n = false) ∧
    (s.step x).session.Undropped n rest

instance (n : Nat) (s : Session) : (steps : List Step) → Decidable (s.Undropped n steps)
  | [] => .isTrue trivial
  | x :: rest =>
    have := instDecidableUndropped n (s.step x).session rest
    inferInstanceAs (Decidable (_ ∧ _))

variable {s other : Session} {slot : String} {n : Nat}

theorem views_cons (s : Session) (x : Step) (rest : List Step) :
    s.views (x :: rest) = (s.step x).view :: (s.step x).session.views rest := rfl

theorem views_append (s : Session) (first second : List Step) :
    s.views (first ++ second) = s.views first ++ (s.after first).views second := by
  induction first generalizing s with
  | nil => rfl
  | cons x rest ih =>
    rw [List.cons_append, views_cons, ih, views_cons, after_cons, List.cons_append]

/-! ## The same wait as a task and as a thread -/

theorem Turn.Parks.view {turn turnOther : Turn} (parks : turnOther.Parks n turn) :
    turnOther.view = turn.view := by
  simp only [Turn.view, parks.answer, parks.log, parks.session.barrier.glimpse]

/-- As long as the compared task is left in its slot, nobody can tell the two sessions apart. -/
theorem Parks.views (parks : other.Parks n s) (sound : s.Sound) {later : List Step}
    (calm : s.Calm later) (undropped : s.Undropped n later) :
    other.views later = s.views later := by
  induction later generalizing s other with
  | nil => rfl
  | cons x rest ih =>
    obtain ⟨gentle, others⟩ := List.forall_mem_cons.mp calm
    obtain ⟨spared, undropped⟩ := undropped
    have next := parks.step sound gentle spared
    rw [views_cons, views_cons, next.view, ih next.session (sound.after [x]) others undropped]

/-- The two sessions when the task and the thread have begun to wait in the same empty slot. -/
theorem Sound.entered_parks (sound : s.Sound) (noted : s.Noted)
    (vacant : s.slots.lookup slot = none) :
    (s.entered slot (.thread (s.barrier.gate.lastWait + 1))).Parks (s.barrier.gate.lastWait + 1)
      (s.entered slot (.task (s.barrier.gate.lastWait + 1) none)) := by
  have earlier {name : String} {held : Slot} (found : s.slots.lookup name = some held) :
      held.number ≠ s.barrier.gate.lastWait + 1 :=
    Nat.ne_of_lt (Nat.lt_succ_of_le (sound.begun _ (List.mem_of_lookup_eq_some found)))
  refine ⟨⟨sound.gate.begun_parks, rfl, rfl⟩, fun _ => ?_, rfl, fun name => ?_, rfl, rfl,
    fun name deadline found => ?_, fun member => ?_, ?_⟩
  · exact Gate.isActive_iff.mpr ⟨.thread, rfl⟩
  · simp only [entered, List.lookup_append]
    cases found : s.slots.lookup name with
    | some held => simp [Slot.park_of_ne (earlier found)]
    | none =>
      by_cases own : name = slot
      · simp [own, Slot.park]
      · simp [List.lookup_cons, beq_false_of_ne own]
  · simp only [entered, List.lookup_append] at found
    cases old : s.slots.lookup name with
    | some held =>
      simp only [old, Option.some_or, Option.some.injEq] at found
      exact absurd (congrArg Slot.number found) (earlier old)
    | none =>
      by_cases own : name = slot
      · subst own
        rw [old, Option.none_or, List.lookup_cons_self, Option.some.injEq] at found
        exact (Slot.task.inj found).2.symm
      · simp [old, List.lookup_cons, beq_false_of_ne own] at found
  · have below := noted.limited _ member
    omega
  · refine List.lookup_eq_none_iff.mpr fun late member => bne_iff_ne.mpr fun same => ?_
    have below := (sound.overdue late member).1
    omega

/-- Without a limit, a task and a thread are turned away alike, or they begin to wait alike. -/
theorem Sound.wait_or_park (sound : s.Sound) (noted : s.Noted)
    (unlimited : s.barrier.waitLimit = none) (slot : String) :
    s.step (.park slot none) = s.step (.wait slot none) ∨
    ∃ n, (s.step (.wait slot none)).session.taskIn? slot = some n ∧
      (s.step (.park slot none)).Parks n (s.step (.wait slot none)) := by
  have vacant := abandon_vacant s slot
  have waits : s.step (.wait slot none) = quietly (s.begin slot .task (.task · none)) := by
    simp only [Session.step, unlimited, Option.none_or, Option.map_none]
  have parks : s.step (.park slot none) = quietly (s.begin slot .thread .thread) := by
    simp only [Session.step, park, unlimited, Option.none_or]
    split
    · next absent => cases absent
    · rfl
  have task : ∀ n, (Slot.task n none).sleeper = .task := fun _ => rfl
  have thread : ∀ n, (Slot.thread n).sleeper = .thread := fun _ => rfl
  rw [waits, parks, begin_eq slot task, begin_eq slot thread]
  split
  · exact .inl rfl
  · next filled =>
    split
    · exact .inl rfl
    · have filled := Bool.eq_false_iff.mpr filled
      have cleared := sound.abandon slot
      have noted : (s.abandon slot).Noted := noted.after sound [.drop slot]
      rw [cleared.poll_entered filled vacant rfl, cleared.poll_entered filled vacant rfl]
      refine .inr ⟨(s.abandon slot).barrier.gate.lastWait + 1, ?_,
        cleared.entered_parks noted vacant, rfl, rfl⟩
      exact taskIn?_eq_some_iff.mpr ⟨none, lookup_entered vacant⟩

/-- If the barrier has no limit, an untimed wait looks the same from outside whether a task makes it
or a thread that parks, before it begins, as long as it lasts and after it is over, provided that
observers do not panic from then on and nobody takes the slot away from the task while it waits. -/
theorem thread_waits_like_task (prior later : List Step) (slot : String) :
    let first := ((new none).after prior).step (.wait slot none)
    first.session.Calm later →
    (∀ n, first.session.taskIn? slot = some n → first.session.Undropped n later) →
      (new none).views (prior ++ .park slot none :: later) =
        (new none).views (prior ++ .wait slot none :: later) := by
  intro first calm undropped
  have sound := (sound_new none).after prior
  have noted := (noted_new none).after (sound_new none) prior
  have unlimited := after_waitLimit (new none) prior
  rw [views_append, views_append, views_cons, views_cons]
  rcases sound.wait_or_park noted unlimited slot with same | ⟨n, task, parks⟩
  · rw [same]
  · have next : first.session.Sound := sound.after [.wait slot none]
    rw [parks.view, parks.session.views next calm (undropped n task)]

/-- The wait goes on through a close, is released by the next one and finds this out only after
something else has been opened and a newer wait has begun, which an eviction releases. -/
theorem thread_waits_through_refill :
    let prior : List Step :=
      [.observe "w" {}, .apply ⟨.opened, ⟨"A", "x"⟩⟩, .apply ⟨.opened, ⟨"A", "y"⟩⟩]
    let later : List Step :=
      [.poll "t", .wait "u" none, .apply ⟨.closed, ⟨"A", "x"⟩⟩, .poll "t",
        .feed 1 [⟨.closed, ⟨"A", "y"⟩⟩, ⟨.opened, ⟨"B", "z"⟩⟩], .park "u" none, .poll "t",
        .evict "B", .poll "u", .drop "t"]
    let first := ((new none).after prior).step (.wait "t" none)
    (first.session.Calm later ∧
      ∀ n, first.session.taskIn? "t" = some n → first.session.Undropped n later) ∧
    first.session.answers later =
      [.pending, .refused .waitActive, .ok, .pending, .fed ⟨2, 0⟩, .pending, .ok, .names ["z"],
        .ok, .flag false] ∧
    (new none).views (prior ++ .park "t" none :: later) =
      (new none).views (prior ++ .wait "t" none :: later) := by
  intro prior later first
  have answers : first.session.answers later =
      [.pending, .refused .waitActive, .ok, .pending, .fed ⟨2, 0⟩, .pending, .ok, .names ["z"],
        .ok, .flag false] := by
    unfold first later prior
    decide +kernel
  have calm : first.session.Calm later := by
    rw [Calm, answers]
    decide
  have undropped (n : Nat) (task : first.session.taskIn? "t" = some n) :
      first.session.Undropped n later := by
    obtain rfl : 1 = n := Option.some.inj ((by decide : some 1 = _).trans task)
    decide +kernel
  exact ⟨⟨calm, undropped⟩, answers, thread_waits_like_task prior later "t" calm undropped⟩

end Quiescence.Session
