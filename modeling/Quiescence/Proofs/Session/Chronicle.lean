import Quiescence.Proofs.Session.Course

/-! # The chronicle of a run

A chronicle notes, operation by operation, when the ledger became empty and which waits began and
ended. It is read off the barrier before and after each operation. The chronicle of a run is always
made of whole waits: one begins when no other is active, and it ends before the next one begins. So
it tells exactly one fate of every wait.
-/

namespace Quiescence

/-- How a wait ends. -/
inductive Ending where
  /-- Nothing is open any more. -/
  | released
  /-- Its own time is up. -/
  | timedOut
  /-- Its future was dropped. -/
  | withdrawn
deriving DecidableEq

/-- A line of a chronicle. -/
inductive Mark where
  /-- The last open handle was closed. -/
  | emptied
  | began (number : Nat)
  | ended (number : Nat) (how : Ending)
deriving DecidableEq

/-- The wait that a mark is about. -/
def Mark.wait? : Mark → Option Nat
  | .emptied => none
  | .began number | .ended number _ => some number

/-- The marks that an ending makes: a release comes with the change that leaves nothing open. -/
def Ending.marks (number : Nat) : Ending → List Mark
  | .released => [.emptied, .ended number .released]
  | .timedOut => [.ended number .timedOut]
  | .withdrawn => [.ended number .withdrawn]

namespace Session

variable {s : Session} {x : Step} {n : Nat}

/-- Why a wait that was active is over after a step. -/
def ending (s : Session) (x : Step) (n : Nat) : Ending :=
  if s.empties x then .released else if s.ranOut x n then .timedOut else .withdrawn

/-- What a step says about the waits that were there before. -/
def closings (s : Session) (x : Step) : List Mark :=
  (if s.empties x then [.emptied] else []) ++
    match s.barrier.gate.waiter? with
    | some n =>
      if (s.step x).session.barrier.gate.isActive n then [] else [.ended n (s.ending x n)]
    | none => []

/-- What a step says about a wait that begins. If it is over already, its time has run out. -/
def beginnings (s : Session) (x : Step) : List Mark :=
  let gate := (s.step x).session.barrier.gate
  if gate.lastWait = s.barrier.gate.lastWait then []
  else .began gate.lastWait ::
    if gate.isActive gate.lastWait then [] else [.ended gate.lastWait .timedOut]

/-- What a step adds to the chronicle. -/
def marks (s : Session) (x : Step) : List Mark := s.closings x ++ s.beginnings x

theorem mem_closings_iff {mark : Mark} : mark ∈ s.closings x ↔
    (s.empties x ∧ mark = .emptied) ∨ ∃ n, s.barrier.gate.isActive n ∧
      (s.step x).session.barrier.gate.isActive n = false ∧ mark = .ended n (s.ending x n) := by
  unfold closings
  rw [List.mem_append]
  refine or_congr ?_ ?_
  · cases s.empties x with
    | true => simp
    | false => simp
  · cases waiter : s.barrier.gate.waiter? with
    | none =>
      have idle := Gate.waiter?_eq_none_iff.mp waiter
      simp [Gate.isActive_of_idle idle]
    | some m =>
      have active := Gate.waiter?_eq_some_iff.mp waiter
      simp only
      constructor
      · intro member
        split at member
        · cases member
        · next past =>
          exact ⟨m, active, Bool.eq_false_iff.mpr past, List.mem_singleton.mp member⟩
      · rintro ⟨n, other, past, rfl⟩
        obtain rfl := Gate.isActive_unique other active
        rw [past]
        exact List.mem_singleton.mpr rfl

theorem mem_beginnings_iff {mark : Mark} : mark ∈ s.beginnings x ↔
    (s.step x).session.barrier.gate.lastWait ≠ s.barrier.gate.lastWait ∧
      (mark = .began (s.step x).session.barrier.gate.lastWait ∨
        (s.step x).session.barrier.gate.isActive
            (s.step x).session.barrier.gate.lastWait = false ∧
          mark = .ended (s.step x).session.barrier.gate.lastWait .timedOut) := by
  simp only [beginnings]
  by_cases same : (s.step x).session.barrier.gate.lastWait = s.barrier.gate.lastWait
  · simp [same]
  · rw [if_neg same]
    split
    · next still => simp [same, still]
    · next past => simp [same, Bool.eq_false_iff.mpr past]

theorem emptied_mem_marks_iff : .emptied ∈ s.marks x ↔ s.empties x := by
  simp [marks, mem_closings_iff, mem_beginnings_iff]

theorem began_mem_marks_iff : .began n ∈ s.marks x ↔
    (s.step x).session.barrier.gate.lastWait ≠ s.barrier.gate.lastWait ∧
      n = (s.step x).session.barrier.gate.lastWait := by
  simp [marks, mem_closings_iff, mem_beginnings_iff]

theorem ended_mem_closings_iff {how : Ending} : .ended n how ∈ s.closings x ↔
    s.barrier.gate.isActive n ∧ (s.step x).session.barrier.gate.isActive n = false ∧
      how = s.ending x n := by
  rw [mem_closings_iff]
  constructor
  · rintro (⟨_, other⟩ | ⟨m, active, past, same⟩)
    · cases other
    · obtain ⟨rfl, rfl⟩ := Mark.ended.inj same
      exact ⟨active, past, rfl⟩
  · rintro ⟨active, past, rfl⟩
    exact .inr ⟨n, active, past, rfl⟩

/-- The marks of some steps, one after the other. -/
def history (s : Session) : List Step → List Mark
  | [] => []
  | x :: rest => s.marks x ++ (s.step x).session.history rest

/-- The chronicle of a run, with the middle of every feed. -/
def chronicle (s : Session) (steps : List Step) : List Mark := s.history (s.operations steps)

theorem history_append (s : Session) (first second : List Step) :
    s.history (first ++ second) = s.history first ++ (s.after first).history second := by
  induction first generalizing s with
  | nil => rfl
  | cons x rest ih => rw [List.cons_append, history, history, ih, after_cons, List.append_assoc]

theorem chronicle_append (s : Session) (first second : List Step) :
    s.chronicle (first ++ second) = s.chronicle first ++ (s.after first).chronicle second := by
  rw [chronicle, operations_append, history_append, after_operations]
  rfl

end Session

/-! ## Whole waits -/

/-- The chronicles that tell of whole waits, with the number of the last one and the one that is
active. -/
inductive Annals : List Mark → Nat → Option Nat → Prop
  | start : Annals [] 0 none
  | emptied {marks : List Mark} {last : Nat} (quiet : Annals marks last none) :
      Annals (marks ++ [.emptied]) last none
  | began {marks : List Mark} {last : Nat} (quiet : Annals marks last none) :
      Annals (marks ++ [.began (last + 1)]) (last + 1) (some (last + 1))
  | ended {marks : List Mark} {last n : Nat} (how : Ending) (waiting : Annals marks last (some n)) :
      Annals (marks ++ how.marks n) last none

namespace Session

variable {s : Session} {x : Step} {n : Nat}

theorem ending_marks (s : Session) (x : Step) (n : Nat) :
    (if s.empties x then [.emptied] else []) ++ [.ended n (s.ending x n)] =
      (s.ending x n).marks n := by
  unfold ending
  cases s.empties x with
  | true => rfl
  | false => cases s.ranOut x n <;> rfl

/-- An operation after which no earlier wait is active concludes the chronicle of the last wait. -/
theorem annals_closings {told : List Mark}
    (annals : Annals told s.barrier.gate.lastWait s.barrier.gate.waiter?)
    (past : ∀ n, s.barrier.gate.isActive n → (s.step x).session.barrier.gate.isActive n = false) :
    Annals (told ++ s.closings x) s.barrier.gate.lastWait none := by
  unfold closings
  cases waiter : s.barrier.gate.waiter? with
  | none =>
    rw [waiter] at annals
    cases s.empties x with
    | true => exact .emptied annals
    | false => simpa using annals
  | some n =>
    rw [waiter] at annals
    simp only [past n (Gate.waiter?_eq_some_iff.mp waiter), Bool.false_eq_true, if_false,
      ending_marks]
    exact .ended _ annals

/-- Nothing is said about a wait that goes on. -/
theorem Sound.closings_eq_nil (sound : s.Sound) (single : x.isSingle)
    (active : s.barrier.gate.isActive n)
    (still : (s.step x).session.barrier.gate.isActive n) : s.closings x = [] := by
  have filled : s.empties x = false := by
    rw [sound.isActive_step single active] at still
    simp only [Bool.not_eq_true', Bool.or_eq_false_iff] at still
    exact still.1.1
  unfold closings
  rw [Gate.waiter?_eq_some_iff.mpr active]
  simp [filled, still]

theorem beginnings_eq_nil
    (same : (s.step x).session.barrier.gate.lastWait = s.barrier.gate.lastWait) :
    s.beginnings x = [] := if_pos same

theorem beginnings_of_succ
    (last : (s.step x).session.barrier.gate.lastWait = s.barrier.gate.lastWait + 1) :
    s.beginnings x = .began (s.barrier.gate.lastWait + 1) ::
      if (s.step x).session.barrier.gate.isActive (s.barrier.gate.lastWait + 1) then []
      else [.ended (s.barrier.gate.lastWait + 1) .timedOut] := by
  simp only [beginnings, last, if_neg (Nat.succ_ne_self _)]

/-- Whatever an operation does, it carries on with whole waits. -/
theorem Sound.annals_step (sound : s.Sound) (single : x.isSingle) {told : List Mark}
    (annals : Annals told s.barrier.gate.lastWait s.barrier.gate.waiter?) :
    Annals (told ++ s.marks x) (s.step x).session.barrier.gate.lastWait
      (s.step x).session.barrier.gate.waiter? := by
  rcases (sound.move_step single).wait_cases with
    ⟨last, idle | same⟩ | ⟨last, _, _, _, next⟩
  · have past := annals_closings (x := x) annals fun n _ => Gate.isActive_of_idle idle n
    rw [marks, beginnings_eq_nil last, List.append_nil, last, Gate.waiter?_eq_none_iff.mpr idle]
    exact past
  · have waiter : (s.step x).session.barrier.gate.waiter? = s.barrier.gate.waiter? := by
      simp only [Gate.waiter?, same]
    rw [marks, beginnings_eq_nil last, List.append_nil, last, waiter]
    cases who : s.barrier.gate.waiter? with
    | none =>
      have idle := same.trans (Gate.waiter?_eq_none_iff.mp who)
      exact annals_closings annals fun n _ => Gate.isActive_of_idle idle n
    | some n =>
      have active := Gate.waiter?_eq_some_iff.mp who
      rw [sound.closings_eq_nil single active (Gate.isActive_congr same ▸ active),
        List.append_nil, ← who]
      exact annals
  · rw [marks, beginnings_of_succ last, last, ← List.append_assoc]
    cases fleeting : s.fleeting x with
    | true =>
      have idle : (s.step x).session.barrier.gate.wait = .idle := by simpa [fleeting] using next
      have began := (annals_closings (x := x) annals fun n _ => Gate.isActive_of_idle idle n).began
      rw [Gate.isActive_of_idle idle, if_neg nofun, Gate.waiter?_eq_none_iff.mpr idle,
        List.append_cons]
      exact .ended .timedOut began
    | false =>
      obtain ⟨sleeper, wait⟩ : ∃ sleeper, (s.step x).session.barrier.gate.wait =
          .active (s.barrier.gate.lastWait + 1) sleeper := by simpa [fleeting] using next
      have active := Gate.isActive_iff.mpr ⟨sleeper, wait⟩
      have began := (annals_closings (x := x) annals fun n before => ?_).began
      · rw [if_pos active, Gate.waiter?_eq_some_iff.mpr active]
        exact began
      · have old := sound.gate.latest n before
        refine Bool.eq_false_iff.mpr fun still => ?_
        have new := Gate.isActive_unique still active
        omega

theorem Sound.annals_history (sound : s.Sound) {steps : List Step}
    (singles : ∀ x ∈ steps, x.isSingle) {told : List Mark}
    (annals : Annals told s.barrier.gate.lastWait s.barrier.gate.waiter?) :
    Annals (told ++ s.history steps) (s.after steps).barrier.gate.lastWait
      (s.after steps).barrier.gate.waiter? := by
  induction steps generalizing s told with
  | nil => simpa [history] using annals
  | cons x rest ih =>
    obtain ⟨single, others⟩ := List.forall_mem_cons.mp singles
    rw [history, ← List.append_assoc]
    exact ih (sound.step single) others (sound.annals_step single annals)

/-- The chronicle of every run tells of whole waits, and the last one is the active one. -/
theorem annals_chronicle (limit : Option Nat) (steps : List Step) :
    Annals ((new limit).chronicle steps) ((new limit).after steps).barrier.gate.lastWait
      ((new limit).after steps).barrier.gate.waiter? := by
  have singles : ∀ x ∈ (new limit).operations steps, x.isSingle := fun _ =>
    isSingle_of_mem_operations
  have annals := (sound_new limit).annals_history singles .start
  rwa [after_operations] at annals

end Session

/-! ## The fate of a wait -/

/-- Marks that say nothing about a wait. -/
def Untold (n : Nat) (marks : List Mark) : Prop := ∀ mark ∈ marks, mark.wait? ≠ some n

/-- What has become of a wait. -/
inductive Fate where
  | ahead
  | live
  | past (how : Ending)
deriving DecidableEq

/-- What a chronicle tells of one wait: nothing, its beginning as the latest line, or its beginning
and right behind it its one ending. -/
inductive Told (n : Nat) : List Mark → Fate → Prop
  | ahead {marks : List Mark} (untold : Untold n marks) : Told n marks .ahead
  | live {prior : List Mark} (before : Untold n prior) : Told n (prior ++ [.began n]) .live
  | past {prior later : List Mark} {how : Ending} (before : Untold n prior)
      (afterwards : Untold n later) : Told n (prior ++ .began n :: how.marks n ++ later) (.past how)

section Fate

variable {n last : Nat} {marks more : List Mark} {current : Option Nat} {fate other : Fate}

theorem Untold.append (first : Untold n marks) (second : Untold n more) :
    Untold n (marks ++ more) := by
  intro mark member
  rcases List.mem_append.mp member with early | late
  · exact first mark early
  · exact second mark late

theorem untold_marks {m : Nat} (differ : n ≠ m) (how : Ending) : Untold n (how.marks m) := by
  cases how <;> simp [Untold, Ending.marks, Mark.wait?, Ne.symm differ]

/-- A chronicle that goes on about something else leaves a wait where it was, unless it was live. -/
theorem Told.append (told : Told n marks fate) (idle : fate ≠ .live) (untold : Untold n more) :
    Told n (marks ++ more) fate := by
  cases told with
  | ahead before => exact .ahead (before.append untold)
  | live => exact absurd rfl idle
  | past before afterwards =>
    rw [List.append_assoc]
    exact .past before (afterwards.append untold)

theorem Told.began_iff (told : Told n marks fate) : .began n ∈ marks ↔ fate ≠ .ahead := by
  cases told with
  | ahead untold =>
    simp only [ne_eq, not_true_eq_false, iff_false]
    exact fun member => untold _ member rfl
  | live => simp
  | past => simp

theorem Told.ended_iff (told : Told n marks fate) (how : Ending) :
    .ended n how ∈ marks ↔ fate = .past how := by
  cases told with
  | ahead untold =>
    simp only [reduceCtorEq, iff_false]
    exact fun member => untold _ member rfl
  | live before =>
    simp only [List.mem_append, List.mem_singleton, reduceCtorEq, or_false, iff_false]
    exact fun member => before _ member rfl
  | @past prior later how' before afterwards =>
    have outside : Mark.ended n how ∉ prior ∧ Mark.ended n how ∉ later :=
      ⟨fun member => before _ member rfl, fun member => afterwards _ member rfl⟩
    cases how' <;> simp [outside, Ending.marks, eq_comm]

/-- No chronicle tells two fates of one wait. -/
theorem Told.unique (first : Told n marks fate) (second : Told n marks other) : fate = other := by
  cases other with
  | past how => exact (first.ended_iff how).mp ((second.ended_iff how).mpr rfl)
  | ahead =>
    by_contra begun
    exact second.began_iff.mp (first.began_iff.mpr begun) rfl
  | live =>
    cases fate with
    | live => rfl
    | ahead => exact absurd rfl (first.began_iff.mp (second.began_iff.mpr nofun))
    | past how => cases (second.ended_iff how).mp ((first.ended_iff how).mpr rfl)

/-- Chronicles of whole waits tell a fate of every wait. -/
theorem Annals.exists_fate (annals : Annals marks last current) (n : Nat) :
    ∃ fate, Told n marks fate ∧ (fate = .live ↔ current = some n) ∧
      (fate = .ahead ↔ n = 0 ∨ last < n) := by
  induction annals with
  | start => exact ⟨.ahead, .ahead nofun, by simp, by simp; omega⟩
  | emptied _ ih =>
    obtain ⟨fate, told, live, ahead⟩ := ih
    exact ⟨fate, told.append (by simp [live]) (by simp [Untold, Mark.wait?]), live, ahead⟩
  | @began marks last _ ih =>
    obtain ⟨fate, told, live, ahead⟩ := ih
    by_cases new : n = last + 1
    · obtain rfl := ahead.mpr (by omega)
      cases told with
      | ahead untold => exact ⟨.live, new ▸ .live untold, by simp [new], by simp; omega⟩
    · have elsewhere : Untold n [.began (last + 1)] := by
        simpa [Untold, Mark.wait?] using Ne.symm new
      refine ⟨fate, told.append (by simp [live]) elsewhere, ?_, ?_⟩
      · simpa [live] using Ne.symm new
      · rw [ahead]
        omega
  | @ended marks last m how _ ih =>
    obtain ⟨fate, told, live, ahead⟩ := ih
    by_cases mine : n = m
    · subst mine
      obtain rfl := live.mpr rfl
      cases told with
      | @live prior before =>
        refine ⟨.past how, ?_, by simp, by simpa using ahead⟩
        have whole : Told n (prior ++ .began n :: how.marks n ++ []) (.past how) :=
          .past before nofun
        simpa using whole
    · refine ⟨fate, told.append ?_ (untold_marks mine how), ?_, ahead⟩
      · rw [ne_eq, live]
        simpa using Ne.symm mine
      · rw [live]
        simpa using Ne.symm mine

end Fate

namespace Session

variable {n : Nat} (limit : Option Nat) (steps : List Step)

/-- The live wait of a chronicle is the one that the barrier has as active. -/
theorem told_live_iff (n : Nat) :
    Told n ((new limit).chronicle steps) .live ↔
      ((new limit).after steps).barrier.gate.isActive n := by
  obtain ⟨fate, told, live, _⟩ := (annals_chronicle limit steps).exists_fate n
  rw [← Gate.waiter?_eq_some_iff, ← live]
  exact ⟨fun other => told.unique other, fun same => same ▸ told⟩

/-- A wait that has begun is active, or the chronicle tells how it ended. -/
theorem active_or_ended (first : 1 ≤ n)
    (begun : n ≤ ((new limit).after steps).barrier.gate.lastWait) :
    ((new limit).after steps).barrier.gate.isActive n ∨
      ∃ how, .ended n how ∈ (new limit).chronicle steps := by
  obtain ⟨fate, told, _, ahead⟩ := (annals_chronicle limit steps).exists_fate n
  cases fate with
  | ahead =>
    have unknown := ahead.mp rfl
    omega
  | live => exact .inl ((told_live_iff limit steps n).mp told)
  | past how => exact .inr ⟨how, (told.ended_iff how).mpr rfl⟩

/-- A wait of which the chronicle tells how it ended has begun and is not active any more. -/
theorem inactive_of_ended {how : Ending} (ended : .ended n how ∈ (new limit).chronicle steps) :
    n ≤ ((new limit).after steps).barrier.gate.lastWait ∧
      ((new limit).after steps).barrier.gate.isActive n = false := by
  obtain ⟨fate, told, _, ahead⟩ := (annals_chronicle limit steps).exists_fate n
  obtain rfl := (told.ended_iff how).mp ended
  constructor
  · by_contra above
    cases ahead.mpr (.inr (Nat.lt_of_not_le above))
  · refine Bool.eq_false_iff.mpr fun active => ?_
    cases told.unique ((told_live_iff limit steps n).mpr active)

end Session

end Quiescence
