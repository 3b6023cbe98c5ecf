import Quiescence.Proofs.Session.Slots

/-! # What holds of a session at all times

The waits in the slots have begun and are different waits, and the active wait of a task is in one
of the slots. A thread that ran out of time found its wait over. What a session does to its gate and
its slots keeps this, as long as a wait that ends is not left behind in a slot as the active one.
-/

namespace Quiescence.Session

variable {s next : Session} {slot : String} {n : Nat}

/-- What holds of a session between any two operations. -/
structure Sound (s : Session) : Prop where
  gate : s.barrier.gate.Sound
  keys : (s.slots.map Prod.fst).Nodup
  numbers : (s.slots.map fun held => held.2.number).Nodup
  begun : ∀ held ∈ s.slots, held.2.number ≤ s.barrier.gate.lastWait
  owned : ∀ n, s.barrier.gate.wait = .active n .task →
    ∃ held ∈ s.slots, held.2.number = n ∧ held.2.sleeper = .task
  overdue : ∀ late ∈ s.overdue, late.1 ≤ s.barrier.gate.lastWait ∧
    s.barrier.gate.isActive late.1 = false

theorem sound_new (limit : Option Nat) : (new limit).Sound where
  gate := Gate.sound_new
  keys := List.nodup_nil
  numbers := List.nodup_nil
  begun := nofun
  owned := nofun
  overdue := nofun

/-- Where a new wait goes: into an empty slot, or nowhere if the caller parks itself. -/
inductive Seat (s : Session) : Sleeper → List (String × Slot) → Prop
  | nowhere : Seat s .thread []
  | taken {slot : String} {held : Slot} (empty : s.slots.lookup slot = none)
      (number : held.number = s.barrier.gate.lastWait + 1) : Seat s held.sleeper [(slot, held)]

namespace Sound

/-- The task that owns the active wait can be found by its slot. -/
theorem taskIn_of_active (sound : s.Sound) (active : s.barrier.gate.wait = .active n .task) :
    ∃ slot, s.taskIn? slot = some n := by
  obtain ⟨⟨slot, held⟩, member, number, task⟩ := sound.owned n active
  cases held with
  | thread => cases task
  | task m deadline =>
    obtain rfl : m = n := number
    exact ⟨slot, taskIn?_eq_some_iff.mpr
      ⟨deadline, List.lookup_eq_some_of_mem sound.keys member⟩⟩

theorem lookup_overdue (sound : s.Sound) (active : s.barrier.gate.isActive n) :
    s.overdue.lookup n = none := by
  refine List.lookup_eq_none_iff.mpr fun late member => bne_iff_ne.mpr fun same => ?_
  rw [same, (sound.overdue late member).2] at active
  cases active

/-- Different slots hold different waits. -/
theorem slot_unique (sound : s.Sound) {other : String} {one two : Slot}
    (first : s.slots.lookup slot = some one) (second : s.slots.lookup other = some two)
    (same : one.number = two.number) : slot = other := by
  have equal := List.inj_on_of_nodup_map sound.numbers (List.mem_of_lookup_eq_some first)
    (List.mem_of_lookup_eq_some second) same
  exact congrArg Prod.fst equal

/-- A session stays sound when the active wait ends or goes on and the slots stay as they are. -/
theorem of_gate (sound : s.Sound) (gate : next.barrier.gate.Sound)
    (wait : next.barrier.gate.wait = .idle ∨ next.barrier.gate.wait = s.barrier.gate.wait)
    (lastWait : s.barrier.gate.lastWait ≤ next.barrier.gate.lastWait) (slots : next.slots = s.slots)
    (overdue : ∀ late ∈ next.overdue, late ∈ s.overdue ∨
      late.1 ≤ next.barrier.gate.lastWait ∧ next.barrier.gate.isActive late.1 = false) :
    next.Sound := by
  refine ⟨gate, slots ▸ sound.keys, slots ▸ sound.numbers, fun held member => ?_,
    fun m active => ?_, fun late member => ?_⟩
  · exact Nat.le_trans (sound.begun held (slots ▸ member)) lastWait
  · rcases wait with idle | same
    · rw [idle] at active
      cases active
    · exact slots ▸ sound.owned m (same ▸ active)
  · rcases overdue late member with old | new
    · obtain ⟨begun, past⟩ := sound.overdue late old
      refine ⟨Nat.le_trans begun lastWait, ?_⟩
      rcases wait with idle | same
      · exact Gate.isActive_of_idle idle _
      · rw [Gate.isActive_congr same]
        exact past
    · exact new

theorem abandon (sound : s.Sound) (slot : String) : (s.abandon slot).Sound := by
  have gate : (s.abandon slot).barrier.gate.Sound := by
    rw [abandon_gate]
    split
    · exact sound.gate.retract _
    · exact sound.gate
  refine ⟨gate, ?_, ?_, fun held member => ?_, fun m active => ?_, fun late member => ?_⟩
  · simpa using List.nodup_filter_key sound.keys slot
  · rw [abandon_slots]
    exact sound.numbers.sublist (List.filter_sublist.map _)
  · rw [abandon_slots, List.mem_filter] at member
    simpa using sound.begun held member.1
  · have before : s.barrier.gate.wait = .active m .task := by
      rcases abandon_wait s slot with idle | same
      · rw [idle] at active
        cases active
      · exact same ▸ active
    obtain ⟨⟨key, held⟩, member, number, task⟩ := sound.owned m before
    refine ⟨(key, held), ?_, number, task⟩
    rw [abandon_slots, List.mem_filter]
    refine ⟨member, bne_iff_ne.mpr fun same => ?_⟩
    obtain rfl : key = slot := same
    have kept : (s.abandon key).barrier.gate.isActive m := Gate.isActive_iff.mpr ⟨_, active⟩
    cases held with
    | thread => cases task
    | task number' deadline =>
      obtain rfl : number' = m := number
      rw [abandon_isActive, taskIn?_eq_some_iff.mpr
        ⟨deadline, List.lookup_eq_some_of_mem sound.keys member⟩] at kept
      simp at kept
  · obtain ⟨begun, past⟩ := sound.overdue late (by simpa using member)
    exact ⟨by simpa using begun, by simp [abandon_isActive, past]⟩

/-- A new wait that takes a seat of its own keeps the session sound. -/
theorem seat (sound : s.Sound) (filled : s.barrier.gate.ledger.isEmpty = false) {sleeper : Sleeper}
    {fresh : List (String × Slot)} (seat : s.Seat sleeper fresh)
    (gate : next.barrier.gate = s.barrier.gate.begun sleeper)
    (slots : next.slots = s.slots ++ fresh) (overdue : next.overdue = s.overdue) : next.Sound := by
  have last : next.barrier.gate.lastWait = s.barrier.gate.lastWait + 1 := by rw [gate]; rfl
  have wait : next.barrier.gate.wait = .active (s.barrier.gate.lastWait + 1) sleeper := by
    rw [gate]; rfl
  refine ⟨gate ▸ sound.gate.begun filled sleeper, ?_, ?_, fun held member => ?_,
    fun m active => ?_, fun late member => ?_⟩
  · rw [slots]
    cases seat with
    | nowhere => simpa using sound.keys
    | taken empty number => exact List.nodup_concat_key sound.keys empty _
  · rw [slots, List.map_append, List.nodup_append]
    refine ⟨sound.numbers, ?_, ?_⟩
    · cases seat <;> simp
    · intro m old other new same
      obtain ⟨held, member, rfl⟩ := List.mem_map.mp old
      have below := sound.begun held member
      cases seat with
      | nowhere => cases new
      | taken empty number =>
        have new := List.mem_singleton.mp new
        simp only [number] at new
        omega
  · rw [slots, List.mem_append] at member
    rcases member with old | new
    · have below := sound.begun held old
      omega
    · cases seat with
      | nowhere => cases new
      | taken empty number =>
        obtain rfl := List.mem_singleton.mp new
        rw [last]
        exact Nat.le_of_eq number
  · rw [wait] at active
    obtain ⟨rfl, task⟩ := Wait.active.inj active
    cases seat with
    | nowhere => cases task
    | taken empty number =>
      exact ⟨_, slots ▸ List.mem_append_right _ List.mem_cons_self, number, task⟩
  · obtain ⟨below, _⟩ := sound.overdue late (overdue ▸ member)
    refine ⟨by omega, Bool.eq_false_iff.mpr fun active => ?_⟩
    obtain ⟨_, active⟩ := Gate.isActive_iff.mp active
    rw [wait] at active
    have same := (Wait.active.inj active).1
    omega

end Sound

end Quiescence.Session
