import Quiescence.Event
import Quiescence.Fault
import Mathlib.Data.List.DropRight

/-! # What the events so far decide

Whether an event is accepted, and what is known of a handle after it, can be read off the list of
the events so far, without any record of what is open. A refused event stands in this list like any
other; it makes no difference to what comes later.
-/

namespace Quiescence

/-- The events so far, the latest one last, whether they were accepted or refused. -/
abbrev Past := List Event

namespace Past

/-- What the latest event that opens or closes the handle does. -/
def latest? (past : Past) (h : Handle) : Option EventKind :=
  (past.filter fun e => e.handle = h ∧ e.kind ≠ .modified).getLast?.map Event.kind

/-- Whether the handle was opened later than closed. -/
def isOpen (past : Past) (h : Handle) : Bool := past.latest? h = some .opened

/-- The events from the first one on that opens the handle after it was last closed. -/
def tenure (past : Past) (h : Handle) : List Event :=
  (past.rtakeWhile (· ≠ ⟨.closed, h⟩)).dropWhile (· ≠ ⟨.opened, h⟩)

/-- Whether the handle was modified in its tenure. -/
def isMarked (past : Past) (h : Handle) : Bool := ⟨.modified, h⟩ ∈ past.tenure h

/-- Why the next event is refused; nothing if it is accepted. -/
def fault? (past : Past) (event : Event) : Option Fault :=
  match event.kind with
  | .opened => if past.isOpen event.handle then some (.alreadyOpen event.handle) else none
  | .closed | .modified => if past.isOpen event.handle then none else some (.notOpen event.handle)

/-- Those of the next events that are accepted. -/
def accepted (past : Past) : List Event → List Event
  | [] => []
  | event :: rest =>
    (if past.fault? event = none then [event] else []) ++ accepted (past ++ [event]) rest

/-- What is known of a handle: nothing unless it is open, and otherwise whether it was modified. -/
def standing (past : Past) (h : Handle) : Option Bool :=
  if past.isOpen h then some (past.isMarked h) else none

theorem accepted_append (past : Past) (first second : List Event) :
    past.accepted (first ++ second) = past.accepted first ++ accepted (past ++ first) second := by
  induction first generalizing past with
  | nil => rw [List.nil_append, accepted, List.nil_append, List.append_nil]
  | cons event rest ih =>
    rw [List.cons_append, accepted, accepted, ih, List.append_assoc, List.append_assoc,
      List.singleton_append]

/-! ## One more event -/

variable (past : Past) (event : Event) (h : Handle)

theorem latest?_concat : latest? (past ++ [event]) h =
    if event.handle = h ∧ event.kind ≠ .modified then some event.kind else past.latest? h := by
  unfold latest?
  rw [List.filter_append]
  split
  · next turns => simp [turns]
  · next passes => simp [passes]

theorem isOpen_concat : isOpen (past ++ [event]) h =
    if event.handle = h then
      match event.kind with
      | .opened => true
      | .closed => false
      | .modified => past.isOpen h
    else past.isOpen h := by
  unfold isOpen
  rw [latest?_concat]
  by_cases same : event.handle = h
  · cases kind : event.kind <;> simp [same]
  · simp [same]

theorem tenure_concat : tenure (past ++ [event]) h =
    if event = ⟨.closed, h⟩ then []
    else if past.tenure h = [] then if event = ⟨.opened, h⟩ then [event] else []
    else past.tenure h ++ [event] := by
  unfold tenure
  by_cases closes : event = ⟨.closed, h⟩
  · rw [if_pos closes, List.rtakeWhile_concat_neg _ _ _ (by simp [closes])]
    rfl
  · rw [if_neg closes, List.rtakeWhile_concat_pos _ _ _ (by simpa using closes),
      List.dropWhile_append]
    generalize (past.rtakeWhile _).dropWhile _ = kept
    cases kept with
    | nil => by_cases opens : event = ⟨.opened, h⟩ <;> simp [opens]
    | cons first rest => rfl

/-- A handle is open exactly during its tenure. -/
theorem isOpen_eq_tenure : past.isOpen h = !(past.tenure h).isEmpty := by
  induction past using List.reverseRecOn with
  | nil => rfl
  | append_singleton earlier event ih =>
    rw [isOpen_concat, tenure_concat, ih]
    obtain ⟨kind, handle⟩ := event
    by_cases same : handle = h
    · subst same
      cases kind <;> cases tenure earlier handle <;> simp
    · cases tenure earlier h <;> simp [same]

variable {past h} in
theorem mem_of_isOpen (opened : past.isOpen h) : h ∈ past.map Event.handle := by
  have latest : past.latest? h = some .opened := of_decide_eq_true opened
  obtain ⟨event, last, _⟩ := Option.map_eq_some_iff.mp latest
  obtain ⟨member, turns⟩ := List.mem_filter.mp (List.mem_of_getLast? last)
  exact List.mem_map.mpr ⟨event, member, (of_decide_eq_true turns).1⟩

variable {past h} in
/-- A handle is modified only in its tenure. -/
theorem isOpen_of_isMarked (marked : past.isMarked h) : past.isOpen h := by
  rw [isOpen_eq_tenure]
  have member : ⟨.modified, h⟩ ∈ past.tenure h := of_decide_eq_true marked
  cases tenure : past.tenure h with
  | nil => simp [tenure] at member
  | cons => rfl

theorem isMarked_concat : isMarked (past ++ [event]) h =
    if event.handle = h then
      match event.kind with
      | .opened => past.isMarked h
      | .closed => false
      | .modified => past.isOpen h
    else past.isMarked h := by
  unfold isMarked
  rw [isOpen_eq_tenure, tenure_concat]
  obtain ⟨kind, handle⟩ := event
  by_cases same : handle = h
  · subst same
    cases kind <;> cases past.tenure handle <;> simp
  · cases past.tenure h <;> simp [same, Ne.symm same]

/-- One more event changes what is known of its own handle alone. -/
theorem standing_concat : standing (past ++ [event]) h =
    if event.handle = h then
      match event.kind with
      | .opened => some ((past.standing h).getD false)
      | .closed => none
      | .modified => (past.standing h).map fun _ => true
    else past.standing h := by
  unfold standing
  rw [isOpen_concat, isMarked_concat]
  by_cases same : event.handle = h
  · have kept : past.isMarked h → past.isOpen h := isOpen_of_isMarked
    cases event.kind <;> cases shut : past.isOpen h <;> simp_all
  · simp [same]

/-! ## What is known in the end -/

variable {past h}

theorem standing_eq_true : past.standing h = some true ↔ past.isMarked h := by
  unfold standing
  constructor
  · intro known
    split at known
    · exact Option.some.inj known
    · cases known
  · intro marked
    rw [if_pos (isOpen_of_isMarked marked), marked]

theorem isSome_standing : (past.standing h).isSome = past.isOpen h := by
  unfold standing
  cases past.isOpen h <;> rfl

end Past

end Quiescence
