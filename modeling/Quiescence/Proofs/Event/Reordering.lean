import Quiescence.Proofs.Event.Past
import Mathlib.Data.List.Perm.Basic

/-! # Reordering events

The events about one handle say everything about it. So it makes no difference how the events about
different handles stand among each other: what is known of a handle in the end, and whether an event
is accepted, depends on the order of the events about the same handle alone. Producers who report
about different handles may be interleaved in any way.
-/

namespace Quiescence

/-! ## Lists that differ in the order across keys -/

section Keyed

variable {α β κ : Type} [DecidableEq κ] {key : α → κ} {one other third : List α}

/-- Two lists have the same entries, and the entries of one key stand in the same order. -/
def Reordered (key : α → κ) (one other : List α) : Prop :=
  ∀ k, one.filter (key · = k) = other.filter (key · = k)

namespace Reordered

theorem symm (reordered : Reordered key one other) : Reordered key other one :=
  fun k => (reordered k).symm

theorem trans (first : Reordered key one other) (second : Reordered key other third) :
    Reordered key one third :=
  fun k => (first k).trans (second k)

theorem perm [DecidableEq α] (reordered : Reordered key one other) : one.Perm other := by
  refine List.perm_iff_count.mpr fun entry => ?_
  have whole (list : List α) :
      (list.filter (key · = key entry)).count entry = list.count entry := by
    rw [List.count_filter]
    exact decide_eq_true rfl
  rw [← whole one, reordered, whole other]

/-- Entries may be exchanged for others of the same key. -/
theorem map (reordered : Reordered key one other) {key' : β → κ} {f : α → β}
    (kept : ∀ entry, key' (f entry) = key entry) :
    Reordered key' (one.map f) (other.map f) := by
  intro k
  have same : (fun entry => decide (key' entry = k)) ∘ f = fun entry => decide (key entry = k) := by
    funext entry
    simp [kept]
  rw [List.filter_map, List.filter_map, same, reordered]

end Reordered

/-- The ways in which the entries of several lists can be put into one, each list in its order. -/
inductive Interleaves : List (List α) → List α → Prop
  | done {lists : List (List α)} (used : ∀ list ∈ lists, list = []) : Interleaves lists []
  | next {before after : List (List α)} {entry : α} {rest merged : List α}
      (later : Interleaves (before ++ rest :: after) merged) :
      Interleaves (before ++ (entry :: rest) :: after) (entry :: merged)

/-- No key occurs in both lists. -/
def Apart (key : α → κ) (one other : List α) : Prop :=
  ∀ entry ∈ one, ∀ further ∈ other, key entry ≠ key further

omit [DecidableEq κ] in
/-- Lists stay apart when one of them loses its first entry, whose key the lists before do not
have. -/
theorem pairwise_apart_tail {before after : List (List α)} {entry : α} {rest : List α}
    (apart : (before ++ (entry :: rest) :: after).Pairwise (Apart key)) :
    (before ++ rest :: after).Pairwise (Apart key) ∧
      ∀ further ∈ before.flatten, key further ≠ key entry := by
  obtain ⟨front, back, across⟩ := List.pairwise_append.mp apart
  obtain ⟨behind, back⟩ := List.pairwise_cons.mp back
  have across (list : List α) (early : list ∈ before) :
      Apart key list (entry :: rest) ∧ ∀ late ∈ after, Apart key list late :=
    List.forall_mem_cons.mp (across list early)
  constructor
  · refine List.pairwise_append.mpr ⟨front, List.pairwise_cons.mpr ⟨?_, back⟩, ?_⟩
    · exact fun late member first inside =>
        behind late member first (List.mem_cons_of_mem entry inside)
    · intro list early
      obtain ⟨whole, others⟩ := across list early
      exact List.forall_mem_cons.mpr
        ⟨fun first inside last member =>
          whole first inside last (List.mem_cons_of_mem entry member), others⟩
  · intro further member
    obtain ⟨list, early, inside⟩ := List.mem_flatten.mp member
    exact (across list early).1 further inside entry List.mem_cons_self

/-- Lists that share no key are interleaved to the entries of all of them, key by key. -/
theorem Interleaves.reordered_flatten {lists : List (List α)} {merged : List α}
    (interleaves : Interleaves lists merged) (apart : lists.Pairwise (Apart key)) :
    Reordered key merged lists.flatten := by
  induction interleaves with
  | done used =>
    rw [List.flatten_eq_nil_iff.mpr used]
    exact fun _ => rfl
  | @next before after entry rest merged later ih =>
    obtain ⟨fewer, front⟩ := pairwise_apart_tail apart
    intro k
    have same := ih fewer k
    rw [List.flatten_append, List.flatten_cons, List.filter_append] at same ⊢
    by_cases own : key entry = k
    · have absent : before.flatten.filter (key · = k) = [] :=
        List.filter_eq_nil_iff.mpr fun further member => by simpa [← own] using front further member
      rw [absent] at same ⊢
      simpa [own] using same
    · simpa [own] using same

/-- However lists that share no key are interleaved, only the order across keys differs. -/
theorem Interleaves.reordered {lists : List (List α)} (first : Interleaves lists one)
    (second : Interleaves lists other) (apart : lists.Pairwise (Apart key)) :
    Reordered key one other :=
  (first.reordered_flatten apart).trans (second.reordered_flatten apart).symm

end Keyed

/-! ## Events -/

namespace Past

variable {past first second : Past} {events : List Event} {event : Event} {h : Handle}

/-- What is known of a handle depends on the events about it alone. -/
theorem standing_filter (past : Past) (events : List Event) (h : Handle) :
    standing (past ++ events) h = standing (past ++ events.filter (·.handle = h)) h := by
  induction events using List.reverseRecOn with
  | nil => rfl
  | append_singleton earlier event ih =>
    rw [List.filter_append, ← List.append_assoc, standing_concat, ih]
    by_cases own : event.handle = h
    · simp only [own, decide_true, List.filter_cons_of_pos, List.filter_nil]
      rw [← List.append_assoc, standing_concat]
      simp only [own]
    · simp [own]

theorem standing_reordered {one other : List Event} (reordered : Reordered Event.handle one other)
    (past : Past) (h : Handle) : standing (past ++ one) h = standing (past ++ other) h := by
  rw [standing_filter, reordered, ← standing_filter]

/-- The next events, and why each of them is refused, if it is. -/
def verdicts (past : Past) : List Event → List (Event × Option Fault)
  | [] => []
  | event :: rest => (event, past.fault? event) :: verdicts (past ++ [event]) rest

theorem fault?_congr (known : first.isOpen event.handle = second.isOpen event.handle) :
    first.fault? event = second.fault? event := by
  unfold fault?
  rw [known]

/-- As far as one handle is concerned, nothing counts but whether it is open. -/
theorem verdicts_congr (own : ∀ event ∈ events, event.handle = h)
    (known : first.isOpen h = second.isOpen h) :
    first.verdicts events = second.verdicts events := by
  induction events generalizing first second with
  | nil => rfl
  | cons event rest ih =>
    obtain ⟨here, later⟩ := List.forall_mem_cons.mp own
    have fault : first.fault? event = second.fault? event := fault?_congr (here ▸ known)
    have next : isOpen (first ++ [event]) h = isOpen (second ++ [event]) h := by
      rw [isOpen_concat, isOpen_concat, known]
    rw [verdicts, verdicts, fault, ih later next]

/-- The verdicts on the events about one handle depend on these events alone. -/
theorem verdicts_filter (past : Past) (events : List Event) (h : Handle) :
    (past.verdicts events).filter (·.1.handle = h) =
      past.verdicts (events.filter (·.handle = h)) := by
  induction events generalizing past with
  | nil => rfl
  | cons event rest ih =>
    by_cases own : event.handle = h
    · simp [verdicts, own, ih]
    · have passed : (past ++ [event] : Past).isOpen h = past.isOpen h := by
        rw [isOpen_concat, if_neg own]
      have about : ∀ event ∈ rest.filter (·.handle = h), event.handle = h :=
        fun _ member => by simpa using (List.mem_filter.mp member).2
      rw [verdicts, List.filter_cons_of_neg (by simpa using own),
        List.filter_cons_of_neg (by simpa using own), ih, verdicts_congr about passed]

theorem verdicts_reordered {one other : List Event} (reordered : Reordered Event.handle one other)
    (past : Past) :
    Reordered (fun verdict : Event × Option Fault => verdict.1.handle) (past.verdicts one)
      (past.verdicts other) := by
  intro h
  rw [verdicts_filter, verdicts_filter, reordered]

end Past

end Quiescence
