import Quiescence.Proofs.Ledger.Listing
import Mathlib.Data.Finset.Sort

/-! # A ledger answers like a flat roll

A roll is the plainest record of open handles: one finite set, with a mark on some of its members.
It has no contexts, no counters and no order of its own. Asked the same requests in the same order,
a ledger and a roll that both begin empty give the same answers: which changes are refused and why,
what is open and marked, how many handles and contexts there are, and every list in handle order.
-/

namespace Quiescence

/-- One thing that a record of open handles is asked to do or to tell. -/
inductive Request where
  | add (now : Moment) (h : Handle)
  | remove (h : Handle)
  | mark (now : Moment) (h : Handle)
  | clearContext (context : String)
  | clear
  | contains (h : Handle)
  | usesContext (context : String)
  | isEmpty
  | count
  | contextsInUse
  | rows

/-- The answer to a request. -/
inductive Response where
  | done
  | refused (fault : Fault)
  | names (names : List String)
  | handles (handles : List Handle)
  | flag (value : Bool)
  | number (value : Nat)
  /-- The open handles, and whether each was modified. -/
  | rows (rows : List (Handle × Bool))

/-- Whether the list in an answer is in strictly ascending order. -/
def Response.Ascending : Response → Prop
  | names ns => ns.SortedLT
  | handles hs => hs.SortedLT
  | rows rs => (rs.map Prod.fst).SortedLT
  | done | refused _ | flag _ | number _ => True

/-- The answers of a record to requests that come one after the other. -/
def Request.answers {Record : Type} (respond : Request → Record → Response × Record) :
    List Request → Record → List Response
  | [], _ => []
  | request :: rest, record =>
    let (response, next) := respond request record
    response :: answers respond rest next

/-! ## Rolls -/

/-- The open handles, and those of them that were modified since they were opened. -/
@[ext]
structure Roll where
  opened : Finset Handle
  modified : Finset Handle
  modified_subset : modified ⊆ opened

namespace Roll

/-- Nothing is open. -/
def empty : Roll := ⟨∅, ∅, subset_rfl⟩

/-- Adds a handle, without a mark. -/
def add (h : Handle) (roll : Roll) : Roll where
  opened := insert h roll.opened
  modified := roll.modified
  modified_subset := roll.modified_subset.trans (Finset.subset_insert h _)

/-- Takes handles off the roll, and their marks with them. -/
def strike (hs : Finset Handle) (roll : Roll) : Roll where
  opened := roll.opened \ hs
  modified := roll.modified \ hs
  modified_subset := Finset.sdiff_subset_sdiff roll.modified_subset subset_rfl

/-- Marks a handle of the roll. -/
def mark (h : Handle) (roll : Roll) (present : h ∈ roll.opened) : Roll where
  opened := roll.opened
  modified := insert h roll.modified
  modified_subset := Finset.insert_subset present roll.modified_subset

/-- The handles of one context. -/
def inContext (context : String) (roll : Roll) : Finset Handle :=
  roll.opened.filter (·.context = context)

/-- The contexts that have a handle on the roll. -/
def contexts (roll : Roll) : Finset String := roll.opened.image Handle.context

/-- The handles of the roll in ascending order, each with whether it is marked. -/
def listing (roll : Roll) : List (Handle × Bool) :=
  roll.opened.sort.map fun h => (h, decide (h ∈ roll.modified))

/-- How a roll answers. -/
def respond : Request → Roll → Response × Roll
  | .add _ h, roll =>
    if h ∈ roll.opened then (.refused (.alreadyOpen h), roll) else (.done, roll.add h)
  | .remove h, roll =>
    if h ∈ roll.opened then (.done, roll.strike {h}) else (.refused (.notOpen h), roll)
  | .mark _ h, roll =>
    if present : h ∈ roll.opened then (.done, roll.mark h present) else (.refused (.notOpen h), roll)
  | .clearContext context, roll =>
    let struck := roll.inContext context
    (.names (struck.image Handle.name).sort, roll.strike struck)
  | .clear, roll => (.handles roll.opened.sort, empty)
  | .contains h, roll => (.flag (h ∈ roll.opened), roll)
  | .usesContext context, roll => (.flag (context ∈ roll.contexts), roll)
  | .isEmpty, roll => (.flag (roll.opened = ∅), roll)
  | .count, roll => (.number roll.opened.card, roll)
  | .contextsInUse, roll => (.number roll.contexts.card, roll)
  | .rows, roll => (.rows roll.listing, roll)

theorem respond_ascending (request : Request) (roll : Roll) :
    (roll.respond request).1.Ascending := by
  cases request with
  | add | remove | mark =>
    simp only [respond]
    split
    · trivial
    · trivial
  | clearContext context => exact Finset.sortedLT_sort _
  | clear => exact Finset.sortedLT_sort _
  | rows =>
    simp only [respond, listing, Response.Ascending, List.map_map, Function.comp_def, List.map_id']
    exact Finset.sortedLT_sort _
  | _ => trivial

theorem answers_ascending (requests : List Request) (roll : Roll) :
    ∀ response ∈ Request.answers respond requests roll, response.Ascending := by
  induction requests generalizing roll with
  | nil => nofun
  | cons request rest ih =>
    intro response member
    rcases List.mem_cons.mp member with rfl | later
    · exact respond_ascending request roll
    · exact ih _ response later

end Roll

namespace Ledger

/-- The answer to a change, and the ledger after it. -/
def settled (ledger : Ledger) : Except Fault Ledger → Response × Ledger
  | .ok next => (.done, next)
  | .error fault => (.refused fault, ledger)

/-- How a ledger answers. -/
def respond : Request → Ledger → Response × Ledger
  | .add now h, ledger => ledger.settled (ledger.add now h)
  | .remove h, ledger => ledger.settled (ledger.remove h)
  | .mark now h, ledger => ledger.settled (ledger.mark now h)
  | .clearContext context, ledger =>
    let (names, next) := ledger.clearContext context
    (.names names, next)
  | .clear, ledger =>
    let (handles, next) := ledger.clear
    (.handles handles, next)
  | .contains h, ledger => (.flag (ledger.contains h), ledger)
  | .usesContext context, ledger => (.flag (ledger.usesContext context), ledger)
  | .isEmpty, ledger => (.flag ledger.isEmpty, ledger)
  | .count, ledger => (.number ledger.count, ledger)
  | .contextsInUse, ledger => (.number ledger.contextsInUse, ledger)
  | .rows, ledger => (.rows (ledger.rows.map fun row => (row.handle, row.modifiedAt.isSome)), ledger)

/-- The ledger and the roll record the same handles with the same marks. -/
structure Depicts (ledger : Ledger) (roll : Roll) : Prop where
  tallied : ledger.Tallied
  opened : ∀ h, h ∈ roll.opened ↔ ledger.contains h
  modified : ∀ h, h ∈ roll.modified ↔ ∃ entry, ledger.entry? h = some entry ∧ entry.modifiedAt.isSome

theorem depicts_empty : empty.Depicts .empty where
  tallied := tallied_empty
  opened h := by simp [Roll.empty, contains, entry?_empty]
  modified h := by simp [Roll.empty, entry?_empty]

variable {ledger next : Ledger} {roll : Roll} {now : Moment} {h : Handle}

namespace Depicts

theorem unmarked (depicts : ledger.Depicts roll) (absent : ledger.contains h = false) :
    h ∉ roll.modified := by
  intro marked
  have present := (depicts.opened h).mp (roll.modified_subset marked)
  rw [absent] at present
  cases present

theorem add (depicts : ledger.Depicts roll) (added : ledger.add now h = .ok next)
    (absent : ledger.contains h = false) : next.Depicts (roll.add h) where
  tallied := depicts.tallied.add added
  opened k := by
    rw [Roll.add, Finset.mem_insert, depicts.opened, contains_add added]
  modified k := by
    rw [Roll.add, depicts.modified, entry?_add added]
    by_cases same : k = h
    · subst same
      have unmarked := depicts.unmarked absent
      rw [depicts.modified] at unmarked
      simpa using unmarked
    · simp [same]

theorem remove (depicts : ledger.Depicts roll) (removed : ledger.remove h = .ok next) :
    next.Depicts (roll.strike {h}) where
  tallied := depicts.tallied.remove removed
  opened k := by
    rw [Roll.strike, Finset.mem_sdiff, Finset.mem_singleton, depicts.opened,
      contains_remove removed]
  modified k := by
    simp only [Roll.strike, Finset.mem_sdiff, Finset.mem_singleton, depicts.modified,
      entry?_remove removed]
    by_cases same : k = h
    · simp [same]
    · simp [same]

theorem mark (depicts : ledger.Depicts roll) (marked : ledger.mark now h = .ok next)
    (present : h ∈ roll.opened) : next.Depicts (roll.mark h present) where
  tallied := depicts.tallied.mark marked
  opened k := by
    rw [Roll.mark, depicts.opened, contains_mark marked]
  modified k := by
    rw [Roll.mark, Finset.mem_insert, depicts.modified, entry?_mark marked]
    by_cases same : k = h
    · obtain ⟨entry, known⟩ := contains_iff.mp ((depicts.opened h).mp present)
      simp [same, known]
    · simp [same]

theorem clearContext (depicts : ledger.Depicts roll) (context : String) :
    (ledger.clearContext context).2.Depicts (roll.strike (roll.inContext context)) where
  tallied := depicts.tallied.clearContext context
  opened k := by
    simp only [Roll.strike, Roll.inContext, Finset.mem_sdiff, Finset.mem_filter, depicts.opened,
      contains, entry?_clearContext]
    by_cases same : k.context = context
    · simp [same, Option.isSome_iff_ne_none]
    · simp [same]
  modified k := by
    simp only [Roll.strike, Roll.inContext, Finset.mem_sdiff, Finset.mem_filter, depicts.opened,
      depicts.modified, entry?_clearContext, contains]
    by_cases same : k.context = context
    · simp +contextual [same]
    · simp [same]

/-! ### What both of them tell -/

theorem opened_eq (depicts : ledger.Depicts roll) : roll.opened = ledger.opened := by
  ext h
  rw [depicts.opened, depicts.tallied.mem_opened_iff]

theorem handles_eq (depicts : ledger.Depicts roll) : ledger.handles = roll.opened.sort := by
  refine depicts.tallied.sortedLT_handles.eq_of_mem_iff (Finset.sortedLT_sort _) fun h => ?_
  rw [Finset.mem_sort, depicts.opened, depicts.tallied.mem_handles_iff]

theorem names_eq (depicts : ledger.Depicts roll) (context : String) :
    ledger.names context = ((roll.inContext context).image Handle.name).sort := by
  refine (depicts.tallied.sortedLT_names context).eq_of_mem_iff (Finset.sortedLT_sort _) fun n => ?_
  rw [Finset.mem_sort, depicts.tallied.mem_names_iff, ← depicts.opened, Finset.mem_image]
  constructor
  · intro present
    exact ⟨_, Finset.mem_filter.mpr ⟨present, rfl⟩, rfl⟩
  · rintro ⟨⟨context', name⟩, member, rfl⟩
    obtain ⟨present, rfl⟩ := Finset.mem_filter.mp member
    exact present

theorem contexts_eq (depicts : ledger.Depicts roll) : ledger.contexts.toFinset = roll.contexts := by
  ext context
  rw [List.mem_toFinset, depicts.tallied.mem_contexts_iff, depicts.tallied.usesContext_iff,
    Roll.contexts, Finset.mem_image]
  simp only [← depicts.opened]
  constructor
  · rintro ⟨name, present⟩
    exact ⟨_, present, rfl⟩
  · rintro ⟨⟨context', name⟩, present, rfl⟩
    exact ⟨name, present⟩

theorem contextsInUse_eq (depicts : ledger.Depicts roll) :
    ledger.contextsInUse = roll.contexts.card := by
  rw [← length_contexts, ← depicts.contexts_eq,
    List.toFinset_card_of_nodup depicts.tallied.sortedLT_contexts.nodup]

theorem rows_eq (depicts : ledger.Depicts roll) :
    ledger.rows.map (fun row => (row.handle, row.modifiedAt.isSome)) = roll.listing := by
  rw [Roll.listing, ← depicts.handles_eq, handles_eq_rows, List.map_map]
  refine List.map_congr_left fun row listed => ?_
  have known := (depicts.tallied.mem_rows_iff row).mp listed
  refine Prod.ext rfl ?_
  rw [Function.comp_apply, Bool.eq_iff_iff, decide_eq_true_iff, depicts.modified, known]
  simp

/-- Whatever is asked, both give one answer and go on recording the same. -/
theorem respond (depicts : ledger.Depicts roll) (request : Request) :
    (ledger.respond request).1 = (roll.respond request).1 ∧
      (ledger.respond request).2.Depicts (roll.respond request).2 := by
  cases request with
  | add now h =>
    simp only [Ledger.respond, Roll.respond, depicts.opened]
    rcases add_cases now h ledger with ⟨present, refused⟩ | ⟨absent, next, added⟩
    · rw [refused, if_pos present]
      exact ⟨rfl, depicts⟩
    · rw [added, if_neg (by simp [absent])]
      exact ⟨rfl, depicts.add added absent⟩
  | remove h =>
    simp only [Ledger.respond, Roll.respond, depicts.opened]
    rcases remove_cases h ledger with ⟨absent, refused⟩ | ⟨present, next, removed⟩
    · rw [refused, if_neg (by simp [absent])]
      exact ⟨rfl, depicts⟩
    · rw [removed, if_pos present]
      exact ⟨rfl, depicts.remove removed⟩
  | mark now h =>
    simp only [Ledger.respond, Roll.respond]
    rcases mark_cases now h ledger with ⟨absent, refused⟩ | ⟨present, next, marked⟩
    · rw [refused, dif_neg (by simp [depicts.opened, absent])]
      exact ⟨rfl, depicts⟩
    · have member := (depicts.opened h).mpr present
      rw [marked, dif_pos member]
      exact ⟨rfl, depicts.mark marked member⟩
  | clearContext context =>
    exact ⟨congrArg _ (depicts.names_eq context), depicts.clearContext context⟩
  | clear => exact ⟨congrArg _ depicts.handles_eq, depicts_empty⟩
  | contains h =>
    refine ⟨congrArg Response.flag ?_, depicts⟩
    rw [Bool.eq_iff_iff, decide_eq_true_iff, depicts.opened]
  | usesContext context =>
    refine ⟨congrArg Response.flag ?_, depicts⟩
    rw [Bool.eq_iff_iff, decide_eq_true_iff, ← depicts.contexts_eq, List.mem_toFinset,
      depicts.tallied.mem_contexts_iff]
  | isEmpty =>
    refine ⟨congrArg Response.flag ?_, depicts⟩
    rw [Bool.eq_iff_iff, decide_eq_true_iff, depicts.opened_eq, depicts.tallied.isEmpty_iff]
  | count =>
    refine ⟨congrArg Response.number ?_, depicts⟩
    rw [depicts.opened_eq, depicts.tallied.card_opened]
  | contextsInUse => exact ⟨congrArg _ depicts.contextsInUse_eq, depicts⟩
  | rows => exact ⟨congrArg _ depicts.rows_eq, depicts⟩

theorem answers (depicts : ledger.Depicts roll) (requests : List Request) :
    Request.answers Ledger.respond requests ledger =
      Request.answers Roll.respond requests roll := by
  induction requests generalizing ledger roll with
  | nil => rfl
  | cons request rest ih =>
    obtain ⟨same, next⟩ := depicts.respond request
    simp only [Request.answers, same, ih next]

end Depicts

/-- A ledger answers every sequence of requests as a roll does, and every list that it hands out is
in strictly ascending order. -/
theorem answers_like_roll (requests : List Request) :
    Request.answers respond requests empty = Request.answers Roll.respond requests .empty ∧
      ∀ response ∈ Request.answers respond requests empty, response.Ascending := by
  have same := depicts_empty.answers requests
  rw [same]
  exact ⟨rfl, Roll.answers_ascending requests .empty⟩

end Ledger

end Quiescence
