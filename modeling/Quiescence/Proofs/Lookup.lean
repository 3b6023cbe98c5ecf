import Mathlib.Algebra.GroupWithZero.Nat
import Mathlib.Data.List.Nodup

/-! # Looking up and striking keys of a list of pairs

Shelves, slots and the like are lists of pairs that are changed by striking a key and looked up by
key. While the keys differ, a key stands for exactly one pair; striking it takes that pair away and
leaves what every other key stands for.
-/

namespace List

variable {α β : Type*} [DecidableEq α]

theorem mem_of_lookup_eq_some {k : α} {v : β} {l : List (α × β)} (found : l.lookup k = some v) :
    (k, v) ∈ l := by
  obtain ⟨prior, rest, rfl, _⟩ := lookup_eq_some_iff.mp found
  simp

theorem lookup_eq_some_of_mem {k : α} {v : β} {l : List (α × β)} (keys : (l.map Prod.fst).Nodup)
    (member : (k, v) ∈ l) : l.lookup k = some v := by
  obtain ⟨prior, rest, rfl⟩ := append_of_mem member
  refine lookup_eq_some_iff.mpr ⟨prior, rest, rfl, ?_⟩
  intro pair early
  simp only [map_append, map_cons, nodup_append] at keys
  have differ := keys.2.2 pair.1 (mem_map.mpr ⟨pair, early, rfl⟩) k (by simp)
  simpa only [bne_iff_ne, ne_eq] using fun same => differ same.symm

/-- Striking a key leaves what the other keys stand for. -/
theorem lookup_filter_key (l : List (α × β)) (struck k : α) :
    (l.filter (·.1 != struck)).lookup k = if k = struck then none else l.lookup k := by
  induction l with
  | nil => simp
  | cons pair rest ih =>
    obtain ⟨key, value⟩ := pair
    by_cases same : key = struck
    · subst same
      rw [filter_cons_of_neg (by simp), ih, lookup_cons]
      by_cases asked : k = key
      · simp only [if_pos asked]
      · simp only [if_neg asked, beq_false_of_ne asked]
    · rw [filter_cons_of_pos (by simpa using same), lookup_cons, ih, lookup_cons]
      by_cases asked : k = key
      · subst asked
        simp only [if_neg same, BEq.rfl]
      · simp only [beq_false_of_ne asked]

/-- Changing values leaves every key in its place. -/
theorem lookup_map_value {γ : Type*} (f : α → β → γ) (l : List (α × β)) (k : α) :
    (l.map fun (key, value) => (key, f key value)).lookup k = (l.lookup k).map (f k) := by
  induction l with
  | nil => rfl
  | cons pair rest ih =>
    obtain ⟨key, value⟩ := pair
    simp only [map_cons, lookup_cons, ih]
    by_cases asked : k = key
    · subst asked
      simp only [BEq.rfl, Option.map_some]
    · simp only [beq_false_of_ne asked]

theorem lookup_eq_none_of_not_mem {k : α} {l : List (α × β)} (fresh : k ∉ l.map Prod.fst) :
    l.lookup k = none := by
  refine lookup_eq_none_iff.mpr fun pair member => ?_
  simpa only [bne_iff_ne, ne_eq] using fun same : k = pair.1 =>
    fresh (mem_map.mpr ⟨pair, member, same.symm⟩)

theorem filter_key_eq_self {l : List (α × β)} {struck : α} (absent : l.lookup struck = none) :
    l.filter (·.1 != struck) = l := by
  refine filter_eq_self.mpr fun pair member => ?_
  have differ := lookup_eq_none_iff.mp absent pair member
  simp only [bne_iff_ne, ne_eq] at differ ⊢
  exact Ne.symm differ

/-- Where a key is absent there is no value to replace. -/
theorem map_replace_key_eq_self {l : List (α × β)} {replaced : α}
    (absent : l.lookup replaced = none) (new : β) :
    l.map (fun (key, old) => (key, if key == replaced then new else old)) = l := by
  refine (map_congr_left fun pair member => ?_).trans (map_id l)
  have differ := lookup_eq_none_iff.mp absent pair member
  simp only [bne_iff_ne, ne_eq] at differ
  simp only [beq_false_of_ne (Ne.symm differ), Bool.false_eq_true, ↓reduceIte, id_eq]

theorem nodup_filter_key {l : List (α × β)} (keys : (l.map Prod.fst).Nodup) (struck : α) :
    ((l.filter (·.1 != struck)).map Prod.fst).Nodup :=
  keys.sublist (filter_sublist.map _)

theorem nodup_concat_key {l : List (α × β)} (keys : (l.map Prod.fst).Nodup) {fresh : α}
    (absent : l.lookup fresh = none) (value : β) :
    ((l ++ [(fresh, value)]).map Prod.fst).Nodup := by
  rw [map_append, nodup_append]
  refine ⟨keys, by simp, fun key member other new => ?_⟩
  obtain ⟨pair, present, rfl⟩ := mem_map.mp member
  have differ := lookup_eq_none_iff.mp absent pair present
  simp only [bne_iff_ne, ne_eq, map_cons, map_nil, mem_singleton] at differ new
  exact fun same => differ (new ▸ same).symm

/-- Striking a key takes the weight of its value from the sum of all weights. -/
theorem sum_filter_key (weight : β → Nat) {l : List (α × β)} (keys : (l.map Prod.fst).Nodup)
    (struck : α) :
    ((l.filter (·.1 != struck)).map (weight ·.2)).sum + ((l.lookup struck).map weight).getD 0 =
      (l.map (weight ·.2)).sum := by
  induction l with
  | nil => simp
  | cons pair rest ih =>
    obtain ⟨key, value⟩ := pair
    obtain ⟨fresh, others⟩ := nodup_cons.mp keys
    by_cases same : key = struck
    · subst same
      rw [filter_cons_of_neg (by simp), filter_key_eq_self (lookup_eq_none_of_not_mem fresh)]
      simp [Nat.add_comm]
    · rw [filter_cons_of_pos (by simpa using same), map_cons, sum_cons, map_cons, sum_cons,
        lookup_cons, beq_false_of_ne (Ne.symm same), Nat.add_assoc, ih others]

theorem length_filter_key {l : List (α × β)} (keys : (l.map Prod.fst).Nodup) {struck : α}
    (used : (l.lookup struck).isSome) : (l.filter (·.1 != struck)).length + 1 = l.length := by
  have struckOne := sum_filter_key (fun _ => 1) keys struck
  obtain ⟨value, found⟩ := Option.isSome_iff_exists.mp used
  simpa [found] using struckOne

/-- Replacing the value of a key changes the sum of all weights by the difference. -/
theorem sum_replace_key (weight : β → Nat) {l : List (α × β)} (keys : (l.map Prod.fst).Nodup)
    {replaced : α} (used : (l.lookup replaced).isSome) (new : β) :
    ((l.map fun (key, old) => (key, if key == replaced then new else old)).map (weight ·.2)).sum +
        ((l.lookup replaced).map weight).getD 0 =
      (l.map (weight ·.2)).sum + weight new := by
  induction l with
  | nil => simp at used
  | cons pair rest ih =>
    obtain ⟨key, value⟩ := pair
    obtain ⟨fresh, others⟩ := nodup_cons.mp keys
    by_cases same : key = replaced
    · subst same
      have untouched := map_replace_key_eq_self (lookup_eq_none_of_not_mem fresh) new
      rw [map_cons, untouched, lookup_cons_self]
      simp only [map_cons, sum_cons, BEq.rfl, ↓reduceIte, Option.map_some, Option.getD_some]
      omega
    · rw [lookup_cons, beq_false_of_ne (Ne.symm same)] at used ⊢
      have tail := ih others used
      simp only [map_cons, sum_cons, beq_false_of_ne same, Bool.false_eq_true, ↓reduceIte] at tail ⊢
      omega

end List
