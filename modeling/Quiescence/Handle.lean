/-! # Handles

A handle names one resource: the context that owns it, and its name inside that context. Both parts
are arbitrary strings, compared by code point without any normalisation, so the same name in two
contexts is two handles. Handles are ordered by context first and by name second; every list of
handles that the library returns is in this order.
-/

namespace Quiescence

/-- A resource, named by its owner and by its name there. -/
structure Handle where
  context : String
  name : String
deriving DecidableEq

namespace Handle

/-- Context first, name second. -/
instance : LT Handle where
  lt h k := h.context < k.context ∨ (h.context = k.context ∧ h.name < k.name)

/-- The order can be decided, since both parts can be compared. -/
instance (h k : Handle) : Decidable (h < k) :=
  inferInstanceAs (Decidable (h.context < k.context ∨ (h.context = k.context ∧ h.name < k.name)))

theorem lt_iff (h k : Handle) :
    h < k ↔ h.context < k.context ∨ (h.context = k.context ∧ h.name < k.name) := Iff.rfl

/-- Whether `h` may stand before `k` in a sorted list. -/
def notAfter (h k : Handle) : Bool := !decide (k < h)

/-- Where `h` stands relative to `k`. -/
def order (h k : Handle) : Ordering :=
  if h < k then .lt else if h = k then .eq else .gt

/-- Handles in ascending order. -/
def sort (hs : List Handle) : List Handle := hs.mergeSort notAfter

/-- The display text `context/name`. The slash is not escaped, so the text does not determine the
handle. -/
def text (h : Handle) : String := h.context ++ "/" ++ h.name

end Handle

end Quiescence
