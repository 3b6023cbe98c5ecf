import Quiescence.Handle

/-! # Faults

The four reasons for which an operation on a barrier fails. The first three are misuse by the caller
and will not go away by themselves; a timeout is worth another try.
-/

namespace Quiescence

/-- Why an operation on a barrier failed. -/
inductive Fault where
  /-- The handle was reported open while it was open already. -/
  | alreadyOpen (handle : Handle)
  /-- The handle was reported closed or modified while it was not open. -/
  | notOpen (handle : Handle)
  /-- Somebody else is waiting for the barrier. -/
  | waitActive
  /-- The wait ran out of time with this many resources open. -/
  | timedOut (stillOpen : Nat)
deriving DecidableEq

namespace Fault

/-- The wording of a fault. -/
def message : Fault → String
  | alreadyOpen h => "Resource already open: " ++ h.text
  | notOpen h => "Resource not open: " ++ h.text
  | waitActive => "A quiescence wait is already active on this barrier"
  | timedOut n =>
    "Timed out waiting for quiescence with " ++ toString n ++ " resource(s) still open"

/-- The caller broke the rules of the barrier. -/
def isCallerError : Fault → Bool
  | alreadyOpen _ | notOpen _ | waitActive => true
  | timedOut _ => false

/-- The same call may succeed later. -/
def isTransient : Fault → Bool
  | timedOut _ => true
  | alreadyOpen _ | notOpen _ | waitActive => false

end Fault

end Quiescence
