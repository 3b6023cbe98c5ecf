import Quiescence.Coding

/-! # Summaries of replays

What is reported when a script has been replayed, as text and as JSON.
-/

namespace Quiescence

/-- The outcome of a replay. -/
structure Summary where
  events : Nat
  applied : Nat
  rejected : Nat
  /-- Nothing was open at the end. -/
  quiescent : Bool
  /-- The waiter gave up. -/
  timedOut : Bool
  /-- Something was open at the end, and the waiter would have waited for ever. -/
  stalled : Bool
  /-- How many handles were closed by force after the end. -/
  forceClosed : Nat
  /-- The handles that were open at the end, before any were closed by force. -/
  remaining : List Row
deriving DecidableEq

namespace Summary

/-- The word for how the replay ended. -/
def state (s : Summary) : String :=
  if s.quiescent then "quiescent"
  else if s.timedOut then "timed out"
  else if s.stalled then "stalled"
  else "not quiescent"

/-- The line of a handle that is still open. -/
def rowLine (time : Moment → String) (r : Row) : String :=
  "  " ++ r.handle.text ++ "  (opened " ++ time r.openedAt ++ ")\n"

/-- The summary as text, with times written by `time`. -/
def text (time : Moment → String) (s : Summary) : String :=
  "events: " ++ toString s.events ++ "  applied: " ++ toString s.applied ++ "  rejected: "
    ++ toString s.rejected ++ "\nstate: " ++ s.state ++ "\n"
    ++ (if s.remaining.isEmpty then ""
        else "still open:\n" ++ String.join (s.remaining.map (rowLine time)))
    ++ (if s.forceClosed = 0 then "" else "force-closed: " ++ toString s.forceClosed ++ "\n")

/-- The summary as a JSON value, with times written by `time`. -/
def toJson (time : Moment → String) (s : Summary) : Json.Value :=
  .obj [("events", .nat s.events), ("applied", .nat s.applied), ("rejected", .nat s.rejected),
    ("quiescent", .bool s.quiescent), ("timed_out", .bool s.timedOut),
    ("stalled", .bool s.stalled), ("force_closed", .nat s.forceClosed),
    ("remaining", .arr (s.remaining.map (Row.toJson time)))]

end Summary

end Quiescence
