/-! # Spans of time as text

A span is written in the largest fitting unit: whole milliseconds below one second, and seconds with
up to three decimals, without trailing zeros, from there on.
-/

namespace Quiescence.Text

/-- The decimals of a number of thousandths, without trailing zeros and with a point before them;
nothing for zero. -/
def decimals (thousandths : Nat) : String :=
  if thousandths = 0 then ""
  else if thousandths % 100 = 0 then "." ++ toString (thousandths / 100)
  else
    let tens := toString (thousandths / 10 / 10) ++ toString (thousandths / 10 % 10)
    if thousandths % 10 = 0 then "." ++ tens
    else "." ++ tens ++ toString (thousandths % 10)

/-- A span of so many milliseconds. -/
def span (ms : Nat) : String :=
  if ms = 0 then "0ns"
  else if ms < 1000 then toString ms ++ "ms"
  else toString (ms / 1000) ++ decimals (ms % 1000) ++ "s"

/-- A span that may be absent. -/
def spanOption : Option Nat → String
  | none => "None"
  | some ms => "Some(" ++ span ms ++ ")"

end Quiescence.Text
