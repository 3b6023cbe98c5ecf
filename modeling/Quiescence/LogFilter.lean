import Quiescence.LogFilter.Directive

/-! # Log filters

A log filter is a list of directives with commas between them; empty directives do not count. Only
whether a filter can be read matters here: logging is set up once, with the first filter that can,
and a filter from the environment goes before the one that is asked for.
-/

namespace Quiescence.LogFilter

/-- What is wrong with the first directive of a filter that cannot be read. -/
def fault? (text : String) : Option Fault :=
  (text.toList.splitOn ',').findSome? fun directive =>
    if directive.isEmpty then none else directiveFault? directive

/-- Whether the text is a filter. -/
def isFilter (text : String) : Bool := (fault? text).isNone

/-- Why there is no filter to log with, neither the one from the environment nor `level`. -/
def unusable? (environment : Option String) (level : String) : Option Fault :=
  if environment.any isFilter then none else fault? level

/-- Asks for logging with each level in turn, and says which request succeeded. Once logging is set
up, no other request does. -/
def install (environment : Option String) (installed : Bool) : List String → List Bool
  | [] => []
  | level :: rest =>
    let succeeds := !installed && (unusable? environment level).isNone
    succeeds :: install environment (installed || succeeds) rest

end Quiescence.LogFilter
