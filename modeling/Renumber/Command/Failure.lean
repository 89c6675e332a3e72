import Renumber.Error

/-!
# Why a command fails

A failure says what could not be done, and the chain of its causes.
-/

namespace Renumber

/-! ## Algorithm -/

inductive Cause where
  | error (e : Error)
  | fault (f : IoFault)

structure Failure where
  context : String
  cause : Option Cause := none

/-- An error and what is behind it. -/
def Error.chain (e : Error) : List String :=
  e.message ::
    match e with
    | .stream fault | .unreadableFile _ fault => [fault.message]
    | .malformedSnapshot fault => [fault.message]
    | _ => []

def Cause.chain : Cause → List String
  | .error e => e.chain
  | .fault f => [f.message]

namespace Failure

def causes (f : Failure) : List String := (f.cause.map Cause.chain).getD []

/-- The causes one to a line, with numbers if there are several. -/
def causeLines : List String → List String
  | [] => []
  | [cause] => ["    " ++ cause]
  | causes => causes.zipIdx.map fun (cause, i) => s!"    {i}: {cause}"

def report (f : Failure) : String :=
  let lines := s!"Error: {f.context}" ::
    match causeLines f.causes with
    | [] => []
    | lines => ["", "Caused by:"] ++ lines
  String.join (lines.map (· ++ "\n"))

end Failure

end Renumber
