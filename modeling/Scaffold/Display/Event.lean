import Scaffold.Display.Duration
import Scaffold.Display.Printed
import Scaffold.Warned

/-!
What a run shows, in the order in which it happens: messages of several kinds, its progress, the
questions asked, warnings about templates and the output of commands.
-/
namespace Scaffold

inductive Severity where
  | message
  | note
  | success
  | skipped
  | warning
  | error
  deriving DecidableEq, Repr

/-- What is said at the end of a run. -/
structure Summary where
  run : Nat
  skipped : Nat
  duration : Duration
  deriving DecidableEq, Repr

def Summary.line (s : Summary) : String :=
  s!"{s.run} run · {s.skipped} skipped · {s.duration.text}"

inductive Event where
  | said (severity : Severity) (text : String)
  | phase (title : String) (description : Option String)
  | step (title : String) (description : Option String)
  | header (name : String) (version : Option String) (stepCount : Nat)
  | summary (s : Summary)
  | asked (key : String)
  | logged (w : Warning)
  | printed (p : Printed)
  deriving DecidableEq, Repr

abbrev Transcript := List Event

namespace Transcript

/-- The texts of one severity. -/
def said (t : Transcript) (severity : Severity) : List String :=
  t.filterMap fun
    | .said s text => if s = severity then some text else none
    | _ => none

def phases (t : Transcript) : List String :=
  t.filterMap fun
    | .phase title _ => some title
    | _ => none

def steps (t : Transcript) : List String :=
  t.filterMap fun
    | .step title _ => some title
    | _ => none

def headers (t : Transcript) : List String :=
  t.filterMap fun
    | .header name _ _ => some name
    | _ => none

def summaries (t : Transcript) : List Summary :=
  t.filterMap fun
    | .summary s => some s
    | _ => none

def asked (t : Transcript) : List String :=
  t.filterMap fun
    | .asked key => some key
    | _ => none

def warnings (t : Transcript) : List Warning :=
  t.filterMap fun
    | .logged w => some w
    | _ => none

end Transcript

end Scaffold
