/-!
Signals by their numbers and names.
-/
namespace Scaffold.Shell.Signal

/-- The names in the order of the numbers, from one on; some have only their number. -/
def names : List String :=
  ["HUP", "INT", "QUIT", "ILL", "TRAP", "ABRT", "BUS", "FPE", "KILL", "USR1", "SEGV", "USR2", "PIPE",
    "ALRM", "TERM", "16", "CHLD", "CONT", "STOP", "TSTP", "TTIN", "TTOU", "URG", "XCPU", "XFSZ",
    "VTALRM", "PROF", "WINCH", "IO", "PWR", "SYS", "32", "33"] ++
    (List.range 16).map (fun n => if n = 0 then "RTMIN" else s!"RTMIN+{n}") ++
    (List.range 15).map fun n => if n = 14 then "RTMAX" else s!"RTMAX-{14 - n}"

def descriptions : List String :=
  ["Hangup", "Interrupt", "Quit", "Illegal instruction", "Trace/breakpoint trap", "Aborted",
    "Bus error", "Floating point exception", "Killed", "User defined signal 1", "Segmentation fault",
    "User defined signal 2", "Broken pipe", "Alarm clock", "Terminated", "Stack fault", "Child exited",
    "Continued", "Stopped (signal)", "Stopped", "Stopped (tty input)", "Stopped (tty output)",
    "Urgent I/O condition", "CPU time limit exceeded", "File size limit exceeded",
    "Virtual timer expired", "Profiling timer expired", "Window changed", "I/O possible",
    "Power failure", "Bad system call"]

/-- The number that stands for the end of a shell. -/
def finish : Nat := 0
def interrupt : Nat := 2
def kill : Nat := 9
def pipe : Nat := 13
def terminate : Nat := 15
def segmentation : Nat := 11

def name (n : Nat) : String :=
  if n = finish then "EXIT" else (names[n - 1]?).getD (toString n)

def description (n : Nat) : String := (descriptions[n - 1]?).getD s!"Signal {n}"

def isHarmless (n : Nat) : Bool := [17, 18, 23, 28].contains n

def isQuiet (n : Nat) : Bool := n = interrupt || n = pipe

def ofText? (text : String) : Option Nat :=
  match text.toNat? with
  | some n => if n < 65 then some n else none
  | none =>
    let upper := String.ofList (text.toList.map Char.toUpper)
    if upper = "EXIT" then some finish else (names.idxOf? upper).map (· + 1)

end Scaffold.Shell.Signal
