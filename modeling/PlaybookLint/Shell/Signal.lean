import PlaybookLint.Shell.State

/-!
Signals by their names and numbers, and what is said of a process that one has ended.
-/

namespace PlaybookLint.Shell

/-- The names of the signals from the first on. -/
def signalNames : List String :=
  ["HUP", "INT", "QUIT", "ILL", "TRAP", "ABRT", "BUS", "FPE", "KILL", "USR1", "SEGV", "USR2", "PIPE",
    "ALRM", "TERM", "STKFLT", "CHLD", "CONT", "STOP", "TSTP", "TTIN", "TTOU", "URG", "XCPU", "XFSZ",
    "VTALRM", "PROF", "WINCH", "IO", "PWR", "SYS"]

/-- What the larger shell deals with like with a signal: the failure of a command, and a command or
the end of a function, at which nothing is done. -/
def failureEvent : Nat := 65

def commandEvent : Nat := 66

def returnEvent : Nat := 67

/-- Such events by their names. -/
def events : List (String × Nat) :=
  [("EXIT", 0), ("ERR", failureEvent), ("DEBUG", commandEvent), ("RETURN", returnEvent)]

/-- The name of a signal; the end of a script counts as one. -/
def signalName (number : Nat) : Octets :=
  match events.find? (·.2 == number) with
  | some (name, _) => name.toList
  | none =>
    match signalNames[number - 1]? with
    | some name => name.toList
    | none => numberText number

/-- The signal that a word names, by its number or its name in any case. -/
def signalOf? (dialect : Dialect) (s : Octets) : Option Nat :=
  let upper := s.map fun c => if 'a' ≤ c && c ≤ 'z' then Char.ofNat (c.toNat - 32) else c
  let bare := if dialect == .extended && "SIG".toList.isPrefixOf upper then upper.drop 3 else upper
  if !s.isEmpty && s.all isDigit then
    if digitsValue s < 65 then some (digitsValue s) else none
  else if bare == "EXIT".toList then some 0
  else
    match if dialect == .extended then events.lookup (String.ofList bare) else none with
    | some number => some number
    | none => (signalNames.findIdx? fun name => name.toList == bare).map (· + 1)

/-- Signals that do nothing unless asked to. -/
def isHarmless (signal : Nat) : Bool := [17, 18, 23, 28].contains signal

/-- Signals that stop a process. -/
def isStop (signal : Nat) : Bool := [19, 20, 21, 22].contains signal

/-- What is said of a process that a signal has ended. -/
def endText (signal : Nat) : String :=
  match signal with
  | 1 => "Hangup"
  | 2 | 13 => ""
  | 3 => "Quit"
  | 4 => "Illegal instruction"
  | 5 => "Trace/breakpoint trap"
  | 6 => "Aborted"
  | 7 => "Bus error"
  | 8 => "Floating point exception"
  | 9 => "Killed"
  | 10 => "User defined signal 1"
  | 11 => "Segmentation fault"
  | 12 => "User defined signal 2"
  | 14 => "Alarm clock"
  | 15 => "Terminated"
  | 16 => "Stack fault"
  | 24 => "CPU time limit exceeded"
  | 25 => "File size limit exceeded"
  | 26 => "Virtual timer expired"
  | 27 => "Profiling timer expired"
  | 29 => "I/O possible"
  | 30 => "Power failure"
  | 31 => "Bad system call"
  | n => s!"Unknown signal {n}"

end PlaybookLint.Shell
