/-!
Signals: their names, what they do to a process that does not care, and what is told when they end it.
-/

namespace Stepwise.Shell

/-- What a signal does to a process that does not care for it. -/
inductive SignalEffect
  | ends (told : String)
  | halts
  | nothing
  deriving DecidableEq, Repr

/-- A signal. -/
structure Signal where
  number : Nat
  name : String
  effect : SignalEffect
  deriving DecidableEq, Repr

namespace Signal

/-- The signals in order of their numbers. -/
def all : List Signal :=
  [⟨1, "HUP", .ends "Hangup"⟩, ⟨2, "INT", .ends ""⟩, ⟨3, "QUIT", .ends "Quit"⟩,
    ⟨4, "ILL", .ends "Illegal instruction"⟩, ⟨5, "TRAP", .ends "Trace/breakpoint trap"⟩,
    ⟨6, "ABRT", .ends "Aborted"⟩, ⟨7, "BUS", .ends "Bus error"⟩,
    ⟨8, "FPE", .ends "Floating point exception"⟩, ⟨9, "KILL", .ends "Killed"⟩,
    ⟨10, "USR1", .ends "User defined signal 1"⟩, ⟨11, "SEGV", .ends "Segmentation fault"⟩,
    ⟨12, "USR2", .ends "User defined signal 2"⟩, ⟨13, "PIPE", .ends ""⟩,
    ⟨14, "ALRM", .ends "Alarm clock"⟩, ⟨15, "TERM", .ends "Terminated"⟩,
    ⟨16, "16", .ends "Stack fault"⟩, ⟨17, "CHLD", .nothing⟩, ⟨18, "CONT", .nothing⟩,
    ⟨19, "STOP", .halts⟩, ⟨20, "TSTP", .halts⟩, ⟨21, "TTIN", .halts⟩, ⟨22, "TTOU", .halts⟩,
    ⟨23, "URG", .nothing⟩, ⟨24, "XCPU", .ends "CPU time limit exceeded"⟩,
    ⟨25, "XFSZ", .ends "File size limit exceeded"⟩, ⟨26, "VTALRM", .ends "Virtual timer expired"⟩,
    ⟨27, "PROF", .ends "Profiling timer expired"⟩, ⟨28, "WINCH", .nothing⟩,
    ⟨29, "IO", .ends "I/O possible"⟩, ⟨30, "PWR", .ends "Power failure"⟩,
    ⟨31, "SYS", .ends "Bad system call"⟩]

/-- The signal with a number. -/
def ofNumber? (n : Nat) : Option Signal := all.find? (·.number == n)

/-- The number of a signal, given as it is or by its name in any case; zero is none. -/
def numberOf? (s : String) : Option Nat :=
  match s.toNat? with
  | some n => if n ≤ 64 then some n else none
  | none =>
    let upper := s.toUpper
    let bare := if "SIG".toList.isPrefixOf upper.toList then String.ofList (upper.toList.drop 3) else upper
    if bare = "EXIT" then some 0 else (all.find? (·.name == bare)).map (·.number)

/-- What is told when a signal has ended a process. -/
def told (n : Nat) : String :=
  match (ofNumber? n).map (·.effect) with
  | some (SignalEffect.ends s) => s
  | _ => ""

end Signal

end Stepwise.Shell
