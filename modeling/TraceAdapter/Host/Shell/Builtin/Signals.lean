import TraceAdapter.Host.Shell.Answer
import TraceAdapter.Host.Shell.Expansion

/-!
# Commands on processes

Signals are sent and heard, and jobs are waited for.
-/

namespace TraceAdapter
namespace Shell
namespace Builtin

def signals : List (Nat × String) :=
  [(1, "SIGHUP"), (2, "SIGINT"), (3, "SIGQUIT"), (4, "SIGILL"), (5, "SIGTRAP"),
    (6, "SIGABRT"), (7, "SIGBUS"), (8, "SIGFPE"), (9, "SIGKILL"), (10, "SIGUSR1"),
    (11, "SIGSEGV"), (12, "SIGUSR2"), (13, "SIGPIPE"), (14, "SIGALRM"),
    (15, "SIGTERM"), (16, "SIGSTKFLT"), (17, "SIGCHLD"), (18, "SIGCONT"),
    (19, "SIGSTOP"), (20, "SIGTSTP"), (21, "SIGTTIN"), (22, "SIGTTOU"),
    (23, "SIGURG"), (24, "SIGXCPU"), (25, "SIGXFSZ"), (26, "SIGVTALRM"),
    (27, "SIGPROF"), (28, "SIGWINCH"), (29, "SIGIO"), (30, "SIGPWR"), (31, "SIGSYS")]

def harmless : List String :=
  ["SIGCHLD", "SIGCONT", "SIGURG", "SIGWINCH", "SIGSTOP", "SIGTSTP", "SIGTTIN",
    "SIGTTOU"]

def signalTexts : List (String × String) :=
  [("SIGHUP", "Hangup"), ("SIGQUIT", "Quit"), ("SIGILL", "Illegal instruction"),
    ("SIGTRAP", "Trace/breakpoint trap"), ("SIGABRT", "Aborted"),
    ("SIGBUS", "Bus error"), ("SIGFPE", "Floating point exception"),
    ("SIGKILL", "Killed"), ("SIGUSR1", "User defined signal 1"),
    ("SIGSEGV", "Segmentation fault"), ("SIGUSR2", "User defined signal 2"),
    ("SIGALRM", "Alarm clock"), ("SIGTERM", "Terminated"), ("SIGSTKFLT", "Stack fault"),
    ("SIGXCPU", "CPU time limit exceeded"), ("SIGXFSZ", "File size limit exceeded"),
    ("SIGVTALRM", "Virtual timer expired"), ("SIGPROF", "Profiling timer expired"),
    ("SIGIO", "I/O possible"), ("SIGPWR", "Power failure"), ("SIGSYS", "Bad system call")]

def shortName (name : String) : List Char := name.toList.drop 3

def signal? (word : List Char) : Option (Nat × String) :=
  signals.find? fun s =>
    word = digits s.1 || word.map Char.toUpper = shortName s.2

/-- Take a signal: it ends the shell unless something else is to be done. -/
def receive (number : Nat) (name : String) (s : State) : State :=
  match if name = "SIGKILL" then none else s.traps.lookup name with
  | some [] => s
  | some action => { s with pending := s.pending ++ [action] }
  | none =>
      if harmless.contains name then s
      else { s with flow := .killed number name }

def killUsage : Action Unit :=
  refuse "kill" 2
    ("Usage: kill [-s sigspec | -signum | -sigspec] [pid | job]... or\n" ++
      "kill -l [exitstatus]").toList

def endJob (number : Nat) (name : String) (process : Nat) (s : State) : State :=
  { s with
    jobs := s.jobs.map fun j =>
      if j.process = process ∧ s.files.clock < j.ends then
        { j with status := 128 + number, ends := s.files.clock, signal? := some name }
      else j }

def process? (s : State) (word : List Char) : Option Nat :=
  match word with
  | '%' :: rest =>
      if rest.isEmpty ∨ rest = ['%'] ∨ rest = ['+'] then s.jobs.getLast?.map Job.process
      else
        match natural? rest with
        | some n => (s.jobs[n - 1]?).map Job.process
        | none => none
  | _ => natural? word

def send (signal? : Option (Nat × String)) : List (List Char) -> Action Unit
  | [] => return
  | target :: targets => do
      let s ← get
      match process? s target with
      | none =>
          if target.head? = some '%' then
            refuse "kill" 2 ("No such job: ".toList ++ target)
          else refuse "kill" 2 ("Illegal number: ".toList ++ target)
      | some process =>
          if digits process = processNumber ∨ process = 0 then
            if let some (number, name) := signal? then modify (receive number name)
          else if s.jobs.any fun j => j.process = process then
            if let some (number, name) := signal? then
              if ! harmless.contains name then modify (endJob number name process)
          else refuse "kill" 1 "No such process\n".toList
          send signal? targets

def kill (words : List (List Char)) : Action Unit := do
  let sent (signal? : Option (Nat × String)) (targets : List (List Char)) : Action Unit :=
    if targets.isEmpty then killUsage
    else do
      answer 0
      send signal? targets
  match words with
  | ['-', '0'] :: targets => sent none targets
  | ['-', 's'] :: ['0'] :: targets => sent none targets
  | [['-', 'l'], w] =>
      match (natural? w).bind fun n => signals.find? fun s => s.1 = n % 128 with
      | some s => print "kill" (shortName s.2 ++ ['\n'])
      | none => refuse "kill" 2 ("Illegal number: ".toList ++ w)
  | [['-', 'l']] => print "kill" (signals.flatMap fun s => shortName s.2 ++ ['\n'])
  | ['-', 's'] :: name :: targets =>
      match signal? name with
      | some s => sent (some s) targets
      | none =>
          refuse "kill" 2 ("invalid signal number or name: ".toList ++ name)
  | ('-' :: name) :: targets =>
      match signal? name with
      | some s => sent (some s) targets
      | none =>
          if name = ['-'] then sent (signal? "TERM".toList) targets
          else refuse "kill" 2 ("Illegal option -".toList ++ name.take 1)
  | targets => sent (signal? "TERM".toList) targets

/-!
## Traps
-/

def condition? (w : List Char) : Option String :=
  if w = ['0'] ∨ w.map Char.toUpper = "EXIT".toList then some "EXIT"
  else (signal? w).map Prod.snd

def keepAction (action? : Option (List Char)) (conditions : List (List Char)) :
    Action Unit := do
  answer 0
  for w in conditions do
    match condition? w with
    | none =>
        modify fun s => s.write 2 ("trap: ".toList ++ w ++ ": bad trap\n".toList)
        answer 1
    | some name =>
        modify fun s =>
          let others := s.traps.filter fun t => t.1 ≠ name
          { s with traps := (action?.toList.map fun action => (name, action)) ++ others }

def showActions : Action Unit := do
  let s ← get
  let names := "EXIT" :: signals.map Prod.snd
  print "trap" (names.flatMap fun name =>
    match s.traps.lookup name with
    | none => []
    | some action =>
        let shown := if name = "EXIT" then name.toList else shortName name
        "trap -- ".toList ++ quoted action ++ ' ' :: shown ++ ['\n'])

def trap : List (List Char) -> Action Unit
  | [] => showActions
  | ['-', '-'] :: words => trap words
  | [w] => keepAction none [w]
  | w :: ws =>
      if (natural? w).isSome then keepAction none (w :: ws)
      else keepAction (if w = ['-'] then none else some w) ws

/-!
## Jobs
-/

def announce (name : String) (s : State) : State :=
  match signalTexts.lookup name with
  | some text => s.write 2 (text.toList ++ ['\n'])
  | none => s

def waitUntil (time : Int) : Action Unit :=
  modify fun s => { s with files := { s.files with clock := max s.files.clock time } }

def wait (words : List (List Char)) : Action Unit := do
  answer 0
  if words.isEmpty then
    for j in (← get).jobs do waitUntil j.ends
    modify fun s => { s with jobs := [] }
  else
    for w in words do
      let s ← get
      match process? s w with
      | none =>
          if w.head? = some '%' then refuse "wait" 2 ("No such job: ".toList ++ w)
          else refuse "wait" 2 ("Illegal number: ".toList ++ w)
      | some process =>
          match s.jobs.find? fun j => j.process = process with
          | none => answer 127
          | some j =>
              waitUntil j.ends
              if let some name := j.signal? then modify (announce name)
              modify fun s =>
                { s with
                  jobs := s.jobs.map fun k =>
                    if k.process = process then { k with signal? := none } else k
                  status := j.status }

def resume (command : String) (words : List (List Char)) : Action Unit := do
  let s ← get
  match words with
  | [] =>
      refuse command 2
        (if s.jobs.isEmpty then "No current job" else
          "job (null) not created under job control").toList
  | w :: _ =>
      let known := (process? s w).any fun p => s.jobs.any fun j => j.process = p
      if known then
        refuse command 2 ("job ".toList ++ w ++ " not created under job control".toList)
      else refuse command 2 ("No such job: ".toList ++ w)

end Builtin
end Shell
end TraceAdapter
