import TraceAdapter.Host.Shell.Alias
import TraceAdapter.Host.Shell.Builtin
import TraceAdapter.Host.Shell.Redirecting

/-!
# Parts of a shell

Scripts are run line by line.  A part that runs in a shell of its own changes
files and writes, but nothing else of what the outer shell knows.
-/

namespace TraceAdapter
namespace Shell

/-- How commands inside a command are run.  The flag says whether the status is
going to be tested, so that a failure does not end the shell. -/
abbrev Runner := Bool -> Command -> Action Unit

/-!
## Texts
-/

def State.refuseText (fault : GrammarFault) (s : State) : State :=
  { s with line := fault.line }.fail ("Syntax error: " ++ fault.text).toList

def showLines (lines : List (List Char)) : Action Unit :=
  modify fun s => if s.has 'v' then s.write 2 lines.flatten else s

def linesBefore (count : Nat) (left : List Located) (ts : List Located) : Nat :=
  match (Command.front left).token, (ts.take (ts.length - left.length)).getLast? with
  | .finish, _ => count
  | _, some t => t.line - 1
  | _, none => 0

/-- Run the lines of a text in turn, of which so many have been read.  The fuel bounds
their number. -/
def runLines (run : Runner) (tested : Bool) (text : Array (List Char)) :
    Nat -> Nat -> List Located -> Action Unit
  | 0, _, _ => return
  | fuel + 1, seen, ts => do
      let s ← get
      if s.goesOn then
        let upTo (n : Nat) : Action Unit := showLines (text.extract seen n).toList
        match (Command.front ts).token with
        | .finish => upTo text.size
        | _ =>
            match Alias.readLine s.aliases ts with
            | .error fault =>
                upTo fault.line
                modify (State.refuseText fault)
            | .ok (c, left) =>
                let next := linesBefore text.size left ts
                upTo next
                run tested c
                runLines run tested text fuel next left

def runText (run : Runner) (tested : Bool) (script : List Char) : Action Unit := do
  let ts := Token.scan 1 script
  runLines run tested #[] (ts.length + 1) 0 ts

def runFile (run : Runner) (tested : Bool) (script : List Char) : Action Unit := do
  let ts := Token.scan 1 script
  runLines run tested (Tool.pieces '\n' script).toArray (ts.length + 1) 0 ts

def runLast (run : Runner) : Action Unit := do
  let s ← get
  let killed :=
    match s.flow with
    | .killed _ _ => true
    | .ended (some (.signal _ _)) => true
    | _ => false
  match s.traps.lookup "EXIT" with
  | some (c :: cs) =>
      if ! killed then
        set { s with traps := [], flow := .onward }
        runText run false (c :: cs)
        modify fun t => if t.goesOn then { t with flow := s.flow, status := s.status } else t
  | _ => return

def runPending (run : Runner) : Action Unit := do
  let s ← get
  if s.goesOn ∧ ! s.pending.isEmpty then
    set { s with pending := [] }
    for action in s.pending do runText run false action
    modify fun t => if t.goesOn then { t with status := s.status } else t

/-!
## Parts of their own
-/

/-- What stays of a part that has run by itself: its files, what it read and
wrote, and the jobs that it ended. -/
def State.keep (before after : State) : State :=
  { before with
    files := { after.files with here := before.files.here }
    streams := after.streams
    handles := before.handles.map fun h => (after.handles.find? fun e => e.1 = h.1).getD h
    starved := after.starved
    expired := after.expired
    patience := after.patience
    jobs := before.jobs.map fun j =>
      (after.jobs.find? fun k => k.process = j.process).getD j
    pending := after.pending
    status := after.status }

def inProcess (act : Action Unit) : Action Unit := do
  let before ← get
  act
  modify fun after =>
    let kept := { before.keep after with pending := before.pending }
    match after.flow with
    | .killed number name => Builtin.announce name { kept with status := 128 + number }
    | .ended fault? =>
        let kept := { kept with status := State.statusOf fault? }
        match fault? with
        | some (.signal _ name) => Builtin.announce name kept
        | _ => kept
    | _ => kept

/-- Do something in a part of the shell with descriptors and variables of its own.
A signal to the shell ends all of it. -/
def inSubshell (run : Runner) (act : Action Unit) : Action Unit := do
  let before ← get
  set { before with traps := before.traps.filter fun t => t.1 ≠ "EXIT" }
  act
  runLast run
  modify fun after =>
    let kept := before.keep after
    match after.flow with
    | .killed number name => { kept with flow := .killed number name }
    | .ended fault? => { kept with status := State.statusOf fault? }
    | _ => kept

def capture (act : Action Unit) : Action (List Char) := do
  let s ← get
  let number := s.freshStream
  set ((s.setStream number {}).install 1 { target := .stream number, writes := true })
  act
  let t ← get
  set (State.undoRedirections s (t.dropStream number))
  return (t.stream number).text

def substitute (run : Runner) : Substitution := fun script line? => do
  match Command.ofInner script line? with
  | .error fault =>
      modify (State.refuseText fault)
      return []
  | .ok c =>
      let written ← capture (inSubshell run (run false c))
      modify fun s => { s with answer? := some s.status }
      let text := written.filter fun c => c ≠ Char.ofNat 0
      return (text.reverse.dropWhile (· = '\n')).reverse

/-!
## Pipelines
-/

/-- The room that writers in a pipeline are given at first, then each time that a
reader wanted more, and at last. -/
def pipeRoom : Nat := 65536

def roomFactor : Nat := 16

def pipeTries : Nat := 4

/-- Run the stages of a pipeline, each one reading what the one before wrote.  A
writer is stopped when there is no room left for what it writes. -/
def runStages (run : Runner) (tested : Bool) (room : Nat) : List Command -> Action Unit
  | [] => return
  | [c] => inSubshell run (run tested c)
  | c :: cs => do
      let s ← get
      let number := s.freshStream
      set ((s.setStream number { room? := some room }).install 1
        { target := .stream number, writes := true })
      inSubshell run (run tested c)
      let t ← get
      let written := t.stream number
      set (State.undoRedirections s (t.dropStream number))
      if t.goesOn then
        modify fun t => t.install 0
          { target := .text, reads := true, unread := written.text, cut := written.cut }
        runStages run tested room cs
        modify (State.undoRedirections s)

/-- Run a pipeline, giving its writers more room as long as a reader wanted
more. -/
def runPipeline (run : Runner) (tested : Bool) (stages : List Command) :
    Nat -> Nat -> Action Unit
  | 0, _ => return
  | tries + 1, room => do
      let before ← get
      set { before with starved := false, patience := room }
      runStages run tested room stages
      let after ← get
      if after.starved ∧ 0 < tries then
        set before
        runPipeline run tested stages tries (room * roomFactor)
      else
        set { after with
          starved := before.starved || after.starved, patience := before.patience }

end Shell
end TraceAdapter
