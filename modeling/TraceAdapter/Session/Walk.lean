import TraceAdapter.Debugger.SourceMap
import TraceAdapter.Session.Stop
import TraceAdapter.Trace.Basic

/-!
# Walking a trace

All movement is forward and ends at the last step.
-/

namespace TraceAdapter
namespace Walk

def lastIndex (steps : List Step) : Nat := steps.length - 1

def firstAfter? (steps : List Step) (start : Nat) (test : Step -> Bool) :
    Option Nat :=
  ((steps.drop (start + 1)).findIdx? test).map (start + 1 + ·)

/-- On to the first step whose program counter is one to stop at, else to the
last step. -/
def toBreakpoint (steps : List Step) (start : Nat) (stopsAt : Nat -> Bool) :
    Nat × StopReason :=
  match firstAfter? steps start (fun s => stopsAt s.pc) with
  | some index => (index, .breakpoint)
  | none => (lastIndex steps, .endOfTrace)

def instruction (steps : List Step) (start : Nat) : Nat :=
  min (start + 1) (lastIndex steps)

def lineOf? (map : Option SourceMap) (s : Step) : Option (String × Nat) :=
  map.bind fun m => m.line? s.pc

/-- On to the first step on another line.  Steps without a line are passed
over; from a step without a line this is one instruction. -/
def sourceLine (steps : List Step) (start : Nat) (map : Option SourceMap) : Nat :=
  match (steps[start]?).bind (lineOf? map) with
  | none => instruction steps start
  | some line =>
      match firstAfter? steps start (fun s => (lineOf? map s).any (· != line)) with
      | some index => index
      | none => lastIndex steps

end Walk
end TraceAdapter
