import TraceAdapter.Breakpoint.Descriptor
import TraceAdapter.Debugger.SourceMap
import TraceAdapter.Error
import TraceAdapter.Trace.Basic

/-!
# Finding the program counters of a breakpoint

A line goes through the source map.  A function name that is a number is the
program counter itself; any other name stands for the first instruction of
every call of that name.
-/

namespace TraceAdapter
namespace Breakpoint

/-- The first program counters of the calls of a name, as far as they lie in
the trace. -/
def entryPcs (name : String) (steps : List Step) (functions : List Invocation) :
    List Nat :=
  (functions.filter fun f => f.name == name).filterMap fun f =>
    (steps[f.entryStep]?).map Step.pc

def resolve (map : Option SourceMap) (d : Descriptor) (steps : List Step)
    (functions : Option (List Invocation)) : Except Error (List Nat) :=
  let found (pcs : List Nat) : Except Error (List Nat) :=
    if pcs.isEmpty then .error (.breakpointFailed d.display .noInstructions)
    else .ok pcs
  match d with
  | .line path n =>
      match map with
      | none => .error (.breakpointFailed d.display .noSourceMap)
      | some map => found (map.pcsOnLine path n)
  | .function name =>
      match rawPc? name with
      | some pc => .ok [pc]
      | none => found (entryPcs name steps (functions.getD []))

end Breakpoint
end TraceAdapter
