/-!
# Reasons to stop
-/

namespace TraceAdapter

inductive StopReason where
  | entry
  | step
  | breakpoint
  | endOfTrace
  deriving DecidableEq, Repr

namespace StopReason

def name : StopReason -> String
  | entry => "entry"
  | step => "step"
  | breakpoint => "breakpoint"
  | endOfTrace => "end-of-trace"

def description? : StopReason -> Option String
  | endOfTrace => some "Reached the end of the trace"
  | _ => none

end StopReason

end TraceAdapter
