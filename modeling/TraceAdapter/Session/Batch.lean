import TraceAdapter.Protocol.Body
import TraceAdapter.Session.Basic

/-!
# Batches of breakpoints

A client sends all breakpoints of a source at once.  While the session is live
they are looked up in the trace at once, and again after each launch.
-/

namespace TraceAdapter
namespace Session

open Breakpoint (Descriptor)

variable {σ : Type}

def descriptors (path : String) (b : Protocol.SourceBreakpoint) : List Descriptor :=
  (b.line.map (Descriptor.line path)).toList ++
    (b.functionName.map Descriptor.function).toList

def register [Debugger σ] (s : Session σ) (path : String) (d : Descriptor) :
    Except Error (Session σ) :=
  (s.resolve d).map fun pcs =>
    { s with breakpoints := s.breakpoints.register path pcs }

def tryRegister [Debugger σ] (s : Session σ) (path : String) (d : Descriptor) :
    Session σ :=
  match s.register path d with
  | .ok after => after
  | .error _ => s

def registerAll [Debugger σ] (s : Session σ) (path : String)
    (batch : List Descriptor) : Session σ :=
  batch.foldl (fun s d => s.tryRegister path d) s

def registerStored [Debugger σ] (s : Session σ) : Session σ :=
  s.breakpoints.paths.foldl
    (fun s path => s.registerAll path (s.breakpoints.requests path)) s

/-- The record of a breakpoint, with the fault that it met if it met one.
Before a launch nothing can be found, which is no reason to complain. -/
def verification (live : Bool) (d : Descriptor) (fault? : Option Error) :
    Protocol.Breakpoint :=
  let message := if live then fault?.map Error.message else none
  match d with
  | .line _ n => { verified := fault?.isNone, line := some n, message }
  | .function name =>
      { verified := fault?.isNone, functionName := some name, message }

/-- Look breakpoints of a path up one after the other, with a record of each. -/
def recordAll [Debugger σ] (s : Session σ) (path : String) :
    List Descriptor -> List Protocol.Breakpoint × Session σ
  | [] => ([], s)
  | d :: rest =>
      let outcome :=
        if s.isLive then s.register path d
        else .error (.breakpointFailed d.display .noSession)
      match outcome with
      | .ok after =>
          let later := after.recordAll path rest
          (verification s.isLive d none :: later.1, later.2)
      | .error e =>
          let later := s.recordAll path rest
          (verification s.isLive d (some e) :: later.1, later.2)

/-- Replace the breakpoints of a path, with a record of each. -/
def setBatch [Debugger σ] (s : Session σ) (path : String)
    (batch : List Descriptor) : List Protocol.Breakpoint × Session σ :=
  { s with breakpoints := s.breakpoints.replace path batch }.recordAll path batch

end Session
end TraceAdapter
