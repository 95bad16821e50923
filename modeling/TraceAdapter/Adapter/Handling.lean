import TraceAdapter.Adapter.Command
import TraceAdapter.Adapter.Reply
import TraceAdapter.Json.Reading
import TraceAdapter.Launch.Basic
import TraceAdapter.Protocol.Arguments
import TraceAdapter.Protocol.Message
import TraceAdapter.Session.Batch
import TraceAdapter.Session.Expression

/-!
# Handling requests

Each command has one handler, a function of the session and the arguments.
Only launches call collaborators and print.
-/

namespace TraceAdapter

/-- What handling a request did; the world is given where it was changed. -/
structure Handled (ω σ : Type) where
  result : Except Error Reply
  session : Session σ
  world? : Option ω := none
  printed : List UInt8 := []
  calls : List Launch.Call := []

namespace Adapter

open Protocol
open Json (Decoder)

variable {ω σ : Type}

/-- The arguments of a request; absent ones stand for the defaults. -/
def arguments {α : Type} (decoder : Decoder α) (absent : α) (r : Request) :
    Except Error α :=
  match r.arguments with
  | none => .ok absent
  | some .null => .ok absent
  | some v =>
      match Json.ofValue decoder v with
      | .ok a => .ok a
      | .error e => .error (.invalidArguments r.command e)

/-- Handle a request that only looks. -/
def observe (s : Session σ) (result : Except Error Reply) : Handled ω σ where
  result := result
  session := s

/-- Handle a request with arguments; without good ones nothing is done. -/
def withArguments {α : Type} (decoder : Decoder α) (absent : α) (s : Session σ)
    (r : Request) (handler : α -> Handled ω σ) : Handled ω σ :=
  match arguments decoder absent r with
  | .error e => observe s (.error e)
  | .ok a => handler a

/-!
## Launching and breakpoints
-/

/-- Launch anew.  The session is cleared first, so a launch that fails leaves
none behind. -/
def launch [Debugger σ] (c : Launch.Collaborators ω σ) (s : Session σ)
    (a : LaunchArguments) : Handled ω σ :=
  let cleared := s.clear
  let outcome := Launch.launch c a
  let done (result : Except Error Reply) (session : Session σ) : Handled ω σ :=
    { result, session, world? := outcome.world?, printed := outcome.printed
      calls := outcome.calls }
  match outcome.result with
  | .error e => done (.error e) cleared
  | .ok launched =>
      match cleared.install launched.debugger launched.simulation launched.entry with
      | .error e => done (.error e) cleared
      | .ok session => done (.ok .launched) session.registerStored

def setBreakpoints [Debugger σ] (s : Session σ) (a : SetBreakpointsArguments) :
    Handled ω σ :=
  let path := a.source.path.getD ""
  let set := s.setBatch path (a.breakpoints.flatMap (Session.descriptors path))
  { result := .ok (.breakpoints set.1), session := set.2 }

/-!
## Moving
-/

def moveAndReply (s : Session σ) (index : Nat) (reply : Reply) : Handled ω σ :=
  match s.moveTo index with
  | .error e => observe s (.error e)
  | .ok session => { result := .ok reply, session }

def resume (s : Session σ) : Handled ω σ :=
  match s.trace? with
  | none => observe s (.ok (.resumed .breakpoint))
  | some steps =>
      let stop := Walk.toBreakpoint steps s.index s.breakpoints.stopsAt
      moveAndReply s stop.1 (.resumed stop.2)

/-- Step on to where a function of the trace and the place in it says. -/
def step (s : Session σ) (target : List Step -> Nat -> Nat) : Handled ω σ :=
  match s.trace? with
  | none => observe s (.ok .stepped)
  | some steps => moveAndReply s (target steps s.index) .stepped

def stepLine [Debugger σ] (s : Session σ) : Handled ω σ :=
  step s fun steps index => Walk.sourceLine steps index s.sourceMap?

/-!
## All commands
-/

def handleCommand [Debugger σ] (c : Launch.Collaborators ω σ) (s : Session σ)
    (r : Request) : Command -> Handled ω σ
  | .greet => observe s (.ok .greeting)
  | .launch => withArguments LaunchArguments.decode {} s r (launch c s)
  | .setBreakpoints =>
      withArguments SetBreakpointsArguments.decode {} s r (setBreakpoints s)
  | .configurationDone => observe s (.ok {})
  | .threads => observe s (.ok .threads)
  | .resume => withArguments ContinueArguments.decode {} s r fun _ => resume s
  | .next => stepLine s
  | .stepOut => stepLine s
  | .stepIn => step s Walk.instruction
  | .stackTrace =>
      withArguments StackTraceArguments.decode {} s r fun _ =>
        observe s (.ok (.frames s.frames))
  | .scopes => observe s (.ok (.scopes Session.scopes))
  | .listVariables =>
      withArguments VariablesArguments.decode {} s r fun a =>
        observe s (.ok (.variableList (s.variablesBehind a.variablesReference)))
  | .evaluate =>
      withArguments EvaluateArguments.decode {} s r fun a =>
        observe s ((s.evaluate a.expression).map .value)
  | .disconnect => observe s (.ok .farewell)
  | .terminate => observe s (.ok .farewell)

def handle [Debugger σ] (c : Launch.Collaborators ω σ) (s : Session σ)
    (r : Request) : Handled ω σ :=
  match Command.ofName? r.command with
  | none => observe s (.error (.unsupportedCommand r.command))
  | some command => handleCommand c s r command

/-- Handle requests in turn, whatever becomes of them.  Each finds the world that
the ones before it have left. -/
def handleAll [Debugger σ] (c : Launch.Collaborators ω σ) (s : Session σ) :
    List Request -> List (Handled ω σ)
  | [] => []
  | r :: rest =>
      let handled := handle c s r
      handled :: handleAll (c.after handled.world?) handled.session rest

def sessionAfter [Debugger σ] (c : Launch.Collaborators ω σ) (s : Session σ)
    (requests : List Request) : Session σ :=
  ((handleAll c s requests).getLast?.map Handled.session).getD s

theorem sessionAfter_cons [Debugger σ] (c : Launch.Collaborators ω σ)
    (s : Session σ) (r : Request) (rest : List Request) :
    sessionAfter c s (r :: rest) =
      sessionAfter (c.after (handle c s r).world?) (handle c s r).session rest := by
  unfold sessionAfter
  rw [handleAll, List.getLast?_cons]
  cases (handleAll (c.after (handle c s r).world?) (handle c s r).session
      rest).getLast? with
  | none => rfl
  | some last => rfl

end Adapter

end TraceAdapter
