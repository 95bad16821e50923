import TraceAdapter.Breakpoint.Store
import TraceAdapter.Debugger.Basic
import TraceAdapter.Session.Walk

/-!
# Sessions

A session is live from a launch on: it has a debugger, the trace, a place in
it and perhaps a current call.  Breakpoints are kept whether it is live or
not.
-/

namespace TraceAdapter

structure EntryPoint where
  step : Nat
  function? : Option Nat
  deriving DecidableEq, Repr

namespace Invocation

/-- Of two calls with their positions, the one entered later, and of two
entered together the one further on. -/
def later (best : Option (Invocation × Nat)) (f : Invocation × Nat) :
    Option (Invocation × Nat) :=
  match best with
  | none => some f
  | some b => if b.1.entryStep ≤ f.1.entryStep then some f else some b

def innermost? (functions : List Invocation) (index : Nat) : Option Nat :=
  ((functions.zipIdx.filter fun f => f.1.contains index).foldl later none).map
    Prod.snd

end Invocation

structure Session (σ : Type) where
  debugger? : Option σ := none
  trace? : Option (List Step) := none
  functions? : Option (List Invocation) := none
  index : Nat := 0
  function? : Option Nat := none
  breakpoints : Breakpoint.Store := {}

structure Live (σ : Type) where
  debugger : σ
  steps : List Step
  functions : Option (List Invocation)

namespace Session

variable {σ : Type}

def isLive (s : Session σ) : Bool := s.debugger?.isSome && s.trace?.isSome

def live? (s : Session σ) : Option (Live σ) :=
  match s.debugger?, s.trace? with
  | some debugger, some steps => some ⟨debugger, steps, s.functions?⟩
  | _, _ => none

def clear (s : Session σ) : Session σ where
  debugger? := none
  trace? := none
  functions? := none
  index := 0
  function? := none
  breakpoints := s.breakpoints.forgetFound

def install (s : Session σ) (debugger : σ) (simulation : Simulation)
    (entry : EntryPoint) : Except Error (Session σ) :=
  if entry.step < simulation.steps.length then
    .ok
      { s with
        debugger? := some debugger
        trace? := some simulation.steps
        functions? := simulation.functions
        index := entry.step
        function? := entry.function? }
  else .error (.stepOutOfRange entry.step simulation.steps.length)

def length (s : Session σ) : Nat := (s.trace?.map List.length).getD 0

def step? (s : Session σ) : Option Step := s.trace?.bind fun steps => steps[s.index]?

def currentFunction? (s : Session σ) : Option Invocation :=
  s.functions?.bind fun fs => s.function?.bind fun i => fs[i]?

/-- Move to a step.  The innermost call that contains it becomes the current
one; without such a call the current one stays. -/
def moveTo (s : Session σ) (index : Nat) : Except Error (Session σ) :=
  if index < s.length then
    let found := s.functions?.bind fun fs => Invocation.innermost? fs index
    .ok { s with index, function? := found.or s.function? }
  else .error (.stepOutOfRange index s.length)

def sourceMap? [Debugger σ] (s : Session σ) : Option SourceMap :=
  s.debugger?.bind Debugger.sourceMap?

def resolve [Debugger σ] (s : Session σ) (d : Breakpoint.Descriptor) :
    Except Error (List Nat) :=
  match s.live? with
  | none => .error (.breakpointFailed d.display .noSession)
  | some l => Debugger.resolve l.debugger d l.steps l.functions

end Session

end TraceAdapter
