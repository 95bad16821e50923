import TraceAdapter.Launch.Addressing
import TraceAdapter.Launch.EntryPoint

/-!
# Launching

A launch finds its target, binds a debugger to it, loads the ABI and takes a
snapshot where it can, runs the transaction and picks the first stop.  Failing
to load the ABI or to take the snapshot does not fail the launch.
-/

namespace TraceAdapter
namespace Launch

open Protocol (LaunchArguments)

structure Launched (σ : Type) where
  debugger : σ
  simulation : Simulation
  entry : EntryPoint

/-- What a launch did: what it asked of its collaborators, the world that it left
if it changed it, what the run printed, and the result. -/
structure Outcome (ω σ : Type) where
  calls : List Call
  world? : Option ω := none
  printed : List UInt8 := []
  result : Except Error (Launched σ)

variable {ω σ : Type} [Debugger σ]

def withAbi (debugger : σ) : Option String -> σ
  | none => debugger
  | some path =>
      match Debugger.loadAbi debugger path with
      | .ok after => after
      | .error _ => debugger

def withSnapshot (debugger : σ) (wanted : Bool) : σ :=
  if wanted then
    match Debugger.snapshot debugger with
    | .ok after => after
    | .error _ => debugger
  else debugger

def simulationError : Error -> Error
  | .simulation text => .simulation text
  | e => .simulation e.message

def checkRun : Except Error Simulation -> Except Error Simulation
  | .error e => .error (simulationError e)
  | .ok simulation =>
      if simulation.steps.isEmpty then .error (simulationError .emptyTrace)
      else .ok simulation

def start (debugger : σ) (target : Target) (snapshot : Bool) :
    List UInt8 × Except Error (Launched σ) :=
  let ran := Debugger.run (withSnapshot (withAbi debugger target.abiPath) snapshot)
  let launched (simulation : Simulation) : Launched σ :=
    ⟨ran.after, simulation, EntryPoint.find simulation.functions target.functionName⟩
  (ran.printed, (checkRun ran.result).map launched)

def launch (c : Collaborators ω σ) (a : LaunchArguments) : Outcome ω σ :=
  let search := findTarget c a
  let world? := search.world?
  match search.target with
  | .error e => { calls := search.calls, world?, result := .error e }
  | .ok target =>
      let calls := search.calls ++ [.create target]
      match c.create (c.after world?).world target with
      | .error e => { calls, world?, result := .error e }
      | .ok debugger =>
          let (printed, result) := start debugger target (! a.noSnapshot)
          { calls, world?, printed, result }

end Launch
end TraceAdapter
