import TraceAdapter.Breakpoint.Resolution
import TraceAdapter.Json.Value

/-!
# Debuggers

What the adapter needs of the machinery that runs a transaction and knows its
debug information.  A type of debuggers says how one is run and what it can
tell; optional abilities are refused unless a debugger has them.
-/

namespace TraceAdapter

/-- What running a transaction did: the bytes it printed, its result, and the
debugger afterwards. -/
structure Ran (σ : Type) where
  printed : List UInt8
  result : Except Error Simulation
  after : σ

/-- A type of debuggers, each bound to one deployed contract. -/
class Debugger (σ : Type) where
  run : σ -> Ran σ
  sourceMap? : σ -> Option SourceMap
  variables? : σ -> Option (Nat -> List VariableLocation)
  loadAbi : σ -> String -> Except Error σ := fun _ _ => .error (.unsupported .abi)
  snapshot : σ -> Except Error σ := fun _ => .error (.unsupported .snapshots)
  resolve : σ -> Breakpoint.Descriptor -> List Step -> Option (List Invocation) ->
      Except Error (List Nat) :=
    fun s => Breakpoint.resolve (sourceMap? s)

structure Target where
  contractAddress : String
  ethdebugDir : String
  rpcUrl : String
  functionName : String
  functionArgs : List Json.Value
  abiPath : Option String
  deriving Repr

namespace Target

def toJson (t : Target) : Json.Value :=
  .object
    [("contractAddress", .string t.contractAddress),
      ("ethdebugDir", .string t.ethdebugDir), ("rpcUrl", .string t.rpcUrl),
      ("function", .string t.functionName), ("args", .array t.functionArgs),
      ("abiPath", .orNull .string t.abiPath)]

end Target

end TraceAdapter
