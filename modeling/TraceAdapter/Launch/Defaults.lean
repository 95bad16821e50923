import TraceAdapter.Json.Decoder

/-!
# Defaults of a launch
-/

namespace TraceAdapter

open Json

/-- What a launch uses where the client leaves something out. -/
structure LaunchDefaults where
  rpc : String := "http://localhost:8545"
  forkPort : Nat := 8545
  deriving DecidableEq, Repr

namespace LaunchDefaults

def schema : Schema LaunchDefaults :=
  LaunchDefaults.mk <$> .default "default_rpc" Decoder.text ({} : LaunchDefaults).rpc
    <*> .default "default_fork_port" Decoder.nat16 ({} : LaunchDefaults).forkPort

def decode : Decoder LaunchDefaults := schema.decode "LaunchDefaults"

end LaunchDefaults

end TraceAdapter
