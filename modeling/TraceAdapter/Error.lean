import TraceAdapter.Host.Process
import TraceAdapter.Json.DecodeError
import TraceAdapter.Protocol.Framing

/-!
# Errors

Every way in which the adapter can fail, and the message shown for it.
-/

namespace TraceAdapter

inductive LaunchFault where
  | noDeployCommand
  | noTarget
  | badForkPort (port : Nat)
  deriving DecidableEq, Repr

def LaunchFault.message : LaunchFault -> String
  | noDeployCommand =>
      "contractFile requires a deploy command; set [deploy] command in the configuration"
  | noTarget => "Provide contractFile or contractAddress + ethdebugDir"
  | badForkPort port => s!"forkPort {port} is not a valid port"

inductive DeployFault where
  | notStarted (program : String) (cause : OsError)
  | exited (program : String) (cause : ExitFault) (complaint : String)
  | badOutput (cause : Json.DecodeError)
  | reported (text : String)
  deriving DecidableEq, Repr

def DeployFault.message : DeployFault -> String
  | notStarted program cause => s!"Failed to start {program}: {cause.message}"
  | exited program cause complaint =>
      s!"{program} exited with {cause.message}: {complaint}"
  | badOutput cause => s!"Unexpected deploy tool output: {cause.message}"
  | reported text => text

inductive BreakpointFault where
  | noSession
  | noSourceMap
  | noInstructions
  deriving DecidableEq, Repr

def BreakpointFault.message : BreakpointFault -> String
  | noSession => "no active debugging session"
  | noSourceMap => "no source mapping loaded"
  | noInstructions => "no instructions map here"

inductive Capability where
  | abi
  | snapshots
  deriving DecidableEq, Repr

def Capability.message : Capability -> String
  | abi => "Loading an ABI"
  | snapshots => "State snapshots"

inductive Error where
  | launchConfig (cause : LaunchFault)
  | configParse
  | fileRead (path : String) (cause : OsError)
  | simulation (text : String)
  | emptyTrace
  | deploy (cause : DeployFault)
  | backend (text : String)
  | unsupported (capability : Capability)
  | breakpointFailed (location : String) (cause : BreakpointFault)
  | stepOutOfRange (index length : Nat)
  | stackIndexOutOfRange (index : Int) (length : Nat)
  | invalidExpression (shown : String)
  | dapProtocol (cause : Protocol.Framing.FrameError)
  | unsupportedCommand (command : String)
  | invalidArguments (command : String) (cause : Json.DecodeError)
  | io (cause : OsError)
  | json (cause : Json.DecodeError)
  deriving DecidableEq, Repr

namespace Error

def message : Error -> String
  | launchConfig cause => cause.message
  | configParse => "Invalid configuration file: <toml error>"
  | fileRead path cause => s!"Failed to read file '{path}': {cause.message}"
  | simulation text => s!"Failed to generate execution trace: {text}"
  | emptyTrace =>
      "Simulation failed to generate trace - check function name and arguments"
  | deploy cause => s!"Contract deployment failed: {cause.message}"
  | backend text => text
  | unsupported capability =>
      s!"{capability.message} is not supported by this debugger backend"
  | breakpointFailed location cause =>
      s!"Failed to set breakpoint at {location}: {cause.message}"
  | stepOutOfRange index length =>
      s!"Step {index} is outside the trace (length {length})"
  | stackIndexOutOfRange index length =>
      s!"list index out of range: stack[{index}] with {length} entries"
  | invalidExpression shown =>
      s!"Invalid expression: invalid stack index '{shown}'"
  | dapProtocol cause => s!"DAP protocol error: {cause.message}"
  | unsupportedCommand command => s!"Unsupported command: {command}"
  | invalidArguments command cause =>
      s!"Invalid arguments for '{command}': {cause.message}"
  | io cause => s!"IO error: {cause.message}"
  | json cause => s!"JSON error: {cause.message}"

def ofFrameError : Protocol.Framing.FrameError -> Error
  | .headerText fault => .io (.lineNotText fault)
  | e => .dapProtocol e

end Error

end TraceAdapter
