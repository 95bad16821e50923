import TraceAdapter.Error
import TraceAdapter.Deploy.Tool
import TraceAdapter.Host.SocketAddress
import TraceAdapter.Launch.Defaults
import TraceAdapter.Settings.Directories
import TraceAdapter.Toml.Reading

/-!
# Settings

The settings of the program, read from a TOML file.  What the file leaves out
has a default, and what it says beyond the settings is passed over.
-/

namespace TraceAdapter

open Json (Schema Decoder)

structure DiagnosticsSettings where
  enabled : Bool := true
  address : SocketAddress := ⟨.four 127 0 0 1, 9000⟩
  startupWait : Nat := 0
  deriving DecidableEq, Repr

structure DeploySettings where
  command : Option String := none
  words : List String := []
  deriving DecidableEq, Repr

structure LogSettings where
  file : Bool := true
  deriving DecidableEq, Repr

structure Settings where
  diagnostics : DiagnosticsSettings := {}
  launch : LaunchDefaults := {}
  deploy : DeploySettings := {}
  log : LogSettings := {}
  deriving DecidableEq, Repr

def SocketAddress.decode : Decoder SocketAddress := fun o d =>
  match Decoder.text o d with
  | .error e => .error e
  | .ok s =>
      match SocketAddress.ofText? s with
      | some a => .ok a
      | none => .error (.invalidValue (.string s) "socket address")

def DiagnosticsSettings.schema : Schema DiagnosticsSettings :=
  DiagnosticsSettings.mk <$> .default "enabled" Decoder.bool true
    <*> .default "address" SocketAddress.decode ({} : DiagnosticsSettings).address
    <*> .default "startup_wait_ms" Decoder.nat64 0

def DeploySettings.schema : Schema DeploySettings :=
  DeploySettings.mk <$> .nullable "command" Decoder.text
    <*> .default "args" (Decoder.list Decoder.text) []

def LogSettings.schema : Schema LogSettings :=
  LogSettings.mk <$> .default "file" Decoder.bool true

namespace Settings

def schema : Schema Settings :=
  Settings.mk
    <$> .default "diagnostics"
        (DiagnosticsSettings.schema.decode "DiagnosticsSettings") {}
    <*> .default "launch" LaunchDefaults.decode {}
    <*> .default "deploy" (DeploySettings.schema.decode "DeploySettings") {}
    <*> .default "logging" (LogSettings.schema.decode "LogSettings") {}

def decode : Decoder Settings := schema.decode "Settings"

def ofText (text : String) : Except Error Settings :=
  match Toml.read? text with
  | none => .error .configParse
  | some d =>
      match decode .settings d with
      | .ok s => .ok s
      | .error _ => .error .configParse

def ofFile (files : Files) (path : String) : Except Error Settings :=
  match files.readText path with
  | .error e => .error (.fileRead path e)
  | .ok text => ofText text

/-- Read the settings of a user; without a file the defaults hold. -/
def ofUser (files : Files) (e : Environment) : Except Error Settings :=
  if files.contains e.configPath then ofFile files e.configPath else .ok {}

/-- The program that deploys contracts.  A bare name stands for none here. -/
def deployProgram? (s : Settings) : Option String :=
  s.deploy.command.filter fun c => 1 < (Path.components c).length

def deployTool? (s : Settings) : Option DeployTool :=
  s.deployProgram?.map fun program => ⟨program, s.deploy.words⟩

end Settings

end TraceAdapter
