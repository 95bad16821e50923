import TraceAdapter.Deploy.CommandLine
import TraceAdapter.Error
import TraceAdapter.Host.Process
import TraceAdapter.Json.Reading

/-!
# Deploy tools

A deploy tool is a program that is run once for a request and reports the
deployment as JSON.
-/

namespace TraceAdapter

/-- A deploy tool: the program and the words that come before those of a
request. -/
structure DeployTool where
  program : String
  words : List String := []
  deriving DecidableEq, Repr

namespace DeployTool

def commandLine (t : DeployTool) (r : DeployRequest) : List String :=
  t.words ++ r.words

def report (t : DeployTool) (ended : Ended) : Except DeployFault Deployment :=
  match ended.fault? with
  | some fault =>
      .error (.exited t.program fault (Text.trim (Utf8.lossy ended.complaint)))
  | none => (Json.readBytes Deployment.decode ended.output).mapError .badOutput

/-- Deploy a contract among files.  The tool may leave other files than it found,
also when it fails. -/
def deployWith (run : Process.Starter) (t : DeployTool) (files : Files)
    (r : DeployRequest) : Except Error Deployment × Files :=
  match Process.start run files t.program (t.commandLine r) with
  | .error e => (.error (.deploy (.notStarted t.program e)), files)
  | .ok ended => ((t.report ended).mapError .deploy, ended.files)

end DeployTool

end TraceAdapter
