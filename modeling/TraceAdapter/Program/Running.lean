import TraceAdapter.Adapter.Conversation
import TraceAdapter.Host.Shell.Running
import TraceAdapter.Program.Options
import TraceAdapter.Recording.Replay

/-!
# Running the program

The program reads its options and settings and then serves one client on its
input, with recorded transactions to debug.  Deploy tools run among the programs
of the machine.
-/

namespace TraceAdapter

def DeployTool.deploy (t : DeployTool) (files : Files) (r : DeployRequest) :
    Except Error Deployment × Files :=
  t.deployWith Shell.start files r

namespace Program

inductive Fault where
  | refused (r : Refusal)
  | failed (e : Error)
  deriving DecidableEq, Repr

def settings (files : Files) (e : Environment) (words : List String) :
    Except Fault Settings :=
  match Options.read words with
  | .error r => .error (.refused r)
  | .ok options =>
      let read :=
        match options.settingsFile with
        | some path => Settings.ofFile files path
        | none => Settings.ofUser files e
      match read with
      | .error e => .error (.failed e)
      | .ok s => .ok (options.apply s)

def collaborators (files : Files) (s : Settings) :
    Launch.Collaborators Files Replay where
  world := files
  create := Replay.ofFiles
  deploy? := s.deployTool?.map DeployTool.deploy
  defaults := s.launch

structure Outcome where
  result : Except Fault (List Protocol.Message)
  logFile : Bool

def run (files : Files) (e : Environment) (words : List String)
    (input : List UInt8) : Outcome :=
  let kept := files.isFile e.logPath
  match settings files e words with
  | .error fault => { result := .error fault, logFile := kept }
  | .ok s =>
      { result := .ok (Conversation.serve (collaborators files s) input).messages
        logFile := kept || (s.log.file && files.canHold e.logPath) }

def Fault.status : Fault -> Nat
  | refused .misuse => 2
  | refused _ => 0
  | failed _ => 1

def Fault.shown : Fault -> String
  | refused .help => helpText
  | refused .version => versionText
  | _ => ""

def Fault.complaint? : Fault -> Option String
  | refused _ => none
  | failed e => some ("Error: " ++ e.message)

end Program
end TraceAdapter
