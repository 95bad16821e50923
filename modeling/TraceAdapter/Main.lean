import TraceAdapter.Program.Running

/-!
# The program

Reads messages as they arrive and answers each before it waits for the next.
All that is decided is decided elsewhere; here files and streams are read and
written.
-/

open TraceAdapter

namespace TraceAdapter
namespace Program

/-- Read a file, if there is one, into the known files, unless it is known
already. -/
def learnFile (files : Files) (path : String) : IO Files := do
  if files.contains path then return files
  try
    let bytes ← IO.FS.readBinFile path
    return files.add path (.file bytes.toList)
  catch _ => return files

def learnFiles (files : Files) (paths : List String) : IO Files :=
  paths.foldlM learnFile files

def sourcePaths (files : Files) (target : Target) : List String :=
  match files.readText (Path.join target.ethdebugDir Replay.traceFile) with
  | .error _ => []
  | .ok text =>
      match Json.read Recording.decode text with
      | .error _ => []
      | .ok recording =>
          recording.paths.flatMap fun p => Replay.candidates p target.ethdebugDir

def learnLaunch (files : Files) (s : Settings) (a : Protocol.LaunchArguments) :
    IO Files := do
  let files ← learnFiles files s.deploy.words
  match (Launch.findTarget (collaborators files s) a).target with
  | .error _ => return files
  | .ok target =>
      let trace := Path.join target.ethdebugDir Replay.traceFile
      let files ← learnFiles files (trace :: target.abiPath.toList)
      learnFiles files (sourcePaths files target)

def noFiles : IO Files := do
  let here ← IO.currentDir
  return { here := Files.place [] here.toString }

/-- Read the files that a request may need besides those that deployments have
left. -/
def learn (s : Settings) (left? : Option Files) (r : Protocol.Request) : IO Files := do
  let files := left?.getD (← noFiles)
  match Command.ofName? r.command with
  | some .launch =>
      match Adapter.arguments Protocol.LaunchArguments.decode {} r with
      | .ok a => learnLaunch files s a
      | .error _ => return files
  | _ => return files

structure Serving where
  settings : Settings
  conversation : Conversation Files Replay
  left? : Option Files := none
  waiting : List UInt8 := []

/-- Answer a request; whether the conversation goes on. -/
def answer (stdout : IO.FS.Stream) (v : Serving) (r : Protocol.Request) :
    IO (Serving × Bool) := do
  let files ← learn v.settings v.left? r
  let c := collaborators files v.settings
  let handled := Adapter.handle c v.conversation.session r
  let fresh :=
    { v.conversation with collaborators := c, messages := [], written := [], calls := [] }
  let (conversation, ended) := fresh.answer r handled
  stdout.write ⟨conversation.written.toArray⟩
  stdout.flush
  return ({ v with conversation, left? := handled.world?.or v.left? }, ! ended)

def wantsMore : Except Protocol.Framing.FrameError (Option (String × List UInt8)) ->
    Bool
  | .error .closedInHeaders => true
  | .error (.closedInBody _) => true
  | .ok none => true
  | _ => false

partial def serve (stdin stdout : IO.FS.Stream) (v : Serving) : IO Unit := do
  let next := Protocol.Framing.readMessage v.waiting
  if wantsMore next then
    let bytes ← stdin.read 65536
    if ! bytes.isEmpty then
      serve stdin stdout { v with waiting := v.waiting ++ bytes.toList }
  else
    match next with
    | .ok (some (body, rest)) =>
        let v := { v with waiting := rest }
        match Conversation.request? body with
        | none => serve stdin stdout v
        | some r =>
            let (v, goesOn) ← answer stdout v r
            if goesOn then serve stdin stdout v
    | _ => return ()

def environment : IO Environment := do
  let home ← IO.getEnv "HOME"
  let configHome ← IO.getEnv "XDG_CONFIG_HOME"
  let dataHome ← IO.getEnv "XDG_DATA_HOME"
  return { home := home.getD "", configHome, dataHome }

def makeLogFile (e : Environment) : IO Unit := do
  try
    IO.FS.createDirAll e.logDir
    let handle ← IO.FS.Handle.mk e.logPath .append
    handle.flush
  catch _ => return ()

def readSettings (e : Environment) (words : List String) :
    IO (Except Fault Settings) := do
  let files ← noFiles
  let named :=
    match Options.read words with
    | .ok options => options.settingsFile.toList
    | .error _ => []
  let files ← learnFiles files (e.configPath :: named)
  return settings files e words

end Program
end TraceAdapter

def main (words : List String) : IO UInt32 := do
  let e ← Program.environment
  match ← Program.readSettings e words with
  | .error fault =>
      IO.print fault.shown
      if let some line := fault.complaint? then IO.eprintln line
      return fault.status.toUInt32
  | .ok s =>
      if s.log.file then Program.makeLogFile e
      let conversation := { collaborators := Program.collaborators {} s }
      Program.serve (← IO.getStdin) (← IO.getStdout) { settings := s, conversation }
      return 0
