import TraceAdapter.Debugger.Basic
import TraceAdapter.Evm.ContractAbi
import TraceAdapter.Host.Files
import TraceAdapter.Json.Reading
import TraceAdapter.Recording.Basic
import TraceAdapter.Recording.SourceText
import TraceAdapter.Session.Summary

/-!
# Replaying a recording

A replay is a debugger whose transaction was run before: it hands out the
recorded steps once and answers questions about the source from the recording
and from the source files found beside it.
-/

namespace TraceAdapter

/-- A recording bound to a target: the lines of the sources that were found, the steps until
they are handed out, and the functions of the interface once it is loaded. -/
structure Replay where
  target : Target
  tracePath : String
  recording : Recording
  files : Files
  texts : List (String × SourceText)
  steps : Option (List Step)
  abiFunctions : Option (List String)

namespace Replay

def traceFile : String := "trace.json"

def searchDepth : Nat := 2

def directories : Nat -> String -> List String
  | 0, dir => [dir]
  | n + 1, dir =>
      dir :: match Path.parent? dir with
        | some above => directories n above
        | none => []

/-- The places where the file of a source may be: the path itself, then in each
directory the path and the bare file name. -/
def candidates (path dir : String) : List String :=
  path :: match Path.fileName? path with
    | none => []
    | some name =>
        (directories searchDepth dir).flatMap fun d => [Path.join d path, Path.join d name]

/-- The bytes of a source, when its file is found and is text. -/
def sourceBytes? (files : Files) (dir path : String) : Option (List UInt8) :=
  match (candidates path dir).find? files.isFile with
  | none => none
  | some file =>
      match files.readText file with
      | .ok s => some (Utf8.encode s)
      | .error _ => none

/-- The lines of a source, when its file is found and is text. -/
def sourceText? (files : Files) (dir path : String) : Option SourceText :=
  (sourceBytes? files dir path).map SourceText.ofBytes

def ofFiles (files : Files) (target : Target) : Except Error Replay :=
  let tracePath := Path.join target.ethdebugDir traceFile
  match files.readText tracePath with
  | .error e => .error (.fileRead tracePath e)
  | .ok content =>
      match Json.read Recording.decode content with
      | .error e => .error (.backend s!"Invalid trace file {tracePath}: {e.message}")
      | .ok recording =>
          let texts := recording.paths.filterMap fun path =>
            (sourceText? files target.ethdebugDir path).map fun t => (path, t)
          .ok
            { target, tracePath, recording, files, texts
              steps := some recording.steps, abiFunctions := none }

/-!
## Questions about the source
-/

def text? (r : Replay) (path : String) : Option SourceText :=
  (r.texts.find? fun t => t.1 == path).map Prod.snd

def place? (r : Replay) (pc : Nat) : Option SourceOffset :=
  (r.recording.places.find? fun p => p.1 == pc).map Prod.snd

def lineColumn? (r : Replay) (path : String) (offset : Nat) : Option (Nat × Nat) :=
  (r.text? path).bind fun t => t.lineColumn? offset

/-- The program counters on a line of a requested path, in increasing order. -/
def pcsOnLine (r : Replay) (path : String) (line : Nat) : List Nat :=
  let sources := Recording.matchingPaths r.recording.paths path
  (r.recording.places.filter fun p =>
    sources.contains p.2.path &&
      (r.lineColumn? p.2.path p.2.offset).any (·.1 = line)).map Prod.fst

/-- The source map; a recording without places has none. -/
def sourceMap? (r : Replay) : Option SourceMap :=
  if r.recording.places.isEmpty then none
  else
    some { place? := r.place?, lineColumn? := r.lineColumn?, pcsOnLine := r.pcsOnLine }

/-- The variables that live at a program counter, in the recorded order. -/
def variablesAt (r : Replay) (pc : Nat) : List VariableLocation :=
  (r.recording.locals.filter (·.livesAt pc)).map (·.toLocation)

/-- The variables; a recording without any knows none. -/
def variables? (r : Replay) : Option (Nat -> List VariableLocation) :=
  if r.recording.locals.isEmpty then none else some r.variablesAt

/-!
## Running and loading
-/

def foreignAddress? (r : Replay) : Option String :=
  r.recording.contractAddress.filter fun a =>
    ! Text.sameIgnoringCase a r.target.contractAddress

/-- The line printed when the ABI does not know the target function. -/
def warning (r : Replay) : String :=
  match r.abiFunctions with
  | none => ""
  | some known =>
      let name := Text.before '(' r.target.functionName
      if ! name.isEmpty && ! known.contains name then
        s!"Warning: function '{name}' not found in ABI\n"
      else ""

def report (r : Replay) (steps : List Step) : String :=
  (match r.recording.contractName with
    | some name => s!"Contract: {name}\n"
    | none => "") ++
    s!"Loaded {steps.length} steps from {r.tracePath}\n"

def run (r : Replay) : Ran Replay :=
  match r.foreignAddress? with
  | some recorded =>
      ⟨[], .error (.simulation
        s!"{r.tracePath} was recorded for {recorded}, not {r.target.contractAddress}"), r⟩
  | none =>
      match r.steps with
      | none =>
          ⟨Utf8.encode r.warning,
            .error (.simulation "trace has already been replayed"), r⟩
      | some steps =>
          ⟨Utf8.encode (r.warning ++ r.report steps),
            .ok ⟨steps, r.recording.functions⟩, { r with steps := none }⟩

def loadAbi (r : Replay) (path : String) : Except Error Replay :=
  match r.files.readText path with
  | .error e => .error (.fileRead path e)
  | .ok content =>
      match Json.parse content with
      | .error e => .error (.json e)
      | .ok v =>
          match Evm.ContractAbi.functionNames? v with
          | none => .error (.json (.noVariant "AbiItem"))
          | some names => .ok { r with abiFunctions := some names }

def summary (r : Replay) : String :=
  let sources := r.recording.sources.map fun s =>
    Numeral.decimal s.1 ++ ": " ++ Text.quote s.2
  "RecordedBackend \x7b trace_path: " ++ Text.quote r.tracePath ++ ", sources: " ++
    Text.setText sources ++ ", .. \x7d"

instance : Debugger Replay where
  run := Replay.run
  sourceMap? := Replay.sourceMap?
  variables? := Replay.variables?
  loadAbi := Replay.loadAbi

end Replay

end TraceAdapter
