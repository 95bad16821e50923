import TraceAdapter.Debugger.SourceMap
import TraceAdapter.Host.Path
import TraceAdapter.Json.Scanner
import TraceAdapter.Trace.Json

/-!
# Recordings

A recording is a JSON file with the trace of one transaction and what is known
of its source: the source files by number, the place of each instruction and
the places of the variables.
-/

namespace TraceAdapter
namespace Recording

open Json

structure Mapping where
  pc : Nat
  sourceId : Nat
  offset : Nat
  deriving DecidableEq, Repr

namespace Mapping

def schema : Schema Mapping :=
  Mapping.mk <$> .required "pc" Decoder.nat64
    <*> .required "sourceId" Decoder.nat32
    <*> .required "offset" Decoder.size

def decode : Decoder Mapping := schema.decode "InstructionMapping"

end Mapping

structure Variable where
  name : String
  typeName : String
  location : Storage
  offset : Nat
  pcRange : Nat × Nat
  deriving DecidableEq, Repr

namespace Variable

def rangeDecoder : Decoder (Nat × Nat) := fun o d =>
  let expected := "a tuple of size 2"
  match d with
  | .array items closed =>
      match o.enter with
      | none => .error .malformed
      | some inner =>
          match Decoder.items Decoder.nat64 inner (items.take 2) with
          | .error e => .error e
          | .ok [low, high] =>
              if items.length = 2 ∧ closed then .ok (low, high)
              else .error .malformed
          | .ok ends =>
              .error (if closed then .invalidLength ends.length expected
                else .malformed)
  | _ => .error (mismatch expected d)

def schema : Schema Variable :=
  Variable.mk <$> .required "name" Decoder.text
    <*> .required "type" Decoder.text
    <*> .required "location" (Decoder.variant Storage.known)
    <*> .required "offset" Decoder.nat64
    <*> .required "pcRange" rangeDecoder

def decode : Decoder Variable := schema.decode "RecordedVariable"

def livesAt (v : Variable) (pc : Nat) : Bool :=
  v.pcRange.1 ≤ pc && pc ≤ v.pcRange.2

def toLocation (v : Variable) : VariableLocation :=
  ⟨v.name, v.typeName, v.location, v.offset⟩

end Variable

/-!
## Source files by number
-/

def putSource (id : Nat) (path : String) : List (Nat × String) -> List (Nat × String)
  | [] => [(id, path)]
  | (i, p) :: rest =>
      if id < i then (id, path) :: (i, p) :: rest
      else if id = i then (id, path) :: rest
      else (i, p) :: putSource id path rest

/-- A key that is a number: what stands between its quotes is one number of 32
bits and nothing else. -/
def numericKey (key : Literal) : Except DecodeError Nat :=
  match key.source with
  | [] => .error .keyNotNumeric
  | c :: cs =>
      if c = '-' ∨ c.isDigit then
        match scanFigures? (c :: cs) with
        | none => .error .malformed
        | some (f, rest) =>
            match Decoder.nat32 Origin.start (.number f.number?) with
            | .error e => .error e
            | .ok n => if rest.isEmpty then .ok n else .error .malformed
      else .error .keyNotNumeric

def sourcesDecoder : Decoder (List (Nat × String)) := fun o d =>
  (Decoder.map numericKey Decoder.text o d).map fun entries =>
    entries.foldl (fun sources e => putSource e.1 e.2 sources) []

end Recording

structure Recording where
  contractAddress : Option String
  contractName : Option String
  steps : List Step
  functions : Option (List Invocation)
  sources : List (Nat × String)
  instructions : List Recording.Mapping
  locals : List Recording.Variable
  deriving Repr

namespace Recording

open Json

def schema : Schema Recording :=
  Recording.mk <$> .optional "contractAddress" Decoder.text
    <*> .optional "contractName" Decoder.text
    <*> .required "steps" (Decoder.list Step.decode)
    <*> .optional "functions" (Decoder.list Invocation.decode)
    <*> .default "sources" sourcesDecoder []
    <*> .default "instructions" (Decoder.list Mapping.decode) []
    <*> .default "variables" (Decoder.list Variable.decode) []

def decode : Decoder Recording := schema.decode "RecordedTrace"

def sourcePath? (r : Recording) (id : Nat) : Option String :=
  (r.sources.find? fun s => s.1 == id).map Prod.snd

def paths (r : Recording) : List String := r.sources.map Prod.snd

/-- Add the place of a program counter to a list sorted by program counter,
unless it has one. -/
def addPlace (pc : Nat) (place : SourceOffset) :
    List (Nat × SourceOffset) -> List (Nat × SourceOffset)
  | [] => [(pc, place)]
  | (p, q) :: rest =>
      if pc < p then (pc, place) :: (p, q) :: rest
      else if pc = p then (p, q) :: rest
      else (p, q) :: addPlace pc place rest

/-- The place of each program counter, sorted by program counter.  Of several
entries for one counter the last one counts; entries with an unknown source
say nothing. -/
def places (r : Recording) : List (Nat × SourceOffset) :=
  r.instructions.foldr
    (fun i found =>
      match r.sourcePath? i.sourceId with
      | some path => addPlace i.pc ⟨path, i.offset⟩ found
      | none => found)
    []

/-- The recorded paths that a requested path refers to: those in which it ends,
and only when there is none those with its file name. -/
def matchingPaths (recorded : List String) (requested : String) : List String :=
  let bySuffix := recorded.filter fun p => Path.endsWith requested p
  if ! bySuffix.isEmpty then bySuffix
  else
    match Path.fileName? requested with
    | none => []
    | some name => recorded.filter fun p => Path.fileName? p = some name

end Recording

end TraceAdapter
