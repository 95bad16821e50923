import TraceAdapter.Trace.Basic

/-!
# Traces as JSON

Reading and writing of steps and invocations.
-/

namespace TraceAdapter

open Json

namespace Step

def storageDecoder : Decoder (List (String × String)) := fun o d =>
  (Decoder.map Decoder.textKey Decoder.text o d).map sortEntries

def schema : Schema Step :=
  Step.mk <$> .required "pc" Decoder.nat64
    <*> .required "op" Decoder.text
    <*> .default "stack" (Decoder.list Evm.Word.decode) []
    <*> .optional "memory" Decoder.text
    <*> .optional "storage" storageDecoder
    <*> .optional "gas" Decoder.nat64
    <*> .optional "depth" Decoder.nat32
    <*> .optional "error" Decoder.text

def decode : Decoder Step := schema.decode "Step"

/-- Write a step; absent parts are left out. -/
def toJson (s : Step) : Value :=
  .object <|
    [("pc", .nat s.pc), ("op", .string s.op),
      ("stack", .array (s.stack.map Evm.Word.toJson))] ++
    entry? "memory" .string s.memory ++
    entry? "storage"
      (fun slots => .object (slots.map fun e => (e.1, .string e.2))) s.storage ++
    entry? "gas" .nat s.gas ++
    entry? "depth" .nat s.depth ++
    entry? "error" .string s.error

end Step

namespace Invocation

def schema : Schema Invocation :=
  Invocation.mk <$> .required "name" Decoder.text
    <*> .required "entryStep" Decoder.size
    <*> .optional "exitStep" Decoder.size

def decode : Decoder Invocation := schema.decode "FunctionInvocation"

/-- Write an invocation; an open call has null as its exit. -/
def toJson (f : Invocation) : Value :=
  .object
    [("name", .string f.name), ("entryStep", .nat f.entryStep),
      ("exitStep", .orNull .nat f.exitStep)]

end Invocation

end TraceAdapter
