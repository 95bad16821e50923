import TraceAdapter.Protocol.Source

/-!
# Bodies of responses and events

The keys of a body are written in their order, as those of every object that was
read before.
-/

namespace TraceAdapter
namespace Protocol

open Json

structure Breakpoint where
  verified : Bool
  line : Option Nat := none
  functionName : Option String := none
  message : Option String := none
  deriving DecidableEq, Repr

namespace Breakpoint

def schema : Schema Breakpoint :=
  Breakpoint.mk <$> .required "verified" Decoder.bool
    <*> .optional "line" Decoder.nat32
    <*> .optional "functionName" Decoder.text
    <*> .optional "message" Decoder.text

def decode : Decoder Breakpoint := schema.decode "Breakpoint"

def toJson (b : Breakpoint) : Value :=
  .object <|
    entry? "functionName" .string b.functionName ++
    entry? "line" .nat b.line ++
    entry? "message" .string b.message ++
    [("verified", .bool b.verified)]

end Breakpoint

structure StackFrame where
  id : Int
  name : String
  source : Source
  line : Nat
  column : Nat
  deriving DecidableEq, Repr

namespace StackFrame

def schema : Schema StackFrame :=
  StackFrame.mk <$> .required "id" Decoder.int64
    <*> .required "name" Decoder.text
    <*> .required "source" Source.decode
    <*> .required "line" Decoder.nat32
    <*> .required "column" Decoder.nat32

def decode : Decoder StackFrame := schema.decode "StackFrame"

def toJson (f : StackFrame) : Value :=
  .object
    [("column", .nat f.column), ("id", .int f.id), ("line", .nat f.line),
      ("name", .string f.name), ("source", f.source.toJson)]

end StackFrame

structure Scope where
  name : String
  variablesReference : Int
  expensive : Bool
  deriving DecidableEq, Repr

namespace Scope

def schema : Schema Scope :=
  Scope.mk <$> .required "name" Decoder.text
    <*> .required "variablesReference" Decoder.int64
    <*> .required "expensive" Decoder.bool

def decode : Decoder Scope := schema.decode "Scope"

def toJson (s : Scope) : Value :=
  .object
    [("expensive", .bool s.expensive), ("name", .string s.name),
      ("variablesReference", .int s.variablesReference)]

end Scope

structure Variable where
  name : String
  value : String
  typeName : Option String
  variablesReference : Int
  deriving DecidableEq, Repr

namespace Variable

def schema : Schema Variable :=
  Variable.mk <$> .required "name" Decoder.text
    <*> .required "value" Decoder.text
    <*> .optional "type" Decoder.text
    <*> .required "variablesReference" Decoder.int64

def decode : Decoder Variable := schema.decode "Variable"

def toJson (v : Variable) : Value :=
  .object <|
    [("name", .string v.name)] ++
    entry? "type" .string v.typeName ++
    [("value", .string v.value), ("variablesReference", .int v.variablesReference)]

end Variable

/-- The body of the event that says where and why the debuggee stopped. -/
structure StoppedBody where
  reason : String
  threadId : Int
  description : Option String
  deriving DecidableEq, Repr

namespace StoppedBody

def schema : Schema StoppedBody :=
  StoppedBody.mk <$> .required "reason" Decoder.text
    <*> .required "threadId" Decoder.int64
    <*> .optional "description" Decoder.text

def decode : Decoder StoppedBody := schema.decode "StoppedEventBody"

def toJson (b : StoppedBody) : Value :=
  .object <|
    entry? "description" .string b.description ++
    [("reason", .string b.reason), ("threadId", .int b.threadId)]

end StoppedBody

def capabilities : Value :=
  .object
    [("supportsCompletionsRequest", .bool false),
      ("supportsConfigurationDoneRequest", .bool true),
      ("supportsDataBreakpoints", .bool false),
      ("supportsEvaluateForHovers", .bool false),
      ("supportsExceptionInfoRequest", .bool false),
      ("supportsSetBreakpointsRequest", .bool true),
      ("supportsStepBack", .bool false),
      ("supportsStepInTargetsRequest", .bool false),
      ("supportsTerminateRequest", .bool true)]

def outputBody (output : String) : Value :=
  .object [("category", .string "stdout"), ("output", .string output)]

end Protocol
end TraceAdapter
