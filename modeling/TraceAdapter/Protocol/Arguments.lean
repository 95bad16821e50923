import TraceAdapter.Protocol.Source

/-!
# Arguments of requests

Every argument may be left out.  The arguments of a launch have a module of
their own.
-/

namespace TraceAdapter
namespace Protocol

open Json

structure SetBreakpointsArguments where
  source : Source := {}
  breakpoints : List SourceBreakpoint := []
  deriving DecidableEq, Repr

namespace SetBreakpointsArguments

def schema : Schema SetBreakpointsArguments :=
  SetBreakpointsArguments.mk <$> .default "source" Source.decode {}
    <*> .default "breakpoints" (Decoder.list SourceBreakpoint.decode) []

def decode : Decoder SetBreakpointsArguments :=
  schema.decode "SetBreakpointsArguments"

def toJson (a : SetBreakpointsArguments) : Value :=
  .object
    [("source", a.source.toJson),
      ("breakpoints", .array (a.breakpoints.map SourceBreakpoint.toJson))]

end SetBreakpointsArguments

structure ContinueArguments where
  threadId : Int := 0
  deriving DecidableEq, Repr

namespace ContinueArguments

def schema : Schema ContinueArguments :=
  ContinueArguments.mk <$> .default "threadId" Decoder.int64 0

def decode : Decoder ContinueArguments := schema.decode "ContinueArguments"

def toJson (a : ContinueArguments) : Value :=
  .object [("threadId", .int a.threadId)]

end ContinueArguments

structure StackTraceArguments where
  threadId : Int := 0
  startFrame : Option Int := none
  levels : Option Int := none
  deriving DecidableEq, Repr

namespace StackTraceArguments

def schema : Schema StackTraceArguments :=
  StackTraceArguments.mk <$> .default "threadId" Decoder.int64 0
    <*> .optional "startFrame" Decoder.int64
    <*> .optional "levels" Decoder.int64

def decode : Decoder StackTraceArguments := schema.decode "StackTraceArguments"

def toJson (a : StackTraceArguments) : Value :=
  .object <|
    [("threadId", .int a.threadId)] ++
    entry? "startFrame" .int a.startFrame ++
    entry? "levels" .int a.levels

end StackTraceArguments

structure VariablesArguments where
  variablesReference : Int := 0
  deriving DecidableEq, Repr

namespace VariablesArguments

def schema : Schema VariablesArguments :=
  VariablesArguments.mk <$> .default "variablesReference" Decoder.int64 0

def decode : Decoder VariablesArguments := schema.decode "VariablesArguments"

def toJson (a : VariablesArguments) : Value :=
  .object [("variablesReference", .int a.variablesReference)]

end VariablesArguments

structure EvaluateArguments where
  expression : String := ""
  frameId : Option Int := none
  context : Option String := none
  deriving DecidableEq, Repr

namespace EvaluateArguments

def schema : Schema EvaluateArguments :=
  EvaluateArguments.mk <$> .default "expression" Decoder.text ""
    <*> .optional "frameId" Decoder.int64
    <*> .optional "context" Decoder.text

def decode : Decoder EvaluateArguments := schema.decode "EvaluateArguments"

def toJson (a : EvaluateArguments) : Value :=
  .object <|
    [("expression", .string a.expression)] ++
    entry? "frameId" .int a.frameId ++
    entry? "context" .string a.context

end EvaluateArguments

end Protocol
end TraceAdapter
