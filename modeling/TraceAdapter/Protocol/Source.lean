import TraceAdapter.Json.Decoder

/-!
# Sources and requested breakpoints

How a client names a source file and the places in it where it wants to stop.
-/

namespace TraceAdapter
namespace Protocol

open Json

structure Source where
  name : Option String := none
  path : Option String := none
  deriving DecidableEq, Repr

namespace Source

def schema : Schema Source :=
  Source.mk <$> .optional "name" Decoder.text
    <*> .optional "path" Decoder.text

def decode : Decoder Source := schema.decode "Source"

def toJson (s : Source) : Value :=
  .object <| entry? "name" .string s.name ++ entry? "path" .string s.path

end Source

/-- One place to stop: a line, a function, both or neither. -/
structure SourceBreakpoint where
  line : Option Nat := none
  functionName : Option String := none
  deriving DecidableEq, Repr

namespace SourceBreakpoint

def schema : Schema SourceBreakpoint :=
  SourceBreakpoint.mk <$> .optional "line" Decoder.nat32
    <*> .optional "functionName" Decoder.text

def decode : Decoder SourceBreakpoint := schema.decode "SourceBreakpoint"

def toJson (b : SourceBreakpoint) : Value :=
  .object <|
    entry? "line" .nat b.line ++ entry? "functionName" .string b.functionName

end SourceBreakpoint

end Protocol
end TraceAdapter
