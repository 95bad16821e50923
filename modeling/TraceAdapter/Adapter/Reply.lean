import TraceAdapter.Protocol.Body
import TraceAdapter.Session.Stop
import TraceAdapter.Session.View

/-!
# Replies

What a successful request is answered: a body, and the events that follow it.
-/

namespace TraceAdapter

open Json

structure Announcement where
  event : String
  body : Value
  deriving Repr

namespace Announcement

def stopped (reason : StopReason) : Announcement where
  event := "stopped"
  body :=
    Protocol.StoppedBody.toJson ⟨reason.name, Session.threadId, reason.description?⟩

def threadStarted : Announcement where
  event := "thread"
  body := .object [("reason", .string "started"), ("threadId", .int Session.threadId)]

def ready : Announcement where
  event := "initialized"
  body := .object []

end Announcement

/-- The answer to a request that succeeded, and whether the conversation ends with it. -/
structure Reply where
  body : Value := .object []
  events : List Announcement := []
  terminate : Bool := false
  deriving Repr

namespace Reply

def listBody (name : String) (items : List Value) : Value :=
  .object [(name, .array items)]

def greeting : Reply where
  body := Protocol.capabilities
  events := [.ready]

/-- The only thread. -/
def threads : Reply where
  body :=
    listBody "threads"
      [.object [("id", .int Session.threadId), ("name", .string "main")]]

def launched : Reply where
  events := [.threadStarted, .stopped .entry]

def breakpoints (records : List Protocol.Breakpoint) : Reply where
  body := listBody "breakpoints" (records.map Protocol.Breakpoint.toJson)

def resumed (reason : StopReason) : Reply where
  body := .object [("allThreadsContinued", .bool false)]
  events := [.stopped reason]

def stepped : Reply where
  events := [.stopped .step]

def frames (frames : List Protocol.StackFrame) : Reply where
  body :=
    .object
      [("stackFrames", .array (frames.map Protocol.StackFrame.toJson)),
        ("totalFrames", .nat frames.length)]

def scopes (scopes : List Protocol.Scope) : Reply where
  body := listBody "scopes" (scopes.map Protocol.Scope.toJson)

def variableList (vs : List Protocol.Variable) : Reply where
  body := listBody "variables" (vs.map Protocol.Variable.toJson)

def value (text : String) : Reply where
  body := .object [("result", .string text), ("variablesReference", .int 0)]

def farewell : Reply where
  terminate := true

end Reply

end TraceAdapter
