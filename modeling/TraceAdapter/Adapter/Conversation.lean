import TraceAdapter.Adapter.Handling
import TraceAdapter.Protocol.Stream

/-!
# Conversations

A conversation takes the messages of a stream one after the other.  A request
is answered by what was printed while it was handled, one response and the
events that follow; other messages are passed over.  The messages to the client
are numbered from one.  The conversation ends with the stream or with the reply
that says so.
-/

namespace TraceAdapter

open Protocol

/-- A conversation under way.  `console` holds what was printed and not passed on yet,
`calls` what was asked of the collaborators. -/
structure Conversation (ω σ : Type) where
  collaborators : Launch.Collaborators ω σ
  session : Session σ := {}
  console : List UInt8 := []
  seq : Nat := 1
  messages : List Message := []
  written : List UInt8 := []
  calls : List Launch.Call := []

namespace Conversation

variable {ω σ : Type}

/-!
## Sending
-/

def send (v : Conversation ω σ) (message : Nat -> Message) : Conversation ω σ :=
  { v with
    seq := v.seq + 1
    messages := v.messages ++ [message v.seq]
    written := v.written ++ Framing.writeMessage (message v.seq).toJson.print }

def sendEvent (v : Conversation ω σ) (event : String) (body : Json.Value) :
    Conversation ω σ :=
  v.send fun seq => .event { seq, event, body }

/-- Send the response to a request.  Only a failure carries a text. -/
def sendResponse (v : Conversation ω σ) (r : Request) (success : Bool)
    (body : Option Json.Value) (text : Option String) : Conversation ω σ :=
  v.send fun seq =>
    .response
      { seq, requestSeq := r.seq, success, command := r.command
        message := text.filter fun _ => ! success
        body }

/-!
## Answering
-/

/-- The text that was printed, if there is any, and the conversation without
it. -/
def takeOutput (v : Conversation ω σ) : Option String × Conversation ω σ :=
  if v.console.isEmpty then (none, v)
  else (some (Utf8.lossy v.console), { v with console := [] })

def keep (v : Conversation ω σ) (h : Handled ω σ) : Conversation ω σ :=
  { v with
    collaborators := v.collaborators.after h.world?
    session := h.session
    console := v.console ++ h.printed
    calls := v.calls ++ h.calls }

def flush (v : Conversation ω σ) : Conversation ω σ :=
  match v.takeOutput with
  | (none, v) => v
  | (some text, v) => v.sendEvent "output" (outputBody text)

/-- Answer a handled request; whether the conversation ends with it. -/
def answer (v : Conversation ω σ) (r : Request) (h : Handled ω σ) :
    Conversation ω σ × Bool :=
  let v := (v.keep h).flush
  match h.result with
  | .ok reply =>
      let v := v.sendResponse r true (some reply.body) none
      (reply.events.foldl (fun v a => v.sendEvent a.event a.body) v, reply.terminate)
  | .error e => (v.sendResponse r false none (some e.message), false)

/-- Handle and answer a request; whether the conversation ends with it. -/
def dispatch [Debugger σ] (v : Conversation ω σ) (r : Request) :
    Conversation ω σ × Bool :=
  v.answer r (Adapter.handle v.collaborators v.session r)

/-!
## The loop
-/

def request? (body : String) : Option Request :=
  match Json.read Message.decode body with
  | .ok (.request r) => some r
  | _ => none

def run [Debugger σ] (v : Conversation ω σ) (bytes : List UInt8) :
    Conversation ω σ :=
  match _hread : Framing.readMessage bytes with
  | .error _ => v
  | .ok none => v
  | .ok (some (body, rest)) =>
      match request? body with
      | none => v.run rest
      | some r =>
          let dispatched := v.dispatch r
          if dispatched.2 then dispatched.1 else dispatched.1.run rest
  termination_by bytes.length
  decreasing_by all_goals exact Framing.length_readMessage _hread

def serve [Debugger σ] (c : Launch.Collaborators ω σ) (bytes : List UInt8) :
    Conversation ω σ :=
  run { collaborators := c } bytes

def result (v : Conversation ω σ) (writable : Bool) : Except Error Unit :=
  if writable || v.messages.isEmpty then .ok () else .error (.io .brokenPipe)

end Conversation
end TraceAdapter
