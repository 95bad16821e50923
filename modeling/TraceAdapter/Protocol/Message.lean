import TraceAdapter.Json.Reading

/-!
# Messages

A message is a request, a response or an event; its field `type` says which.
The other fields are set aside until the type is known, so the type may stand
anywhere in the message.
-/

namespace TraceAdapter
namespace Protocol

open Json

structure Request where
  seq : Int
  command : String
  arguments : Option Value := none
  deriving Repr

structure Response where
  seq : Int
  requestSeq : Int
  success : Bool
  command : String
  message : Option String := none
  body : Option Value := none
  deriving Repr

structure Event where
  seq : Int
  event : String
  body : Value := .null
  deriving Repr

inductive Message where
  | request (r : Request)
  | response (r : Response)
  | event (e : Event)
  deriving Repr

inductive Kind where
  | request
  | response
  | event
  deriving DecidableEq, Repr

namespace Kind

def name : Kind -> String
  | request => "request"
  | response => "response"
  | event => "event"

def known : List (String × Kind) :=
  [request, response, event].map fun k => (k.name, k)

def decode : Decoder Kind := fun _ d =>
  match d with
  | .string ⟨_, some name⟩ =>
      match known.find? (fun k => k.1 == name) with
      | some k => .ok k.2
      | none => .error (.unknownVariant name (known.map Prod.fst))
  | _ => .error (mismatch "variant identifier" d)

end Kind

/-!
## Fields of the three kinds
-/

def Request.schema : Schema Request :=
  Request.mk <$> .required "seq" Decoder.int64
    <*> .required "command" Decoder.text
    <*> .optional "arguments" Decoder.value

def Response.schema : Schema Response :=
  Response.mk <$> .required "seq" Decoder.int64
    <*> .required "request_seq" Decoder.int64
    <*> .required "success" Decoder.bool
    <*> .required "command" Decoder.text
    <*> .optional "message" Decoder.text
    <*> .optional "body" Decoder.value

def Event.schema : Schema Event :=
  Event.mk <$> .required "seq" Decoder.int64
    <*> .required "event" Decoder.text
    <*> .default "body" Decoder.value .null

namespace Message

def tag : String := "type"

def ofFields (kind : Kind) (fields : Document) : Except DecodeError Message :=
  match kind with
  | .request => (Request.schema.decode "RequestMessage" .buffer fields).map .request
  | .response =>
      (Response.schema.decode "ResponseMessage" .buffer fields).map .response
  | .event => (Event.schema.decode "EventMessage" .buffer fields).map .event

def splitEntries (o : Origin) :
    Option Kind -> List (Literal × Document) -> List (Literal × Document) ->
      Except DecodeError (Option Kind × List (Literal × Document))
  | kind, aside, [] => .ok (kind, aside.reverse)
  | kind, aside, (key, d) :: rest =>
      match key.text with
      | none => .error .malformed
      | some name =>
          if name = tag then
            if kind.isSome then .error (.duplicateField tag)
            else
              match Kind.decode o d with
              | .error e => .error e
              | .ok k => splitEntries o (some k) aside rest
          else if (d.value? o.room).isNone then .error .malformed
          else splitEntries o kind ((key, d) :: aside) rest

def decode : Decoder Message := fun o d =>
  match d with
  | .object entries closed =>
      match o.enter with
      | none => .error .malformed
      | some inner =>
          match splitEntries inner none [] entries with
          | .error e => .error e
          | .ok (kind, aside) =>
              if closed then
                match kind with
                | none => .error (.missingField tag)
                | some kind => ofFields kind (.object aside true)
              else .error .malformed
  | .array items closed =>
      match o.enter with
      | none => .error .malformed
      | some inner =>
          match items with
          | [] => .error (if closed then .missingField tag else .malformed)
          | first :: rest =>
              match Kind.decode inner first with
              | .error e => .error e
              | .ok kind =>
                  if closed ∧ rest.all (fun d => (d.value? inner.room).isSome) then
                    ofFields kind (.array rest true)
                  else .error .malformed
  | _ => .error (mismatch "internally tagged enum ProtocolMessage" d)

/-- Write a message; absent parts are left out, the body of an event apart. -/
def toJson : Message -> Value
  | .request r =>
      .object <|
        [(tag, .string Kind.request.name), ("seq", .int r.seq),
          ("command", .string r.command)] ++
        entry? "arguments" id r.arguments
  | .response r =>
      .object <|
        [(tag, .string Kind.response.name), ("seq", .int r.seq),
          ("request_seq", .int r.requestSeq), ("success", .bool r.success),
          ("command", .string r.command)] ++
        entry? "message" .string r.message ++
        entry? "body" id r.body
  | .event e =>
      .object
        [(tag, .string Kind.event.name), ("seq", .int e.seq),
          ("event", .string e.event), ("body", e.body)]

end Message

end Protocol
end TraceAdapter
