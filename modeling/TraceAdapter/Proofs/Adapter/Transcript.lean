import TraceAdapter.Adapter.Conversation
import TraceAdapter.Proofs.Adapter.Handlers
import TraceAdapter.Proofs.Text.Replacing

/-!
# Transcripts of conversations

What a client is sent over a whole stream is decided by the requests in it, up to
the first that ends the conversation, and by what handling them one after the
other does.  The fields of each message and its bytes on the wire are written out
here and not taken from the conversation.
-/

namespace TraceAdapter

open Protocol (Request Message)

namespace Protocol

def Message.number : Message -> Int
  | .request r => r.seq
  | .response r => r.seq
  | .event e => e.seq

end Protocol

/-- A message to the client that has no number yet. -/
inductive Outgoing where
  | event (name : String) (body : Json.Value)
  | success (r : Request) (body : Json.Value)
  | failure (r : Request) (text : String)

namespace Outgoing

def toMessage (seq : Nat) : Outgoing -> Message
  | event name body => .event { seq, event := name, body }
  | success r body =>
      .response
        { seq, requestSeq := r.seq, success := true, command := r.command
          message := none, body := some body }
  | failure r text =>
      .response
        { seq, requestSeq := r.seq, success := false, command := r.command
          message := some text, body := none }

theorem number_toMessage (seq : Nat) (m : Outgoing) :
    (m.toMessage seq).number = seq := by
  cases m <;> rfl

/-- The message with a number, as it is written. -/
def toJson (seq : Nat) : Outgoing -> Json.Value
  | event name body =>
      .object
        [("type", .string "event"), ("seq", .int seq), ("event", .string name), ("body", body)]
  | success r body =>
      .object
        [("type", .string "response"), ("seq", .int seq), ("request_seq", .int r.seq),
          ("success", .bool true), ("command", .string r.command), ("body", body)]
  | failure r text =>
      .object
        [("type", .string "response"), ("seq", .int seq), ("request_seq", .int r.seq),
          ("success", .bool false), ("command", .string r.command), ("message", .string text)]

theorem toJson_toMessage (seq : Nat) (m : Outgoing) : (m.toMessage seq).toJson = m.toJson seq := by
  cases m <;> rfl

/-- Messages with numbers in turn, from a first one on. -/
def numbered (first : Nat) (messages : List Outgoing) : List Message :=
  (messages.zipIdx first).map fun m => m.1.toMessage m.2

theorem numbered_cons (first : Nat) (m : Outgoing) (rest : List Outgoing) :
    numbered first (m :: rest) = m.toMessage first :: numbered (first + 1) rest := rfl

theorem numbered_append (first : Nat) (before after : List Outgoing) :
    numbered first (before ++ after) =
      numbered first before ++ numbered (first + before.length) after := by
  unfold numbered
  rw [List.zipIdx_append, List.map_append]

theorem number_of_numbered {first i : Nat} {messages : List Outgoing} {m : Message}
    (h : (numbered first messages)[i]? = some m) : m.number = first + i := by
  unfold numbered at h
  rw [List.getElem?_map, List.getElem?_zipIdx] at h
  rcases Option.map_eq_some_iff.mp h with ⟨⟨sent, seq⟩, hsent, rfl⟩
  rcases Option.map_eq_some_iff.mp hsent with ⟨_, _, heq⟩
  cases heq
  exact number_toMessage (first + i) sent

/-- The bytes of a body on the wire: a header that says how many they are, and the body. -/
def frame (body : String) : List UInt8 :=
  Utf8.encode s!"Content-Length: {(Utf8.encode body).length}\r\n\r\n{body}"

theorem writeMessage_eq_frame (body : String) :
    Protocol.Framing.writeMessage body = frame body := by
  unfold frame Protocol.Framing.writeMessage
  simp only [Utf8.encode_append]
  rfl

/-- The bytes of messages with numbers in turn, from a first one on. -/
def frames (first : Nat) (messages : List Outgoing) : List UInt8 :=
  (messages.zipIdx first).flatMap fun m => frame (m.1.toJson m.2).print

theorem frames_cons (first : Nat) (m : Outgoing) (rest : List Outgoing) :
    frames first (m :: rest) = frame (m.toJson first).print ++ frames (first + 1) rest := rfl

theorem frames_append (first : Nat) (before after : List Outgoing) :
    frames first (before ++ after) =
      frames first before ++ frames (first + before.length) after := by
  unfold frames
  rw [List.zipIdx_append, List.flatMap_append]

end Outgoing

namespace Conversation

variable {ω σ : Type}

/-!
## What the client is to be sent
-/

/-- The requests in a stream, as far as it can be read: the bodies that are read as such
messages. -/
def requestsIn (bytes : List UInt8) : List Request :=
  (Protocol.Framing.readAll bytes).1.filterMap fun body =>
    match Json.read Message.decode body with
    | .ok (.request r) => some r
    | _ => none

theorem requestsIn_eq (bytes : List UInt8) :
    requestsIn bytes = (Protocol.Framing.readAll bytes).1.filterMap request? := rfl

def ends (r : Request) : Bool :=
  r.command == "disconnect" || r.command == "terminate"

/-- Requests up to the first that asks for the end. -/
def upToEnd : List Request -> List Request
  | [] => []
  | r :: rest => if ends r then [r] else r :: upToEnd rest

/-- What is sent for a request, from the bytes printed and the result.  Bytes are shown
as a text. -/
def outgoing (shown : List UInt8 -> String) (r : Request) (printed : List UInt8)
    (result : Except Error Reply) : List Outgoing :=
  (if printed.isEmpty then []
    else
      [.event "output" <|
        .object [("category", .string "stdout"), ("output", .string (shown printed))]]) ++
    match result with
    | .ok reply =>
        .success r reply.body :: reply.events.map fun a => .event a.event a.body
    | .error e => [.failure r e.message]

/-- What is sent for requests that were handled in turn.  Bytes that were left
over from before are passed on with those of the first. -/
def transcript (shown : List UInt8 -> String) (left : List UInt8) :
    List Request -> List (Handled ω σ) -> List Outgoing
  | r :: requests, h :: handled =>
      outgoing shown r (left ++ h.printed) h.result ++ transcript shown [] requests handled
  | _, _ => []

/-!
## Sending
-/

def sendAll (v : Conversation ω σ) (messages : List Outgoing) : Conversation ω σ :=
  messages.foldl (fun v m => v.send fun seq => m.toMessage seq) v

theorem sendAll_append (v : Conversation ω σ) (before after : List Outgoing) :
    v.sendAll (before ++ after) = (v.sendAll before).sendAll after := by
  unfold sendAll
  rw [List.foldl_append]

theorem sendAll_eq (v : Conversation ω σ) (messages : List Outgoing) :
    v.sendAll messages =
      { v with
        seq := v.seq + messages.length
        messages := v.messages ++ Outgoing.numbered v.seq messages
        written := v.written ++ Outgoing.frames v.seq messages } := by
  induction messages generalizing v with
  | nil => simp [sendAll, Outgoing.numbered, Outgoing.frames]
  | cons m rest ih =>
      show (v.send fun seq => m.toMessage seq).sendAll rest = _
      rw [ih, Outgoing.numbered_cons, Outgoing.frames_cons, ← Outgoing.toJson_toMessage,
        ← Outgoing.writeMessage_eq_frame]
      simp [send, Nat.add_assoc, Nat.add_comm 1]

theorem sendAll_events (v : Conversation ω σ) (events : List Announcement) :
    events.foldl (fun v a => v.sendEvent a.event a.body) v =
      v.sendAll (events.map fun a => .event a.event a.body) := by
  unfold sendAll
  rw [List.foldl_map]
  rfl

def drained (v : Conversation ω σ) : Conversation ω σ := { v with console := [] }

theorem flush_eq (v : Conversation ω σ) :
    v.flush =
      v.drained.sendAll
        (if v.console.isEmpty then []
          else
            [.event "output" <|
              .object
                [("category", .string "stdout"), ("output", .string (Utf8.lossy v.console))]]) := by
  unfold flush takeOutput
  by_cases hempty : v.console.isEmpty
  · rw [if_pos hempty, if_pos hempty]
    rcases v with ⟨collaborators, session, console, seq, messages, written, calls⟩
    cases List.isEmpty_iff.mp hempty
    rfl
  · rw [if_neg hempty, if_neg hempty]
    rfl

/-!
## Answering
-/

def endsWith (result : Except Error Reply) : Bool :=
  match result with
  | .ok reply => reply.terminate
  | .error _ => false

theorem answer_eq (v : Conversation ω σ) (r : Request) (h : Handled ω σ) :
    v.answer r h =
      ((v.keep h).drained.sendAll (outgoing Utf8.lossy r (v.console ++ h.printed) h.result),
        endsWith h.result) := by
  unfold answer outgoing endsWith
  rw [sendAll_append, flush_eq]
  cases h.result with
  | error e => rfl
  | ok reply =>
      simp only [sendAll_events]
      rfl

/-!
## Ending
-/

theorem endsWith_withArguments {α : Type} {decoder : Json.Decoder α} {absent : α}
    {s : Session σ} {r : Request} {handler : α -> Handled ω σ}
    (h : forall a, endsWith (handler a).result = false) :
    endsWith (Adapter.withArguments decoder absent s r handler).result = false := by
  cases harguments : Adapter.arguments decoder absent r with
  | error e =>
      rw [Adapter.withArguments_of_error harguments]
      rfl
  | ok a =>
      rw [Adapter.withArguments_of_ok harguments]
      exact h a

theorem endsWith_moveAndReply (s : Session σ) (index : Nat) {reply : Reply}
    (h : reply.terminate = false) :
    endsWith (Adapter.moveAndReply s index reply : Handled ω σ).result = false := by
  unfold Adapter.moveAndReply
  cases s.moveTo index with
  | error e => rfl
  | ok after => exact h

theorem endsWith_step (s : Session σ) (target : List Step -> Nat -> Nat) :
    endsWith (Adapter.step s target : Handled ω σ).result = false := by
  unfold Adapter.step
  cases s.trace? with
  | none => rfl
  | some steps => exact endsWith_moveAndReply s _ rfl

theorem endsWith_resume (s : Session σ) :
    endsWith (Adapter.resume s : Handled ω σ).result = false := by
  unfold Adapter.resume
  cases s.trace? with
  | none => rfl
  | some steps => exact endsWith_moveAndReply s _ rfl

variable [Debugger σ]

theorem endsWith_launch (c : Launch.Collaborators ω σ) (s : Session σ)
    (a : Protocol.LaunchArguments) :
    endsWith (Adapter.launch c s a).result = false := by
  rcases Adapter.launch_cases c s a with
    ⟨e, _, hresult, _⟩ | ⟨l, after, _, _, hresult, _⟩
  · rw [hresult]
    rfl
  · rw [hresult]
    rfl

theorem endsWith_handleCommand (c : Launch.Collaborators ω σ) (s : Session σ)
    (r : Request) (command : Command) :
    endsWith (Adapter.handleCommand c s r command).result =
      (command == .disconnect || command == .terminate) := by
  cases command with
  | launch => exact endsWith_withArguments fun a => endsWith_launch c s a
  | setBreakpoints => exact endsWith_withArguments fun a => rfl
  | resume => exact endsWith_withArguments fun a => endsWith_resume s
  | next => exact endsWith_step s _
  | stepOut => exact endsWith_step s _
  | stepIn => exact endsWith_step s _
  | stackTrace => exact endsWith_withArguments fun a => rfl
  | listVariables => exact endsWith_withArguments fun a => rfl
  | evaluate =>
      apply endsWith_withArguments
      intro a
      show endsWith ((s.evaluate a.expression).map Reply.value) = false
      cases s.evaluate a.expression with
      | error e => rfl
      | ok text => rfl
  | greet => rfl
  | configurationDone => rfl
  | threads => rfl
  | scopes => rfl
  | disconnect => rfl
  | terminate => rfl

theorem endsWith_handle (c : Launch.Collaborators ω σ) (s : Session σ)
    (r : Request) : endsWith (Adapter.handle c s r).result = ends r := by
  unfold Adapter.handle ends
  cases hcommand : Command.ofName? r.command with
  | none =>
      have hother (command : Command) : (r.command == command.name) = false := by
        rw [beq_eq_false_iff_ne]
        intro hname
        rw [hname, Command.ofName?_name] at hcommand
        cases hcommand
      have hdisconnect : (r.command == "disconnect") = false := hother .disconnect
      have hterminate : (r.command == "terminate") = false := hother .terminate
      rw [hdisconnect, hterminate]
      rfl
  | some command =>
      rw [← Command.name_of_ofName? hcommand]
      dsimp only
      rw [endsWith_handleCommand]
      cases command <;> rfl

/-!
## The requests of a stream
-/

def dispatchAll (v : Conversation ω σ) (requests : List Request) :
    Conversation ω σ :=
  requests.foldl (fun v r => (v.dispatch r).1) v

theorem dispatch_ends (v : Conversation ω σ) (r : Request) :
    (v.dispatch r).2 = ends r := by
  unfold dispatch
  rw [answer_eq]
  exact endsWith_handle v.collaborators v.session r

theorem requestsIn_of_stop {bytes : List UInt8}
    (h : forall body rest, Protocol.Framing.readMessage bytes ≠ .ok (some (body, rest))) :
    requestsIn bytes = [] := by
  rw [requestsIn_eq, Protocol.Framing.readAll]
  split
  · rfl
  · rfl
  · rename_i body rest hread
    exact absurd hread (h body rest)

theorem requestsIn_of_message {bytes rest : List UInt8} {body : String}
    (h : Protocol.Framing.readMessage bytes = .ok (some (body, rest))) :
    requestsIn bytes = (request? body).toList ++ requestsIn rest := by
  rw [requestsIn_eq, requestsIn_eq, Protocol.Framing.readAll]
  split
  · rename_i e hread
    cases h.symm.trans hread
  · rename_i hread
    cases h.symm.trans hread
  · rename_i body' rest' hread
    cases h.symm.trans hread
    cases hrequest : request? body with
    | none => simp [hrequest]
    | some r => simp [hrequest]

/-- A conversation answers the requests of its stream up to the first that asks
for the end. -/
theorem run_eq (v : Conversation ω σ) (bytes : List UInt8) :
    v.run bytes = v.dispatchAll (upToEnd (requestsIn bytes)) := by
  -- The cases are those of one read: no more messages, a message that is no
  -- request, a request that ends the conversation and one that does not.
  fun_induction run v bytes with
  | case1 v bytes e hread =>
      rw [requestsIn_of_stop]
      · rfl
      · intro body rest hmessage
        cases hread.symm.trans hmessage
  | case2 v bytes hread =>
      rw [requestsIn_of_stop]
      · rfl
      · intro body rest hmessage
        cases hread.symm.trans hmessage
  | case3 v bytes body rest hread hrequest ih =>
      rw [requestsIn_of_message hread, hrequest, ih]
      rfl
  | case4 v bytes body rest hread r hrequest dispatched hends =>
      rw [requestsIn_of_message hread, hrequest]
      show _ = v.dispatchAll (upToEnd (r :: requestsIn rest))
      unfold upToEnd
      rw [if_pos ((dispatch_ends v r).symm.trans hends)]
      rfl
  | case5 v bytes body rest hread r hrequest dispatched hends ih =>
      rw [requestsIn_of_message hread, hrequest, ih]
      show _ = v.dispatchAll (upToEnd (r :: requestsIn rest))
      have hgoes : ¬ ends r = true := by
        rw [← dispatch_ends v r]
        exact hends
      rw [upToEnd, if_neg hgoes]
      rfl

/-!
## The transcript
-/

theorem dispatch_eq (v : Conversation ω σ) (r : Request) :
    (v.dispatch r).1 =
      let h := Adapter.handle v.collaborators v.session r
      let sent := outgoing Utf8.lossy r (v.console ++ h.printed) h.result
      { collaborators := v.collaborators.after h.world?
        session := h.session
        console := []
        seq := v.seq + sent.length
        messages := v.messages ++ Outgoing.numbered v.seq sent
        written := v.written ++ Outgoing.frames v.seq sent
        calls := v.calls ++ h.calls } := by
  unfold dispatch
  rw [answer_eq, sendAll_eq]
  rfl

/-- Answering requests in turn sends their transcript and leaves what handling
them in turn leaves. -/
theorem dispatchAll_spec (v : Conversation ω σ) (requests : List Request) :
    let handled := Adapter.handleAll v.collaborators v.session requests
    let sent := transcript Utf8.lossy v.console requests handled
    (v.dispatchAll requests).messages = v.messages ++ Outgoing.numbered v.seq sent ∧
      (v.dispatchAll requests).written = v.written ++ Outgoing.frames v.seq sent ∧
      (v.dispatchAll requests).session =
        Adapter.sessionAfter v.collaborators v.session requests ∧
      (v.dispatchAll requests).calls = v.calls ++ handled.flatMap Handled.calls := by
  -- The first request is answered with what was left over; answering it leaves
  -- nothing over for the others and moves the numbers on.
  induction requests generalizing v with
  | nil =>
      simp [dispatchAll, transcript, Outgoing.numbered, Outgoing.frames, Adapter.handleAll,
        Adapter.sessionAfter]
  | cons r rest ih =>
      have hrest : v.dispatchAll (r :: rest) = (v.dispatch r).1.dispatchAll rest := rfl
      rcases ih (v.dispatch r).1 with ⟨hmessages, hwritten, hsession, hcalls⟩
      rw [dispatch_eq] at hmessages hwritten hsession hcalls
      dsimp only at hmessages hwritten hsession hcalls ⊢
      rw [hrest, dispatch_eq, hmessages, hwritten, hsession, hcalls,
        Adapter.sessionAfter_cons, Adapter.handleAll, transcript,
        Outgoing.numbered_append, Outgoing.frames_append, List.flatMap_cons]
      simp only [List.append_assoc, true_and]

/-- For any adapter and any stream, what is sent is the transcript of the requests
in the stream up to the first that asks for the end, numbered from one, and
what is written is these messages.  The session is left as handling these
requests in turn leaves it, and another stream with the same requests up to
there makes the same conversation. -/
theorem run_refines_handleAll (c : Launch.Collaborators ω σ) (s : Session σ)
    (left bytes : List UInt8) :
    exists shown : List UInt8 -> String,
      (forall printed, Utf8.Shows printed (shown printed).toList) ∧
      let v := run { collaborators := c, session := s, console := left } bytes
      let requests := upToEnd (requestsIn bytes)
      let handled := Adapter.handleAll c s requests
      let sent := transcript shown left requests handled
      v.messages = Outgoing.numbered 1 sent ∧
        v.written = Outgoing.frames 1 sent ∧
        (forall (i : Nat) m, v.messages[i]? = some m -> m.number = (i : Int) + 1) ∧
        v.session = Adapter.sessionAfter c s requests ∧
        v.calls = handled.flatMap Handled.calls ∧
        forall other, upToEnd (requestsIn other) = requests ->
          run { collaborators := c, session := s, console := left } other = v := by
  rcases dispatchAll_spec
    ({ collaborators := c, session := s, console := left } : Conversation ω σ)
    (upToEnd (requestsIn bytes)) with ⟨hmessages, hwritten, hsession, hcalls⟩
  refine ⟨Utf8.lossy, fun printed => Utf8.shows_iff.mpr rfl, ?_⟩
  dsimp only
  rw [run_eq]
  refine ⟨hmessages, hwritten, ?_, hsession, hcalls, ?_⟩
  · intro i m hm
    rw [hmessages] at hm
    rw [Outgoing.number_of_numbered hm]
    exact Int.add_comm 1 i
  · intro other hother
    rw [run_eq, hother]

end Conversation
end TraceAdapter
