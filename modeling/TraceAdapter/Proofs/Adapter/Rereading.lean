import TraceAdapter.Proofs.Adapter.Outcomes
import TraceAdapter.Proofs.Adapter.Transcript
import TraceAdapter.Proofs.Protocol.Messages
import TraceAdapter.Proofs.Protocol.WireTypes
import TraceAdapter.Proofs.Trace.WireTypes

/-!
# What is sent can be read

A client that reads a message of the adapter and writes it again has the same message.
Every body is one of a few, and all of these are read as they are.
-/

namespace TraceAdapter

open Json (Decoder Value soundEntries_nil)
open Protocol

/-!
## Bodies
-/

/-- A body is an object that is read as it is, and so are those of the events that
follow. -/
structure Reply.Sound (reply : Reply) : Prop where
  body : reply.body.Sound
  not_null : reply.body ≠ .null
  events : forall a, a ∈ reply.events -> a.body.Sound

theorem sound_stopped (reason : StopReason) : (Announcement.stopped reason).body.Sound :=
  StoppedBody.sound_toJson _

theorem sound_array {α : Type} {toJson : α -> Value} (h : forall a, (toJson a).Sound)
    (as : List α) : (Value.array (as.map toJson)).Sound := by
  apply Value.Sound.array
  intro v hv
  rcases List.mem_map.mp hv with ⟨a, _, rfl⟩
  exact h a

theorem sound_listBody {α : Type} (name : String) {toJson : α -> Value}
    (h : forall a, (toJson a).Sound) (as : List α) :
    (Reply.listBody name (as.map toJson)).Sound :=
  (soundEntries_nil.cons (sound_array h as) name).object (List.pairwise_singleton _ name)

theorem sound_threadStarted : Announcement.threadStarted.body.Sound :=
  (sound_string "started").pair (sound_int Session.threadId) (by decide)

theorem Reply.Given.sound {reply : Reply} (h : reply.Given) : reply.Sound := by
  cases h with
  | nothing => exact ⟨rfl, nofun, nofun⟩
  | greeting =>
      refine ⟨sound_capabilities, nofun, ?_⟩
      intro a ha
      cases List.mem_singleton.mp ha
      rfl
  | threads =>
      have hthread := (sound_int Session.threadId).pair (sound_string "main")
        (by decide : "id" < "name")
      exact ⟨sound_listBody "threads" (fun _ : Unit => hthread) [()], nofun, nofun⟩
  | launched =>
      refine ⟨rfl, nofun, ?_⟩
      intro a ha
      rcases List.mem_cons.mp ha with rfl | hstopped
      · exact sound_threadStarted
      · cases List.mem_singleton.mp hstopped
        exact sound_stopped .entry
  | breakpoints records =>
      exact ⟨sound_listBody "breakpoints" Breakpoint.sound_toJson records, nofun, nofun⟩
  | resumed reason =>
      refine ⟨rfl, nofun, ?_⟩
      intro a ha
      cases List.mem_singleton.mp ha
      exact sound_stopped reason
  | stepped =>
      refine ⟨rfl, nofun, ?_⟩
      intro a ha
      cases List.mem_singleton.mp ha
      exact sound_stopped .step
  | frames frames =>
      have hframes : (Value.array (frames.map StackFrame.toJson)).Sound :=
        sound_array StackFrame.sound_toJson frames
      exact ⟨hframes.pair (sound_nat frames.length) (by decide), nofun, nofun⟩
  | scopes scopes =>
      exact ⟨sound_listBody "scopes" Scope.sound_toJson scopes, nofun, nofun⟩
  | variableList vs =>
      exact ⟨sound_listBody "variables" Variable.sound_toJson vs, nofun, nofun⟩
  | value text =>
      exact ⟨(sound_string text).pair (sound_int 0) (by decide), nofun, nofun⟩
  | farewell => exact ⟨rfl, nofun, nofun⟩

/-!
## Messages
-/

namespace Protocol
namespace Message

def renumbered (n : Int) : Message -> Message
  | .request r => .request { r with seq := n }
  | .response r => .response { r with seq := n }
  | .event e => .event { e with seq := n }

theorem number_renumbered (n : Int) (m : Message) : (m.renumbered n).number = n := by
  cases m <;> rfl

/-- A response or an event that is read as it is if its number has 64 bits. -/
def Sendable : Message -> Prop
  | .request _ => False
  | .response r =>
      Decoder.Fits64 r.requestSeq ∧ forall b, r.body = some b -> b.Sound ∧ b ≠ .null
  | .event e => e.body.Sound

theorem Sendable.renumbered {m : Message} (h : m.Sendable) (n : Int) :
    (m.renumbered n).Sendable := by
  cases m with
  | request r => exact h
  | response r => exact h
  | event e => exact h

theorem Sendable.restored {m : Message} (h : m.Sendable)
    (hnumber : Decoder.Fits64 m.number) : Json.ofValue decode m.toJson = .ok m := by
  cases m with
  | request r => exact absurd h id
  | response r => exact reads_response_of_sound hnumber h.1 h.2 .tree rfl
  | event e => exact reads_event_of_sound hnumber h .tree rfl

end Message
end Protocol

namespace Conversation

variable {ω σ : Type}

theorem sendable_outgoing {r : Request} (hr : Decoder.Fits64 r.seq) {printed : List UInt8}
    {result : Except Error Reply}
    (hresult : forall reply, result = .ok reply -> reply.Sound) {m : Outgoing}
    (hm : m ∈ outgoing Utf8.lossy r printed result) (seq : Nat) :
    (m.toMessage seq).Sendable := by
  rcases List.mem_append.mp hm with houtput | hanswer
  · split at houtput
    · cases houtput
    · cases List.mem_singleton.mp houtput
      exact sound_outputBody _
  · cases result with
    | error e =>
        cases List.mem_singleton.mp hanswer
        exact ⟨hr, nofun⟩
    | ok reply =>
        have hreply := hresult reply rfl
        rcases List.mem_cons.mp hanswer with rfl | hevent
        · refine ⟨hr, ?_⟩
          intro b hb
          cases hb
          exact ⟨hreply.body, hreply.not_null⟩
        · rcases List.mem_map.mp hevent with ⟨a, ha, rfl⟩
          exact hreply.events a ha

variable [Debugger σ]

theorem sendable_transcript (c : Launch.Collaborators ω σ) (s : Session σ)
    (left : List UInt8) {requests : List Request}
    (h : forall r, r ∈ requests -> Decoder.Fits64 r.seq) {m : Outgoing}
    (hm : m ∈ transcript Utf8.lossy left requests (Adapter.handleAll c s requests)) (seq : Nat) :
    (m.toMessage seq).Sendable := by
  induction requests generalizing c s left with
  | nil => cases hm
  | cons r rest ih =>
      rcases List.mem_append.mp hm with hfirst | hrest
      · have hreply : forall reply, (Adapter.handle c s r).result = .ok reply ->
            reply.Sound :=
          fun reply hreply => ((Adapter.handle_comesTo c s r).given hreply).sound
        exact sendable_outgoing (h r List.mem_cons_self) hreply hfirst seq
      · exact ih _ _ [] (fun r' hr' => h r' (List.mem_cons_of_mem r hr')) hrest

omit [Debugger σ] in
theorem fits64_of_request? {body : String} {r : Request} (h : request? body = some r) :
    Decoder.Fits64 r.seq := by
  unfold request? at h
  split at h
  · rename_i request hread
    cases h
    unfold Json.read Json.Text.decode at hread
    split at hread
    · cases hread
    · rename_i hdecode
      split at hread
      · cases hread
        exact Message.fits64_of_decode hdecode
      · cases hread
  · cases h

theorem mem_of_mem_upToEnd {requests : List Request} {r : Request}
    (h : r ∈ upToEnd requests) : r ∈ requests := by
  induction requests with
  | nil => cases h
  | cons first rest ih =>
      rw [upToEnd] at h
      split at h
      · exact List.mem_cons.mpr (Or.inl (List.mem_singleton.mp h))
      · rcases List.mem_cons.mp h with rfl | hrest
        · exact List.mem_cons_self
        · exact List.mem_cons_of_mem first (ih hrest)

theorem sendable_run (c : Launch.Collaborators ω σ) (s : Session σ)
    (left bytes : List UInt8) {m : Message}
    (h : m ∈ (run { collaborators := c, session := s, console := left } bytes).messages) :
    m.Sendable := by
  rw [run_eq, (dispatchAll_spec _ _).1] at h
  rcases List.mem_map.mp h with ⟨⟨sent, seq⟩, hsent, rfl⟩
  have hfits : forall r, r ∈ upToEnd (requestsIn bytes) -> Decoder.Fits64 r.seq := by
    intro r hr
    rcases List.mem_filterMap.mp (mem_of_mem_upToEnd hr) with ⟨body, _, hbody⟩
    exact fits64_of_request? hbody
  exact sendable_transcript c s left hfits (List.fst_mem_of_mem_zipIdx hsent) seq

end Conversation

/-!
## All wire types
-/

/-- Whatever is read as a value of one of the types on the wire is written so that it
is read again, and so is every response and event that an adapter sends, with
whatever number of 64 bits. -/
theorem wire_types_restored :
    Message.decode.Restored Message.toJson ∧
    LaunchArguments.decode.Restored LaunchArguments.toJson ∧
    SetBreakpointsArguments.decode.Restored SetBreakpointsArguments.toJson ∧
    ContinueArguments.decode.Restored ContinueArguments.toJson ∧
    StackTraceArguments.decode.Restored StackTraceArguments.toJson ∧
    VariablesArguments.decode.Restored VariablesArguments.toJson ∧
    EvaluateArguments.decode.Restored EvaluateArguments.toJson ∧
    Protocol.Breakpoint.decode.Restored Protocol.Breakpoint.toJson ∧
    StackFrame.decode.Restored StackFrame.toJson ∧
    Scope.decode.Restored Scope.toJson ∧
    Variable.decode.Restored Variable.toJson ∧
    StoppedBody.decode.Restored StoppedBody.toJson ∧
    Evm.Word.decode.Restored Evm.Word.toJson ∧
    Step.decode.Restored Step.toJson ∧
    Invocation.decode.Restored Invocation.toJson ∧
    forall (ω σ : Type) [Debugger σ] (c : Launch.Collaborators ω σ) (s : Session σ)
      (left bytes : List UInt8) (m : Message),
      m ∈ (Conversation.run { collaborators := c, session := s, console := left }
        bytes).messages ->
      (Decoder.Fits64 m.number -> Json.ofValue Message.decode m.toJson = .ok m) ∧
        forall n, Decoder.Fits64 n ->
          Json.ofValue Message.decode (m.renumbered n).toJson = .ok (m.renumbered n) := by
  refine ⟨Message.stable_decode.restored, LaunchArguments.stable_decode.restored,
    SetBreakpointsArguments.stable_decode.restored,
    ContinueArguments.stable_decode.restored, StackTraceArguments.stable_decode.restored,
    VariablesArguments.stable_decode.restored, EvaluateArguments.stable_decode.restored,
    Breakpoint.stable_decode.restored, StackFrame.stable_decode.restored,
    Scope.stable_decode.restored, Variable.stable_decode.restored,
    StoppedBody.stable_decode.restored, Evm.Word.stable_decode.restored,
    Step.stable_decode.restored, Invocation.stable_decode.restored, ?_⟩
  intro ω σ _ c s left bytes m hm
  have hsendable := Conversation.sendable_run c s left bytes hm
  refine ⟨hsendable.restored, fun n hn => (hsendable.renumbered n).restored ?_⟩
  rw [Message.number_renumbered]
  exact hn

namespace Adapter.Sample

def lenient : Value :=
  .object
    [("forkPort", .string " 8545 "), ("function", .null), ("comment", .array []),
      ("contractFile", .string "Token.sol")]

def stream : List UInt8 := Framing.writeMessage "[\"request\",1,\"threads\"]"

end Adapter.Sample

theorem wire_types_restored_lenient :
    (exists a : LaunchArguments,
      Json.ofValue LaunchArguments.decode Adapter.Sample.lenient = .ok a ∧
        a.forkPort = some 8545 ∧
        Json.ofValue LaunchArguments.decode a.toJson = .ok a) ∧
      exists m : Message,
        m ∈ (Conversation.run { collaborators := Adapter.Sample.collaborators }
          Adapter.Sample.stream).messages ∧
          m.number = 1 ∧ Json.ofValue Message.decode m.toJson = .ok m := by
  rcases wire_types_restored with
    ⟨_, hlaunch, _, _, _, _, _, _, _, _, _, _, _, _, _, hsent⟩
  constructor
  · exact ⟨_, rfl, rfl, hlaunch Adapter.Sample.lenient _ rfl⟩
  · have hnumbers : (Conversation.run { collaborators := Adapter.Sample.collaborators }
        Adapter.Sample.stream).messages.map Message.number = [1] := by
      decide +kernel
    have hone : (1 : Int) ∈ [(1 : Int)] := List.mem_cons_self
    rw [← hnumbers] at hone
    rcases List.mem_map.mp hone with ⟨m, hm, hnumber⟩
    have hfits : Decoder.Fits64 m.number := by
      rw [hnumber]
      exact ⟨by decide, by decide⟩
    exact ⟨m, hm, hnumber, (hsent Unit Scripted Adapter.Sample.collaborators {} []
      Adapter.Sample.stream m hm).1 hfits⟩

end TraceAdapter
