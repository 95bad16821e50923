import TraceAdapter.Proofs.Adapter.Reached

/-!
# What requests come to

A request fails and does nothing, or it looks, moves, sets breakpoints or launches.
Whatever it does, the reply to it is one of a few.
-/

namespace TraceAdapter

open Protocol (Request LaunchArguments SetBreakpointsArguments)

inductive Reply.Given : Reply -> Prop where
  | nothing : Given {}
  | greeting : Given .greeting
  | threads : Given .threads
  | launched : Given .launched
  | breakpoints (records : List Protocol.Breakpoint) : Given (.breakpoints records)
  | resumed (reason : StopReason) : Given (.resumed reason)
  | stepped : Given .stepped
  | frames (frames : List Protocol.StackFrame) : Given (.frames frames)
  | scopes (scopes : List Protocol.Scope) : Given (.scopes scopes)
  | variableList (vs : List Protocol.Variable) : Given (.variableList vs)
  | value (text : String) : Given (.value text)
  | farewell : Given .farewell

namespace Adapter

variable {ω σ : Type} [Debugger σ]

/-- What handling a request can come to. -/
inductive ComesTo (c : Launch.Collaborators ω σ) (s : Session σ) (r : Request) :
    Handled ω σ -> Prop where
  | fails (e : Error) : ComesTo c s r (observe s (.error e))
  | looks {reply : Reply} : reply.Given -> ComesTo c s r (observe s (.ok reply))
  | moves {index : Nat} {after : Session σ} {reply : Reply} :
      s.moveTo index = .ok after -> reply.Given ->
      ComesTo c s r { result := .ok reply, session := after }
  | sets (a : SetBreakpointsArguments) : ComesTo c s r (setBreakpoints s a)
  | launches {a : LaunchArguments} :
      launchArguments? r = some a -> ComesTo c s r (launch c s a)

variable {c : Launch.Collaborators ω σ} {s : Session σ} {r : Request}

theorem comesTo_withArguments {α : Type} {decoder : Json.Decoder α} {absent : α}
    {handler : α -> Handled ω σ}
    (h : forall a, arguments decoder absent r = .ok a -> ComesTo c s r (handler a)) :
    ComesTo c s r (withArguments decoder absent s r handler) := by
  cases harguments : arguments decoder absent r with
  | error e =>
      rw [withArguments_of_error harguments]
      exact .fails e
  | ok a =>
      rw [withArguments_of_ok harguments]
      exact h a harguments

theorem comesTo_moveAndReply (index : Nat) {reply : Reply} (h : reply.Given) :
    ComesTo c s r (moveAndReply s index reply) := by
  unfold moveAndReply
  cases hmove : s.moveTo index with
  | error e => exact .fails e
  | ok after => exact .moves hmove h

theorem comesTo_step (target : List Step -> Nat -> Nat) :
    ComesTo c s r (step s target) := by
  unfold step
  cases s.trace? with
  | none => exact .looks .stepped
  | some steps => exact comesTo_moveAndReply _ .stepped

theorem comesTo_stepLine : ComesTo c s r (stepLine s) := comesTo_step _

theorem comesTo_resume : ComesTo c s r (resume s) := by
  unfold resume
  cases s.trace? with
  | none => exact .looks (.resumed _)
  | some steps => exact comesTo_moveAndReply _ (.resumed _)

theorem comesTo_handleCommand {command : Command}
    (h : Command.ofName? r.command = some command) :
    ComesTo c s r (handleCommand c s r command) := by
  cases command with
  | greet => exact .looks .greeting
  | launch =>
      apply comesTo_withArguments
      intro a ha
      exact .launches (by simp only [launchArguments?, h, ha, Except.toOption])
  | setBreakpoints => exact comesTo_withArguments fun a _ => .sets a
  | configurationDone => exact .looks .nothing
  | threads => exact .looks .threads
  | resume => exact comesTo_withArguments fun _ _ => comesTo_resume
  | next => exact comesTo_stepLine
  | stepOut => exact comesTo_stepLine
  | stepIn => exact comesTo_step _
  | stackTrace => exact comesTo_withArguments fun _ _ => .looks (.frames _)
  | scopes => exact .looks (.scopes _)
  | listVariables => exact comesTo_withArguments fun _ _ => .looks (.variableList _)
  | evaluate =>
      apply comesTo_withArguments
      intro a _
      cases s.evaluate a.expression with
      | error e => exact .fails e
      | ok text => exact .looks (.value text)
  | disconnect => exact .looks .farewell
  | terminate => exact .looks .farewell

theorem handle_comesTo (c : Launch.Collaborators ω σ) (s : Session σ) (r : Request) :
    ComesTo c s r (handle c s r) := by
  unfold handle
  cases hcommand : Command.ofName? r.command with
  | none => exact .fails _
  | some command => exact comesTo_handleCommand hcommand

theorem ComesTo.given {h : Handled ω σ} (hcomes : ComesTo c s r h) {reply : Reply}
    (hreply : h.result = .ok reply) : reply.Given := by
  cases hcomes with
  | fails e => cases hreply
  | looks hgiven =>
      cases hreply
      exact hgiven
  | moves _ hgiven =>
      cases hreply
      exact hgiven
  | sets a =>
      cases hreply
      exact .breakpoints _
  | @launches a _ =>
      rcases launch_cases c s a with ⟨e, _, hresult, _⟩ | ⟨_, _, _, _, hresult, _⟩
      · rw [hresult] at hreply
        cases hreply
      · rw [hresult] at hreply
        cases hreply
        exact .launched

theorem ComesTo.calls {h : Handled ω σ} (hcomes : ComesTo c s r h)
    (hlaunch : launchArguments? r = none) : h.calls = [] := by
  cases hcomes with
  | fails e => rfl
  | looks _ => rfl
  | moves _ _ => rfl
  | sets a => rfl
  | launches hsome =>
      rw [hlaunch] at hsome
      cases hsome

end Adapter
end TraceAdapter
