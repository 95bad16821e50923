import TraceAdapter.Program.Running
import TraceAdapter.Proofs.Adapter.Launching
import TraceAdapter.Proofs.Adapter.Reached

/-!
# Requests that only look

Many requests look at a session and leave it, and so does a request that is
refused for its arguments.  Taking such requests out of a sequence changes
nothing for the others.
-/

namespace TraceAdapter
namespace Adapter

open Protocol (Request)

variable {ω σ : Type}

/-!
## Handling that does nothing
-/

/-- Handling a request did nothing but find its result. -/
def Quiet (s : Session σ) (h : Handled ω σ) : Prop := h = observe s h.result

theorem Quiet.session {s : Session σ} {h : Handled ω σ} (hquiet : Quiet s h) :
    h.session = s := by
  rw [hquiet]
  rfl

theorem Quiet.world? {s : Session σ} {h : Handled ω σ} (hquiet : Quiet s h) :
    h.world? = none := by
  rw [hquiet]
  rfl

theorem quiet_observe (s : Session σ) (result : Except Error Reply) :
    Quiet s (observe s result : Handled ω σ) := rfl

theorem quiet_withArguments {α : Type} {decoder : Json.Decoder α} {absent : α}
    {s : Session σ} {r : Request} {handler : α -> Handled ω σ}
    (h : forall a, arguments decoder absent r = .ok a -> Quiet s (handler a)) :
    Quiet s (withArguments decoder absent s r handler) := by
  cases harguments : arguments decoder absent r with
  | error e =>
      rw [withArguments_of_error harguments]
      exact quiet_observe s (.error e)
  | ok a =>
      rw [withArguments_of_ok harguments]
      exact h a harguments

/-!
## Failures
-/

theorem quiet_moveAndReply {s : Session σ} {index : Nat} {reply : Reply} {e : Error}
    (h : (moveAndReply s index reply : Handled ω σ).result = .error e) :
    Quiet s (moveAndReply s index reply : Handled ω σ) := by
  unfold moveAndReply at h ⊢
  cases hmove : s.moveTo index with
  | error fault => exact quiet_observe s (.error fault)
  | ok after =>
      rw [hmove] at h
      cases h

theorem quiet_step {s : Session σ} {target : List Step -> Nat -> Nat} {e : Error}
    (h : (step s target : Handled ω σ).result = .error e) :
    Quiet s (step s target : Handled ω σ) := by
  unfold step at h ⊢
  cases htrace : s.trace? with
  | none => exact quiet_observe s (.ok .stepped)
  | some steps =>
      rw [htrace] at h
      exact quiet_moveAndReply h

theorem quiet_resume {s : Session σ} {e : Error}
    (h : (resume s : Handled ω σ).result = .error e) :
    Quiet s (resume s : Handled ω σ) := by
  unfold resume at h ⊢
  cases htrace : s.trace? with
  | none => exact quiet_observe s (.ok (.resumed .breakpoint))
  | some steps =>
      rw [htrace] at h
      exact quiet_moveAndReply h

variable [Debugger σ]

/-- A request that fails has done nothing, launches apart. -/
theorem quiet_of_error {c : Launch.Collaborators ω σ} {s : Session σ} {r : Request}
    {command : Command} (hcommand : command ≠ .launch) {e : Error}
    (h : (handleCommand c s r command).result = .error e) :
    Quiet s (handleCommand c s r command) := by
  cases command with
  | launch => exact absurd rfl hcommand
  | setBreakpoints =>
      apply quiet_withArguments
      intro a ha
      unfold handleCommand at h
      rw [withArguments_of_ok ha] at h
      cases h
  | resume =>
      apply quiet_withArguments
      intro a ha
      unfold handleCommand at h
      rw [withArguments_of_ok ha] at h
      exact quiet_resume h
  | next => exact quiet_step h
  | stepOut => exact quiet_step h
  | stepIn => exact quiet_step h
  | stackTrace => exact quiet_withArguments fun a _ha => quiet_observe s _
  | listVariables => exact quiet_withArguments fun a _ha => quiet_observe s _
  | evaluate => exact quiet_withArguments fun a _ha => quiet_observe s _
  | greet => exact quiet_observe s _
  | configurationDone => exact quiet_observe s _
  | threads => exact quiet_observe s _
  | scopes => exact quiet_observe s _
  | disconnect => exact quiet_observe s _
  | terminate => exact quiet_observe s _

/-- A launch that was refused for its arguments before anyone was asked has done
nothing. -/
theorem quiet_launch_of_refused {c : Launch.Collaborators ω σ} {s : Session σ}
    {r : Request} {name : String} {cause : Json.DecodeError}
    (h : (handleCommand c s r .launch).result = .error (.invalidArguments name cause))
    (hcalls : (handleCommand c s r .launch).calls = []) :
    Quiet s (handleCommand c s r .launch) := by
  apply quiet_withArguments
  intro a ha
  unfold handleCommand at h hcalls
  rw [withArguments_of_ok ha] at h hcalls
  rw [(launch_does c s a).1] at hcalls
  rcases Launch.launch_of_calls_nil hcalls with ⟨fault, hfault⟩
  rw [launch_result, hfault] at h
  cases h

/-- A launch is refused for its arguments before anyone is asked, unless a
collaborator refuses them. -/
theorem quiet_launch_of_neverRefuse {c : Launch.Collaborators ω σ}
    (hc : c.NeverRefuse) {s : Session σ} {r : Request} {name : String}
    {cause : Json.DecodeError}
    (h : (handleCommand c s r .launch).result = .error (.invalidArguments name cause)) :
    Quiet s (handleCommand c s r .launch) := by
  apply quiet_withArguments
  intro a ha
  unfold handleCommand at h
  rw [withArguments_of_ok ha, launch_result] at h
  cases hresult : (Launch.launch c a).result with
  | error e =>
      rw [hresult] at h
      cases h
      exact absurd hresult (Launch.launch_ne_refused hc a name cause)
  | ok l =>
      rw [hresult] at h
      dsimp only at h
      split at h
      · cases h
      · cases h

/-!
## Observing requests
-/

def lookingCommands : List String :=
  ["initialize", "configurationDone", "threads", "stackTrace", "scopes", "variables",
    "evaluate"]

/-- A request only observed: its command looks or is unknown, or the request was
refused for its arguments.  A collaborator may say the same of a launch that is
under way; this does not count. -/
inductive Observing (c : Launch.Collaborators ω σ) (r : Request) (h : Handled ω σ) :
    Prop where
  | looks : r.command ∈ lookingCommands -> Observing c r h
  | unknown : Command.ofName? r.command = none -> Observing c r h
  | refused {name : String} {cause : Json.DecodeError} :
      h.result = .error (.invalidArguments name cause) ->
      c.NeverRefuse ∨ h.calls = [] ->
      Observing c r h

theorem quiet_of_looks {r : Request} (h : r.command ∈ lookingCommands)
    (c : Launch.Collaborators ω σ) (s : Session σ) : Quiet s (handle c s r) := by
  simp only [lookingCommands, List.mem_cons, List.not_mem_nil, or_false] at h
  rcases h with h | h | h | h | h | h | h
  · rw [handle_of_command .greet h]
    exact quiet_observe s _
  · rw [handle_of_command .configurationDone h]
    exact quiet_observe s _
  · rw [handle_of_command .threads h]
    exact quiet_observe s _
  · rw [handle_of_command .stackTrace h]
    exact quiet_withArguments fun a _ha => quiet_observe s _
  · rw [handle_of_command .scopes h]
    exact quiet_observe s _
  · rw [handle_of_command .listVariables h]
    exact quiet_withArguments fun a _ha => quiet_observe s _
  · rw [handle_of_command .evaluate h]
    exact quiet_withArguments fun a _ha => quiet_observe s _

theorem Observing.quiet {c : Launch.Collaborators ω σ} {s : Session σ} {r : Request}
    (h : Observing c r (handle c s r)) : Quiet s (handle c s r) := by
  cases h with
  | looks hlooks => exact quiet_of_looks hlooks c s
  | unknown hunknown =>
      unfold handle
      rw [hunknown]
      exact quiet_observe s _
  | refused hresult hasked =>
      unfold handle at hresult hasked ⊢
      cases hcommand : Command.ofName? r.command with
      | none => exact quiet_observe s _
      | some command =>
          rw [hcommand] at hresult hasked
          by_cases hlaunch : command = .launch
          · subst hlaunch
            rcases hasked with hc | hcalls
            · exact quiet_launch_of_neverRefuse hc hresult
            · exact quiet_launch_of_refused hresult hcalls
          · exact quiet_of_error hlaunch hresult

omit [Debugger σ] in
theorem Observing.after {c : Launch.Collaborators ω σ} {r : Request} {h : Handled ω σ}
    (hobserving : Observing c r h) (found : Option ω) : Observing (c.after found) r h := by
  cases hobserving with
  | looks hlooks => exact Observing.looks hlooks
  | unknown hunknown => exact Observing.unknown hunknown
  | refused hresult hasked =>
      rcases hasked with hc | hcalls
      · exact Observing.refused hresult (Or.inl ⟨hc.create, hc.deploy⟩)
      · exact Observing.refused hresult (Or.inr hcalls)

/-- The program has recordings and a deploy tool for collaborators, so with it every
request that is refused for its arguments only observed. -/
theorem observing_of_refused (files : Files) (settings : Settings) {r : Request}
    {h : Handled Files Replay} {name : String} {cause : Json.DecodeError}
    (hresult : h.result = .error (.invalidArguments name cause)) :
    Observing (Program.collaborators files settings) r h := by
  apply Observing.refused hresult
  left
  apply Launch.Collaborators.neverRefuse_of_recordings rfl
  intro deploy hdeploy
  rcases Option.map_eq_some_iff.mp hdeploy with ⟨tool, _, rfl⟩
  exact ⟨Shell.start, tool, rfl⟩

/-!
## Taking requests out
-/

omit [Debugger σ] in
/-- A list without the items at some positions. -/
def without {α : Type} (dropped : Nat -> Bool) : List α -> List α
  | [] => []
  | x :: rest =>
      let kept := without (fun i => dropped (i + 1)) rest
      if dropped 0 then kept else x :: kept

/-- Observing requests may be taken out of any sequence of requests.  What becomes
of each of the others, the session after it and what it printed included, and
the session in the end stay the same. -/
theorem others_without_observing (c : Launch.Collaborators ω σ) (s : Session σ)
    (requests : List Request) (dropped : Nat -> Bool)
    (h : forall i r handled, requests[i]? = some r ->
      (handleAll c s requests)[i]? = some handled -> dropped i = true ->
      Observing c r handled) :
    handleAll c s (without dropped requests) = without dropped (handleAll c s requests) ∧
      sessionAfter c s (without dropped requests) = sessionAfter c s requests := by
  -- A request that is taken out leaves the session and the world in which the
  -- next one is handled.
  induction requests generalizing c s dropped with
  | nil => exact ⟨rfl, rfl⟩
  | cons r rest ih =>
      have hrest := ih (c.after (handle c s r).world?) (handle c s r).session
        (fun i => dropped (i + 1))
        fun i r' handled hr hhandled hdropped =>
          (h (i + 1) r' handled hr hhandled hdropped).after _
      rw [sessionAfter_cons, handleAll, without, without]
      by_cases hdropped : dropped 0 = true
      · have hquiet : Quiet s (handle c s r) := (h 0 r _ rfl rfl hdropped).quiet
        rw [if_pos hdropped, if_pos hdropped]
        rw [hquiet.session, hquiet.world?, Launch.Collaborators.after_none] at hrest ⊢
        exact hrest
      · rw [if_neg hdropped, if_neg hdropped, sessionAfter_cons, handleAll, hrest.1]
        exact ⟨rfl, hrest.2⟩

namespace Sample

/-- A launched session is looked at, and a second launch is refused since its
address is a number. -/
def visit : List Request :=
  [setting.request, launching.request, { seq := 4, command := "stackTrace" },
    { seq := 5, command := "launch"
      arguments := some <| .object [("contractAddress", .nat 1)] },
    { seq := 6, command := "continue" }]

/-- The positions of the two requests that only look. -/
def looking (i : Nat) : Bool := i == 2 || i == 3

end Sample

theorem others_without_observing_visit :
    (forall i r handled, Sample.visit[i]? = some r ->
      (handleAll Sample.collaborators {} Sample.visit)[i]? = some handled ->
      Sample.looking i = true -> Observing Sample.collaborators r handled) ∧
      handleAll Sample.collaborators {} (without Sample.looking Sample.visit) =
        without Sample.looking (handleAll Sample.collaborators {} Sample.visit) ∧
      sessionAfter Sample.collaborators {} (without Sample.looking Sample.visit) =
        sessionAfter Sample.collaborators {} Sample.visit := by
  have hobserving : forall i r handled, Sample.visit[i]? = some r ->
      (handleAll Sample.collaborators {} Sample.visit)[i]? = some handled ->
      Sample.looking i = true -> Observing Sample.collaborators r handled := by
    intro i r handled hr hhandled hlooking
    simp only [Sample.looking, Bool.or_eq_true, beq_iff_eq] at hlooking
    rcases hlooking with rfl | rfl
    · cases hr
      cases hhandled
      exact Observing.looks (by decide)
    · cases hr
      cases hhandled
      exact Observing.refused rfl (Or.inr rfl)
  exact ⟨hobserving,
    others_without_observing Sample.collaborators {} Sample.visit Sample.looking hobserving⟩

namespace Sample

/-- A factory that knows one contract and blames the arguments of the request for the others,
which it does not see. -/
def blaming : Launch.Collaborators Unit Scripted where
  world := ()
  create := fun _ target =>
    if target.contractAddress = "0x01" then .ok debugger
    else .error (.invalidArguments "launch" (.missingField "contractAddress"))

/-- A launch of the known contract, one of another and a look at the frames. -/
def detour : List Request :=
  [launching.request,
    { seq := 3, command := "launch"
      arguments :=
        some <| .object
          [("contractAddress", .string "0x02"), ("ethdebugDir", .string "out")] },
    { seq := 4, command := "stackTrace" }]

def blamed (i : Nat) : Bool := i == 1

end Sample

/-- A launch that a collaborator refuses for the arguments of the request has left the
session without a trace, and no frame is shown.  Taken out, it leaves the frame and the trace
of the launch before. -/
theorem refused_launch_disturbs :
    (handleAll Sample.blaming {} Sample.detour)[1]?.map Handled.result =
        some (.error (.invalidArguments "launch" (.missingField "contractAddress"))) ∧
      (handleAll Sample.blaming {} (without Sample.blamed Sample.detour))[1]?.map
          Handled.result ≠
        (without Sample.blamed (handleAll Sample.blaming {} Sample.detour))[1]?.map
          Handled.result ∧
      sessionAfter Sample.blaming {} (without Sample.blamed Sample.detour) ≠
        sessionAfter Sample.blaming {} Sample.detour := by
  have hhidden :
      (without Sample.blamed (handleAll Sample.blaming {} Sample.detour))[1]?.map
          Handled.result = some (.ok (.frames [])) := rfl
  have hshown :
      (handleAll Sample.blaming {} (without Sample.blamed Sample.detour))[1]?.map
          Handled.result = some (.ok (.frames [⟨1, "transfer", {}, 1, 1⟩])) := rfl
  have hdead : (sessionAfter Sample.blaming {} Sample.detour).trace? = none := rfl
  have hlive :
      (sessionAfter Sample.blaming {} (without Sample.blamed Sample.detour)).trace?.isSome :=
    rfl
  refine ⟨rfl, ?_, ?_⟩
  · rw [hshown, hhidden]
    simp [Reply.frames]
  · intro hsame
    rw [hsame, hdead] at hlive
    cases hlive

end Adapter
end TraceAdapter
