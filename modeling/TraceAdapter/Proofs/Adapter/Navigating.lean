import TraceAdapter.Proofs.Adapter.Observing
import TraceAdapter.Proofs.Adapter.Relaunching

/-!
# Navigating

A request that navigates moves a live session on until it is at the last step, and
there it stays.  No other request but a launch moves a session at all, so between
two launches a session never goes back.
-/

namespace TraceAdapter
namespace Adapter

open Protocol (Request LaunchArguments SetBreakpointsArguments ContinueArguments)

variable {ω σ : Type}

/-- A request navigates: it asks for a move, with good arguments where it needs
any. -/
def navigates (r : Request) : Bool :=
  match Command.ofName? r.command with
  | some .resume => (arguments ContinueArguments.decode {} r).toOption.isSome
  | some .next => true
  | some .stepIn => true
  | some .stepOut => true
  | _ => false

variable [Debugger σ]

/-!
## What navigating does
-/

theorem handle_of_navigates {r : Request} (h : navigates r = true)
    (c : Launch.Collaborators ω σ) (s : Session σ) :
    handle c s r = resume s ∨ handle c s r = stepLine s ∨
      handle c s r = step s Walk.instruction := by
  unfold navigates at h
  unfold handle
  cases hcommand : Command.ofName? r.command with
  | none =>
      rw [hcommand] at h
      cases h
  | some command =>
      rw [hcommand] at h
      cases command with
      | resume =>
          left
          cases hgood : arguments ContinueArguments.decode {} r with
          | error e =>
              rw [hgood] at h
              cases h
          | ok a => exact withArguments_of_ok hgood s fun _ => resume s
      | next => exact Or.inr (Or.inl rfl)
      | stepOut => exact Or.inr (Or.inl rfl)
      | stepIn => exact Or.inr (Or.inr rfl)
      | _ => cases h

/-- Each way to navigate is a move to a target ahead, with one event that says that
the debuggee stopped. -/
theorem exists_target_of_navigates {r : Request} (h : navigates r = true)
    (c : Launch.Collaborators ω σ) {s : Session σ} {steps : List Step}
    (htrace : s.trace? = some steps) :
    exists target reply reason,
      Walk.Ahead steps s.index target ∧ reply.events = [.stopped reason] ∧
        handle c s r = moveAndReply s target reply := by
  rcases handle_of_navigates h c s with hresume | hline | hinstruction
  · rw [hresume, resume_of_trace htrace]
    exact ⟨_, _, _, Walk.ahead_toBreakpoint steps s.index s.breakpoints.stopsAt, rfl, rfl⟩
  · rw [hline, stepLine, step_of_trace htrace]
    exact ⟨_, _, .step, Walk.ahead_sourceLine steps s.index s.sourceMap?, rfl, rfl⟩
  · rw [hinstruction, step_of_trace htrace]
    exact ⟨_, _, .step, Walk.ahead_instruction steps s.index, rfl, rfl⟩

/-- Navigating succeeds and changes the place in the trace and the current call
alone. -/
theorem handle_of_navigates_of_trace {r : Request} (h : navigates r = true)
    (c : Launch.Collaborators ω σ) {s : Session σ} {steps : List Step}
    (htrace : s.trace? = some steps) (hindex : s.index < steps.length) :
    exists target reply reason,
      Walk.Ahead steps s.index target ∧ reply.events = [.stopped reason] ∧
        handle c s r = { result := .ok reply, session := s.movedTo target } := by
  rcases exists_target_of_navigates h c htrace with
    ⟨target, reply, reason, hahead, hevents, hmove⟩
  have htarget : target < s.length := by
    rw [Session.length_of_trace htrace]
    exact hahead.lt (Nat.zero_lt_of_lt hindex)
  refine ⟨target, reply, reason, hahead, hevents, ?_⟩
  rw [hmove, moveAndReply_of_lt htarget]

theorem session_of_navigates_of_dead {r : Request} (h : navigates r = true)
    (c : Launch.Collaborators ω σ) {s : Session σ} (htrace : s.trace? = none) :
    (handle c s r).session = s := by
  rcases handle_of_navigates h c s with hresume | hline | hinstruction
  · rw [hresume, resume, htrace]
    rfl
  · rw [hline, stepLine, step, htrace]
    rfl
  · rw [hinstruction, step, htrace]
    rfl

/-!
## What all other requests do
-/

theorem bare_setBreakpoints (s : Session σ) (a : SetBreakpointsArguments) :
    (setBreakpoints s a : Handled ω σ).session.bare = s.bare := by
  unfold setBreakpoints
  dsimp only
  rw [Session.setBatch_session, (Session.sameApart_registerAll _ _ _).bare_eq]
  rfl

/-- Without a launch and without navigating at most the breakpoints of a session
change. -/
theorem bare_handle_of_not_navigates {r : Request} (hlaunch : launchArguments? r = none)
    (h : navigates r = false) (c : Launch.Collaborators ω σ) (s : Session σ) :
    (handle c s r).session.bare = s.bare := by
  have hquiet {handled : Handled ω σ} (hhandled : Quiet s handled) :
      handled.session.bare = s.bare := by
    rw [hhandled.session]
  unfold navigates at h
  unfold launchArguments? at hlaunch
  unfold handle
  cases hcommand : Command.ofName? r.command with
  | none => rfl
  | some command =>
      rw [hcommand] at h hlaunch
      cases command with
      | launch =>
          apply hquiet
          apply quiet_withArguments
          intro a ha
          rw [ha] at hlaunch
          cases hlaunch
      | resume =>
          apply hquiet
          apply quiet_withArguments
          intro a ha
          rw [ha] at h
          cases h
      | setBreakpoints =>
          show (withArguments SetBreakpointsArguments.decode {} s r
            (setBreakpoints s)).session.bare = s.bare
          cases hgood : arguments SetBreakpointsArguments.decode {} r with
          | error e =>
              rw [withArguments_of_error hgood]
              rfl
          | ok a =>
              rw [withArguments_of_ok hgood]
              exact bare_setBreakpoints s a
      | next => cases h
      | stepIn => cases h
      | stepOut => cases h
      | stackTrace => exact hquiet (quiet_withArguments fun _ _ => quiet_observe s _)
      | listVariables => exact hquiet (quiet_withArguments fun _ _ => quiet_observe s _)
      | evaluate => exact hquiet (quiet_withArguments fun _ _ => quiet_observe s _)
      | greet => rfl
      | configurationDone => rfl
      | threads => rfl
      | scopes => rfl
      | disconnect => rfl
      | terminate => rfl

namespace Sample

end Sample

end Adapter
end TraceAdapter
