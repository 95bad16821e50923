import TraceAdapter.Adapter.Handling
import TraceAdapter.Proofs.Session.Matched
import TraceAdapter.Proofs.Session.Walking

/-!
# What handlers do

A handler with arguments runs on good ones alone.  A move to a step of the trace
succeeds, and a launch makes a session current or clears it.
-/

namespace TraceAdapter
namespace Adapter

open Launch (Launched)
open Protocol (Request LaunchArguments ContinueArguments)

variable {ω σ : Type}

/-!
## Arguments
-/

theorem invalid_of_arguments {α : Type} {decoder : Json.Decoder α} {absent : α}
    {r : Request} {e : Error} (h : arguments decoder absent r = .error e) :
    exists cause, e = .invalidArguments r.command cause := by
  unfold arguments at h
  cases hgiven : r.arguments with
  | none =>
      rw [hgiven] at h
      cases h
  | some v =>
      rw [hgiven] at h
      cases v with
      | null => cases h
      | _ =>
          dsimp only at h
          split at h
          · cases h
          · cases h
            exact ⟨_, rfl⟩

theorem withArguments_of_error {α : Type} {decoder : Json.Decoder α} {absent : α}
    {r : Request} {e : Error} (h : arguments decoder absent r = .error e)
    (s : Session σ) (handler : α -> Handled ω σ) :
    withArguments decoder absent s r handler = observe s (.error e) := by
  unfold withArguments
  rw [h]

theorem withArguments_of_ok {α : Type} {decoder : Json.Decoder α} {absent a : α}
    {r : Request} (h : arguments decoder absent r = .ok a)
    (s : Session σ) (handler : α -> Handled ω σ) :
    withArguments decoder absent s r handler = handler a := by
  unfold withArguments
  rw [h]

/-!
## Moving
-/

theorem moveAndReply_of_lt {s : Session σ} {index : Nat} (h : index < s.length)
    (reply : Reply) :
    (moveAndReply s index reply : Handled ω σ) =
      { result := .ok reply, session := s.movedTo index } := by
  unfold moveAndReply
  rw [Session.moveTo_eq_ok_iff.mpr ⟨h, rfl⟩]

theorem step_of_trace {s : Session σ} {steps : List Step}
    (htrace : s.trace? = some steps) (target : List Step -> Nat -> Nat) :
    (step s target : Handled ω σ) = moveAndReply s (target steps s.index) .stepped := by
  unfold step
  rw [htrace]

theorem resume_of_trace {s : Session σ} {steps : List Step}
    (htrace : s.trace? = some steps) :
    (resume s : Handled ω σ) =
      moveAndReply s (Walk.toBreakpoint steps s.index s.breakpoints.stopsAt).1
        (.resumed (Walk.toBreakpoint steps s.index s.breakpoints.stopsAt).2) := by
  unfold resume
  rw [htrace]

theorem resume_eq {s : Session σ} {steps : List Step}
    (htrace : s.trace? = some steps) (hindex : s.index < steps.length) :
    let stop := Walk.toBreakpoint steps s.index s.breakpoints.stopsAt
    (resume s : Handled ω σ).session.index = stop.1 ∧
      (resume s : Handled ω σ).result = .ok (.resumed stop.2) := by
  have htarget := Walk.toBreakpoint_lt (Nat.zero_lt_of_lt hindex) s.index
    s.breakpoints.stopsAt
  rw [← Session.length_of_trace htrace] at htarget
  rw [resume_of_trace htrace, moveAndReply_of_lt htarget]
  exact ⟨rfl, rfl⟩

/-!
## Launching
-/

variable [Debugger σ]

/-- What a launch makes current, none if it fails. -/
def launched? (c : Launch.Collaborators ω σ) (a : LaunchArguments) :
    Option (Launched σ) :=
  (Launch.launch c a).result.toOption.filter fun l =>
    l.entry.step < l.simulation.steps.length

theorem launched?_of_error {c : Launch.Collaborators ω σ} {a : LaunchArguments}
    {e : Error} (h : (Launch.launch c a).result = .error e) :
    launched? c a = none := by
  unfold launched?
  rw [h]
  rfl

theorem launched?_of_ok {c : Launch.Collaborators ω σ} {a : LaunchArguments}
    {l : Launched σ} (h : (Launch.launch c a).result = .ok l) :
    launched? c a =
      if l.entry.step < l.simulation.steps.length then some l else none := by
  unfold launched?
  rw [h]
  simp [Except.toOption, Option.filter]

theorem launched?_eq_some_iff {c : Launch.Collaborators ω σ}
    {a : LaunchArguments} {l : Launched σ} :
    launched? c a = some l ↔
      (Launch.launch c a).result = .ok l ∧
        l.entry.step < l.simulation.steps.length := by
  cases hresult : (Launch.launch c a).result with
  | error e => simp [launched?_of_error hresult]
  | ok l' =>
      rw [launched?_of_ok hresult]
      by_cases hfit : l'.entry.step < l'.simulation.steps.length
      · simp only [hfit, if_true, Option.some.injEq, Except.ok.injEq]
        constructor
        · rintro rfl
          exact ⟨rfl, hfit⟩
        · exact And.left
      · simp only [hfit, if_false, Except.ok.injEq]
        constructor
        · intro h
          cases h
        · rintro ⟨rfl, hfit'⟩
          exact absurd hfit' hfit

/-- A launch fails and leaves a cleared session, or makes what it launched
current and looks the stored breakpoints up in it. -/
theorem launch_cases (c : Launch.Collaborators ω σ) (s : Session σ)
    (a : LaunchArguments) :
    (exists e,
      launched? c a = none ∧ (launch c s a).result = .error e ∧
        (launch c s a).session = s.clear) ∨
      exists l after,
        launched? c a = some l ∧
          s.clear.install l.debugger l.simulation l.entry = .ok after ∧
          (launch c s a).result = .ok .launched ∧
          (launch c s a).session = after.registerStored := by
  cases hresult : (Launch.launch c a).result with
  | error e =>
      left
      refine ⟨e, launched?_of_error hresult, ?_, ?_⟩
      · simp only [launch, hresult]
      · simp only [launch, hresult]
  | ok l =>
      cases hinstall : s.clear.install l.debugger l.simulation l.entry with
      | error e =>
          left
          have hfailed : launched? c a = none := by
            rw [launched?_of_ok hresult, if_neg]
            intro hfit
            rw [Session.install_eq_ok_iff.mpr ⟨hfit, rfl⟩] at hinstall
            cases hinstall
          refine ⟨e, hfailed, ?_, ?_⟩
          · simp only [launch, hresult, hinstall]
          · simp only [launch, hresult, hinstall]
      | ok after =>
          right
          have hfit := (Session.install_eq_ok_iff.mp hinstall).1
          have hlaunched := launched?_eq_some_iff.mpr ⟨hresult, hfit⟩
          refine ⟨l, after, hlaunched, hinstall, ?_, ?_⟩
          · simp only [launch, hresult, hinstall]
          · simp only [launch, hresult, hinstall]

/-!
## Commands
-/

theorem handle_of_command (command : Command) {r : Request}
    (h : r.command = command.name) (c : Launch.Collaborators ω σ)
    (s : Session σ) : handle c s r = handleCommand c s r command := by
  unfold handle
  rw [h, Command.ofName?_name]

theorem handle_of_resume {r : Request} {a : ContinueArguments}
    (hcommand : r.command = "continue")
    (hgood : arguments ContinueArguments.decode {} r = .ok a)
    (c : Launch.Collaborators ω σ) (s : Session σ) : handle c s r = resume s := by
  rw [handle_of_command .resume hcommand]
  exact withArguments_of_ok hgood s fun _ => resume s

end Adapter
end TraceAdapter
