import TraceAdapter.Proofs.Adapter.Handlers
import TraceAdapter.Proofs.Launch.Determinism

/-!
# What launches do beside the session

A launch calls, prints and answers whatever the session before it was.
-/

namespace TraceAdapter
namespace Adapter

open Protocol (LaunchArguments)

variable {ω σ : Type} [Debugger σ]

theorem launch_does (c : Launch.Collaborators ω σ) (s : Session σ)
    (a : LaunchArguments) :
    (launch c s a).calls = (Launch.launch c a).calls ∧
      (launch c s a).printed = (Launch.launch c a).printed ∧
      (launch c s a).world? = (Launch.launch c a).world? := by
  unfold launch
  dsimp only
  cases (Launch.launch c a).result with
  | error e => exact ⟨rfl, rfl, rfl⟩
  | ok l =>
      dsimp only
      cases s.clear.install l.debugger l.simulation l.entry with
      | error e => exact ⟨rfl, rfl, rfl⟩
      | ok after => exact ⟨rfl, rfl, rfl⟩

theorem launch_result (c : Launch.Collaborators ω σ) (s : Session σ)
    (a : LaunchArguments) :
    (launch c s a).result =
      match (Launch.launch c a).result with
      | .error e => .error e
      | .ok l =>
          if l.entry.step < l.simulation.steps.length then .ok .launched
          else .error (.stepOutOfRange l.entry.step l.simulation.steps.length) := by
  unfold launch
  dsimp only
  cases (Launch.launch c a).result with
  | error e => rfl
  | ok l =>
      dsimp only
      unfold Session.install
      by_cases hfit : l.entry.step < l.simulation.steps.length
      · rw [if_pos hfit, if_pos hfit]
      · rw [if_neg hfit, if_neg hfit]

end Adapter
end TraceAdapter
