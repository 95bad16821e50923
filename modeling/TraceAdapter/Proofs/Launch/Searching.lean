import Mathlib.Tactic.ByContra
import TraceAdapter.Launch.Basic

/-!
# The search for a target

A search goes one of a few ways: the arguments name no contract, they name one that is
deployed, or they name a file.  A file is deployed if there is something to deploy with
and the request can be made.
-/

namespace TraceAdapter
namespace Launch

open Protocol (LaunchArguments)

variable {ω σ : Type}

inductive Found (c : Collaborators ω σ) (a : LaunchArguments) : Search ω -> Prop where
  | missing (haddressing : Addressing.ofArguments a = .missing) :
      Found c a { target := .error (.launchConfig .noTarget) }
  | attached {address dir : String} (haddressing : Addressing.ofArguments a = .attach address dir) :
      Found c a { target := .ok (targetAt c.defaults a address dir) }
  | helpless {file : String} (haddressing : Addressing.ofArguments a = .deploy file)
      (hdeploy : c.deploy? = none) :
      Found c a { target := .error (.launchConfig .noDeployCommand) }
  | refused {file : String} {deploy : ω -> DeployRequest -> Except Error Deployment × ω}
      {e : Error} (haddressing : Addressing.ofArguments a = .deploy file)
      (hdeploy : c.deploy? = some deploy) (hrequest : deployRequest c.defaults a file = .error e) :
      Found c a { target := .error e }
  | deployed {file : String} {deploy : ω -> DeployRequest -> Except Error Deployment × ω}
      {request : DeployRequest} (haddressing : Addressing.ofArguments a = .deploy file)
      (hdeploy : c.deploy? = some deploy)
      (hrequest : deployRequest c.defaults a file = .ok request) :
      Found c a
        { calls := [.deploy request]
          world? := some (deploy c.world request).2
          target := (deploy c.world request).1.map (targetOf c.defaults a) }

theorem findTarget_found (c : Collaborators ω σ) (a : LaunchArguments) :
    Found c a (findTarget c a) := by
  unfold findTarget
  cases haddressing : Addressing.ofArguments a with
  | missing => exact .missing haddressing
  | attach address dir => exact .attached haddressing
  | deploy file =>
      dsimp only
      cases hdeploy : c.deploy? with
      | none => exact .helpless haddressing hdeploy
      | some deploy =>
          dsimp only
          cases hrequest : deployRequest c.defaults a file with
          | error e => exact .refused haddressing hdeploy hrequest
          | ok request => exact .deployed haddressing hdeploy hrequest

/-- A request has the numbers of the arguments, and the port of the defaults where these
give none. -/
theorem deployRequest_ok {defaults : LaunchDefaults} {a : LaunchArguments} {file : String}
    {request : DeployRequest} (h : deployRequest defaults a file = .ok request) :
    request.forkBlock = a.forkBlock ∧ request.forkPort = a.forkPort.getD defaults.forkPort := by
  unfold deployRequest forkPort at h
  cases hport : a.forkPort with
  | none =>
      rw [hport] at h
      cases h
      exact ⟨rfl, rfl⟩
  | some port =>
      rw [hport] at h
      dsimp only at h
      by_cases hfits : port < Numeral.bound16
      · rw [if_pos hfits] at h
        cases h
        exact ⟨rfl, rfl⟩
      · rw [if_neg hfits] at h
        cases h

theorem deployRequest_eq_error_iff {defaults : LaunchDefaults} {a : LaunchArguments}
    {file : String} {e : Error} :
    deployRequest defaults a file = .error e ↔
      exists port, a.forkPort = some port ∧ Numeral.bound16 ≤ port ∧
        e = .launchConfig (.badForkPort port) := by
  unfold deployRequest forkPort
  cases a.forkPort with
  | none =>
      constructor
      · intro h
        cases h
      · rintro ⟨port, hport, _⟩
        cases hport
  | some given =>
      dsimp only
      by_cases hfits : given < Numeral.bound16
      · rw [if_pos hfits]
        constructor
        · intro h
          cases h
        · rintro ⟨port, hport, hlarge, _⟩
          cases hport
          exact absurd hfits (Nat.not_lt.mpr hlarge)
      · rw [if_neg hfits]
        constructor
        · intro h
          cases h
          exact ⟨given, rfl, Nat.not_lt.mp hfits, rfl⟩
        · rintro ⟨port, hport, _, rfl⟩
          cases hport
          rfl

theorem forkPort_lt_of_request {defaults : LaunchDefaults} {a : LaunchArguments} {file : String}
    {request : DeployRequest} (h : deployRequest defaults a file = .ok request) {port : Nat}
    (hport : a.forkPort = some port) : port < Numeral.bound16 := by
  by_contra hlarge
  have herror : deployRequest defaults a file = .error (.launchConfig (.badForkPort port)) :=
    deployRequest_eq_error_iff.mpr ⟨port, hport, Nat.not_lt.mp hlarge, rfl⟩
  rw [h] at herror
  cases herror

end Launch
end TraceAdapter
