import TraceAdapter.Proofs.Adapter.Outcomes
import TraceAdapter.Proofs.Adapter.Relaunching
import TraceAdapter.Proofs.Launch.Asking

/-!
# Who is asked in a run

Among all requests it is the launches with good arguments that ask for deployments
and debuggers.  Each asks for what its own arguments say, wherever in a run it
comes.
-/

namespace TraceAdapter
namespace Adapter

open Launch (Call Asks callsFor)
open Protocol (Request LaunchArguments)
open Protocol.LaunchArguments (nonEmpty?)

variable {ω σ : Type}

/-!
## Requests that launch
-/

theorem launchArguments?_of_other {r : Request} (h : r.command ≠ "launch") :
    launchArguments? r = none := by
  apply launchArguments?_eq_none
  intro hcommand
  exact h (Command.name_of_ofName? hcommand).symm

variable [Debugger σ]

theorem launch_of_same_outcome {c : Launch.Collaborators ω σ} {a a' : LaunchArguments}
    (h : Launch.launch c a' = Launch.launch c a) (s : Session σ) :
    launch c s a' = launch c s a := by
  unfold launch
  rw [h]

theorem handle_launch_object (c : Launch.Collaborators ω σ) (s : Session σ) (seq : Nat)
    (entries : List (String × Json.Value)) :
    handle c s ⟨seq, "launch", some (.object entries)⟩ =
      match Json.ofValue LaunchArguments.decode (.object entries) with
      | .error e => observe s (.error (.invalidArguments "launch" e))
      | .ok a => launch c s a := by
  have hhandle : handle c s ⟨seq, "launch", some (.object entries)⟩ =
      withArguments LaunchArguments.decode {} s
        ⟨seq, "launch", some (.object entries)⟩ (launch c s) := rfl
  rw [hhandle]
  unfold withArguments arguments
  dsimp only
  cases Json.ofValue LaunchArguments.decode (.object entries) with
  | error e => rfl
  | ok a => rfl

/-- Handling a request asks for a deployment and a debugger only to launch.  Then it
asks for what the arguments say, and what they say beside the way of finding the
contract that counts makes no difference. -/
structure AsksToLaunch (c : Launch.Collaborators ω σ) (s : Session σ) (r : Request)
    (h : Handled ω σ) : Prop where
  otherwise : r.command ≠ "launch" -> h.calls = []
  refused : launchArguments? r = none -> h.calls = []
  asks : forall a, launchArguments? r = some a ->
    exists request? target?,
      h.calls = callsFor request? target? ∧ Asks c a request? target?
  deploying : forall a, launchArguments? r = some a ->
    (nonEmpty? a.contractFile).isSome = true ->
    forall r' address dir,
      launchArguments? r' =
        some { a with contractAddress := address, ethdebugDir := dir } ->
      handle c s r' = h
  attaching : forall a, launchArguments? r = some a ->
    nonEmpty? a.contractFile = none ->
    (forall request, Call.deploy request ∉ h.calls) ∧
      forall r' url block port reuse keep,
        launchArguments? r' =
          some { a with
            forkUrl := url, forkBlock := block, forkPort := port, reuseFork := reuse
            keepFork := keep } ->
        handle c s r' = h

theorem deploy_not_mem_calls {c : Launch.Collaborators ω σ} {a : LaunchArguments}
    (h : nonEmpty? a.contractFile = none) (request : DeployRequest) :
    Call.deploy request ∉ (Launch.launch c a).calls := by
  rcases Launch.launch_asks c a with ⟨request?, target?, hcalls, hasks⟩
  rw [hcalls]
  cases request? with
  | some other =>
      have hfile := (hasks.deploys.mp rfl).1
      rw [h] at hfile
      cases hfile
  | none =>
      cases target? with
      | none => exact List.not_mem_nil
      | some target =>
          intro hmem
          cases List.mem_singleton.mp hmem

theorem handle_asksToLaunch (c : Launch.Collaborators ω σ) (s : Session σ)
    (r : Request) : AsksToLaunch c s r (handle c s r) where
  otherwise := fun h => (handle_comesTo c s r).calls (launchArguments?_of_other h)
  refused := fun h => (handle_comesTo c s r).calls h
  asks := by
    intro a ha
    rw [handle_of_launchArguments ha, (launch_does c s a).1]
    exact Launch.launch_asks c a
  deploying := by
    intro a ha hfile r' address dir ha'
    rw [handle_of_launchArguments ha, handle_of_launchArguments ha']
    exact launch_of_same_outcome (Launch.launch_of_file c hfile address dir) s
  attaching := by
    intro a ha hfile
    constructor
    · intro request
      rw [handle_of_launchArguments ha, (launch_does c s a).1]
      exact deploy_not_mem_calls hfile request
    · intro r' url block port reuse keep ha'
      rw [handle_of_launchArguments ha, handle_of_launchArguments ha']
      exact launch_of_same_outcome
        (Launch.launch_without_file c hfile url block port reuse keep) s

/-!
## Runs
-/

/-- In every run the requests that launch are the ones that ask for deployments and
debuggers, and each of them asks for what its arguments say. -/
theorem asks_only_to_launch (c : Launch.Collaborators ω σ) (s : Session σ)
    (requests : List Request) (i : Nat) (r : Request) (h : requests[i]? = some r) :
    exists (o : Occasion ω σ) (handled : Handled ω σ),
      (occasions c s requests)[i]? = some o ∧ o.request = r ∧
        (exists found, o.collaborators = c.after found) ∧
        (handleAll c s requests)[i]? = some handled ∧
        AsksToLaunch o.collaborators (sessionAfter c s (requests.take i)) r handled := by
  rcases getElem?_handleAll c s h with ⟨o, ho, hr, hfound, hhandled⟩
  exact ⟨o, _, ho, hr, hfound, hhandled, handle_asksToLaunch _ _ _⟩

namespace Sample

def deployers : Launch.Collaborators Nat Scripted where
  world := 0
  create := fun _ _ => .ok debugger
  deploy? := some fun count _ =>
    (.ok ⟨"0x0c", "out/token", none, some "http://localhost:9545"⟩, count + 1)

def deploying : Request where
  seq := 2
  command := "launch"
  arguments :=
    some <| .object
      [("contractFile", .string "Token.sol"), ("contractAddress", .string "0x01"),
        ("rpc", .string "http://localhost:8545"), ("abiPath", .string "Token.abi")]

end Sample

/-- A second launch deploys again, and the debugger is asked for where the contract
was deployed. -/
theorem asks_only_to_launch_again :
    exists (o : Occasion Nat Scripted) (handled : Handled Nat Scripted),
      [Sample.deploying, { seq := 3, command := "next" }, Sample.deploying][2]? =
          some Sample.deploying ∧
        o.collaborators.world = 1 ∧
        AsksToLaunch o.collaborators
          (sessionAfter Sample.deployers {}
            [Sample.deploying, { seq := 3, command := "next" }])
          Sample.deploying handled ∧
        exists request target,
          handled.calls = [.deploy request, .create target] ∧
            request.contractFile = "Token.sol" ∧ target.contractAddress = "0x0c" ∧
            target.rpcUrl = "http://localhost:9545" ∧ target.abiPath = some "Token.abi" := by
  rcases asks_only_to_launch Sample.deployers {}
      [Sample.deploying, { seq := 3, command := "next" }, Sample.deploying] 2
      Sample.deploying rfl with
    ⟨o, handled, ho, _, _, hhandled, hasks⟩
  cases ho
  cases hhandled
  exact ⟨_, _, rfl, rfl, hasks, _, _, rfl, rfl, rfl, rfl, rfl⟩

end Adapter
end TraceAdapter
