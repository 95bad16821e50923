import TraceAdapter.Proofs.Launch.Searching

/-!
# Whom a launch asks

A launch asks for at most one deployment and then for at most one debugger.  Which of
the two it asks for is decided by the way in which it names its contract, by what there
is to deploy with and by what comes of the deployment.
-/

namespace TraceAdapter
namespace Launch

open Protocol (LaunchArguments)
open Protocol.LaunchArguments (nonEmpty?)

variable {ω σ : Type}

/-!
## Ways to name a contract
-/

/-- A launch can deploy: it names a contract file, there is something to deploy with,
and the port of the fork has 16 bits if it is given. -/
def CanDeploy (c : Collaborators ω σ) (a : LaunchArguments) : Prop :=
  (nonEmpty? a.contractFile).isSome = true ∧ c.deploy?.isSome = true ∧
    forall port, a.forkPort = some port -> port < Numeral.bound16

/-- A launch attaches: it names an address and a directory and no contract file. -/
def Attaches (a : LaunchArguments) : Prop :=
  nonEmpty? a.contractFile = none ∧ (nonEmpty? a.contractAddress).isSome = true ∧
    (nonEmpty? a.ethdebugDir).isSome = true

/-- A deployment was asked for and made. -/
def Deployed (c : Collaborators ω σ) (request? : Option DeployRequest)
    (d : Deployment) : Prop :=
  exists deploy request,
    c.deploy? = some deploy ∧ request? = some request ∧
      (deploy c.world request).1 = .ok d

/-- The calls for perhaps a deployment and then perhaps a debugger. -/
def callsFor (request? : Option DeployRequest) (target? : Option Target) : List Call :=
  (request?.map Call.deploy).toList ++ (target?.map Call.create).toList

/-- What a launch asks for: a deployment just when it can deploy, and a debugger just
when a deployment was made or it attaches.  The target of the debugger is where the
contract was deployed, reached as the deployment says and else as the client says, or
it is where the client says. -/
structure Asks (c : Collaborators ω σ) (a : LaunchArguments)
    (request? : Option DeployRequest) (target? : Option Target) : Prop where
  deploys : request?.isSome = true ↔ CanDeploy c a
  creates : target?.isSome = true ↔ (exists d, Deployed c request? d) ∨ Attaches a
  deployed : forall target d, target? = some target -> Deployed c request? d ->
    target.contractAddress = d.contractAddress ∧ target.ethdebugDir = d.ethdebugDir ∧
      target.rpcUrl = (d.rpcUrl.or (nonEmpty? a.rpc)).getD c.defaults.rpc ∧
      target.abiPath = d.abiPath.or (nonEmpty? a.abiPath)
  attached : forall target, target? = some target -> Attaches a ->
    nonEmpty? a.contractAddress = some target.contractAddress ∧
      nonEmpty? a.ethdebugDir = some target.ethdebugDir ∧
      target.rpcUrl = (nonEmpty? a.rpc).getD c.defaults.rpc ∧
      target.abiPath = nonEmpty? a.abiPath

theorem not_canDeploy_of_attaches {c : Collaborators ω σ} {a : LaunchArguments}
    (h : Attaches a) : ¬ CanDeploy c a := by
  intro hdeploy
  have hfile := hdeploy.1
  rw [h.1] at hfile
  cases hfile

/-!
## The search for a target
-/

theorem ofArguments_eq_deploy_iff {a : LaunchArguments} {file : String} :
    Addressing.ofArguments a = .deploy file ↔ nonEmpty? a.contractFile = some file := by
  unfold Addressing.ofArguments
  cases nonEmpty? a.contractFile with
  | some other => simp
  | none =>
      cases nonEmpty? a.contractAddress with
      | none => simp
      | some address =>
          cases nonEmpty? a.ethdebugDir with
          | none => simp
          | some dir => simp

theorem ofArguments_eq_attach_iff {a : LaunchArguments} {address dir : String} :
    Addressing.ofArguments a = .attach address dir ↔
      nonEmpty? a.contractFile = none ∧ nonEmpty? a.contractAddress = some address ∧
        nonEmpty? a.ethdebugDir = some dir := by
  unfold Addressing.ofArguments
  cases nonEmpty? a.contractFile with
  | some file => simp
  | none =>
      cases nonEmpty? a.contractAddress with
      | none => simp
      | some other =>
          cases nonEmpty? a.ethdebugDir with
          | none => simp
          | some other => simp

theorem not_attaches_of_missing {a : LaunchArguments}
    (h : Addressing.ofArguments a = .missing) : ¬ Attaches a := by
  rintro ⟨hfile, haddress, hdir⟩
  rcases Option.isSome_iff_exists.mp haddress with ⟨address, haddress⟩
  rcases Option.isSome_iff_exists.mp hdir with ⟨dir, hdir⟩
  rw [ofArguments_eq_attach_iff.mpr ⟨hfile, haddress, hdir⟩] at h
  cases h

theorem not_attaches_of_deploy {a : LaunchArguments} {file : String}
    (h : Addressing.ofArguments a = .deploy file) : ¬ Attaches a := by
  intro hattach
  rw [ofArguments_eq_deploy_iff, hattach.1] at h
  cases h

theorem asks_nobody {c : Collaborators ω σ} {a : LaunchArguments}
    (hdeploy : ¬ CanDeploy c a) (hattach : ¬ Attaches a) : Asks c a none none where
  deploys := by
    constructor
    · intro h
      cases h
    · intro h
      exact absurd h hdeploy
  creates := by
    constructor
    · intro h
      cases h
    · rintro (⟨_, _, _, _, hrequest, _⟩ | h)
      · cases hrequest
      · exact absurd h hattach
  deployed := by
    intro target d h
    cases h
  attached := by
    intro target h
    cases h

theorem asks_to_attach (c : Collaborators ω σ) {a : LaunchArguments}
    {address dir : String} (h : Addressing.ofArguments a = .attach address dir) :
    Asks c a none (some (targetAt c.defaults a address dir)) := by
  rcases ofArguments_eq_attach_iff.mp h with ⟨hfile, haddress, hdir⟩
  have hattach : Attaches a :=
    ⟨hfile, Option.isSome_of_eq_some haddress, Option.isSome_of_eq_some hdir⟩
  constructor
  · constructor
    · intro hsome
      cases hsome
    · intro hdeploy
      exact absurd hdeploy (not_canDeploy_of_attaches hattach)
  · exact ⟨fun _ => Or.inr hattach, fun _ => rfl⟩
  · rintro target d _ ⟨_, _, _, hrequest, _⟩
    cases hrequest
  · intro target htarget _
    cases htarget
    exact ⟨haddress, hdir, rfl, rfl⟩

theorem asks_to_deploy {c : Collaborators ω σ} {a : LaunchArguments}
    (hcan : CanDeploy c a) {deploy : ω -> DeployRequest -> Except Error Deployment × ω}
    (hdeploy : c.deploy? = some deploy) (request : DeployRequest) :
    Asks c a (some request)
      ((deploy c.world request).1.map (targetOf c.defaults a)).toOption := by
  have hattach : ¬ Attaches a := fun h => not_canDeploy_of_attaches h hcan
  have hdeployed (d : Deployment) :
      Deployed c (some request) d ↔ (deploy c.world request).1 = .ok d := by
    constructor
    · rintro ⟨other, request', hother, hrequest, hok⟩
      cases hdeploy.symm.trans hother
      cases hrequest
      exact hok
    · intro hok
      exact ⟨deploy, request, hdeploy, rfl, hok⟩
  cases hresult : (deploy c.world request).1 with
  | error e =>
      constructor
      · exact ⟨fun _ => hcan, fun _ => rfl⟩
      · constructor
        · intro hsome
          cases hsome
        · rintro (⟨d, hd⟩ | h)
          · rw [hdeployed, hresult] at hd
            cases hd
          · exact absurd h hattach
      · intro target d htarget
        cases htarget
      · intro target htarget
        cases htarget
  | ok d =>
      constructor
      · exact ⟨fun _ => hcan, fun _ => rfl⟩
      · exact ⟨fun _ => Or.inl ⟨d, (hdeployed d).mpr hresult⟩, fun _ => rfl⟩
      · intro target d' htarget hd'
        rw [hdeployed, hresult] at hd'
        cases hd'
        cases htarget
        refine ⟨rfl, rfl, ?_, rfl⟩
        show d.rpcUrl.getD ((nonEmpty? a.rpc).getD c.defaults.rpc) = _
        rw [Option.getD_or]
      · intro target _ h
        exact absurd h hattach

theorem findTarget_asks (c : Collaborators ω σ) (a : LaunchArguments) :
    exists request?,
      (findTarget c a).calls = (request?.map Call.deploy).toList ∧
        Asks c a request? (findTarget c a).target.toOption := by
  have hfound := findTarget_found c a
  generalize findTarget c a = search at hfound
  cases hfound with
  | missing haddressing =>
      refine ⟨none, rfl, asks_nobody ?_ (not_attaches_of_missing haddressing)⟩
      rintro ⟨hfile, _, _⟩
      rcases Option.isSome_iff_exists.mp hfile with ⟨file, hfile⟩
      rw [ofArguments_eq_deploy_iff.mpr hfile] at haddressing
      cases haddressing
  | attached haddressing => exact ⟨none, rfl, asks_to_attach c haddressing⟩
  | helpless haddressing hdeploy =>
      refine ⟨none, rfl, asks_nobody ?_ (not_attaches_of_deploy haddressing)⟩
      rintro ⟨_, hsome, _⟩
      rw [hdeploy] at hsome
      cases hsome
  | refused haddressing _ hrequest =>
      rcases deployRequest_eq_error_iff.mp hrequest with ⟨port, hport, hlarge, _⟩
      refine ⟨none, rfl, asks_nobody ?_ (not_attaches_of_deploy haddressing)⟩
      rintro ⟨_, _, hfits⟩
      exact absurd (hfits port hport) (Nat.not_lt.mpr hlarge)
  | deployed haddressing hdeploy hrequest =>
      have hcan : CanDeploy c a :=
        ⟨Option.isSome_of_eq_some (ofArguments_eq_deploy_iff.mp haddressing),
          Option.isSome_of_eq_some hdeploy, fun _ => forkPort_lt_of_request hrequest⟩
      exact ⟨some _, rfl, asks_to_deploy hcan hdeploy _⟩

/-!
## Launches
-/

variable [Debugger σ]

theorem launch_calls (c : Collaborators ω σ) (a : LaunchArguments) :
    (launch c a).calls =
      (findTarget c a).calls ++
        ((findTarget c a).target.toOption.map Call.create).toList := by
  unfold launch
  dsimp only
  cases (findTarget c a).target with
  | error e => exact (List.append_nil _).symm
  | ok target =>
      dsimp only
      cases c.create (c.after (findTarget c a).world?).world target with
      | error e => rfl
      | ok debugger => rfl

theorem launch_asks (c : Collaborators ω σ) (a : LaunchArguments) :
    exists request? target?,
      (launch c a).calls = callsFor request? target? ∧ Asks c a request? target? := by
  rcases findTarget_asks c a with ⟨request?, hcalls, hasks⟩
  refine ⟨request?, _, ?_, hasks⟩
  rw [launch_calls, hcalls]
  rfl

/-- A launch that names a contract file does not look at the address and the directory
that it may name too. -/
theorem launch_of_file (c : Collaborators ω σ) {a : LaunchArguments}
    (h : (nonEmpty? a.contractFile).isSome = true) (address dir : Option String) :
    launch c { a with contractAddress := address, ethdebugDir := dir } = launch c a := by
  rcases Option.isSome_iff_exists.mp h with ⟨file, hfile⟩
  have hdeploy : Addressing.ofArguments a = .deploy file :=
    ofArguments_eq_deploy_iff.mpr hfile
  have hdeploy' : Addressing.ofArguments
      { a with contractAddress := address, ethdebugDir := dir } = .deploy file :=
    ofArguments_eq_deploy_iff.mpr hfile
  have hsearch : findTarget c { a with contractAddress := address, ethdebugDir := dir } =
      findTarget c a := by
    unfold findTarget
    rw [hdeploy, hdeploy']
    rfl
  unfold launch
  rw [hsearch]

/-- A launch that names no contract file does not look at the options of a fork. -/
theorem launch_without_file (c : Collaborators ω σ) {a : LaunchArguments}
    (h : nonEmpty? a.contractFile = none) (url : Option String) (block port : Option Nat)
    (reuse keep : Bool) :
    launch c { a with
        forkUrl := url, forkBlock := block, forkPort := port, reuseFork := reuse
        keepFork := keep } =
      launch c a := by
  have hsearch : findTarget c { a with
        forkUrl := url, forkBlock := block, forkPort := port, reuseFork := reuse
        keepFork := keep } =
      findTarget c a := by
    have hsame : Addressing.ofArguments { a with
          forkUrl := url, forkBlock := block, forkPort := port, reuseFork := reuse
          keepFork := keep } =
        Addressing.ofArguments a := rfl
    unfold findTarget
    rw [hsame]
    cases haddressing : Addressing.ofArguments a with
    | missing => rfl
    | attach address dir => rfl
    | deploy file =>
        rw [ofArguments_eq_deploy_iff.mp haddressing] at h
        cases h
  unfold launch
  rw [hsearch]

end Launch
end TraceAdapter
