import TraceAdapter.Deploy.Tool
import TraceAdapter.Proofs.Launch.Searching
import TraceAdapter.Recording.Replay

/-!
# What a launch depends on

A launch asks its collaborators and nobody else.  When these are deterministic it
does not matter in which world they are found.  A launch that asks nobody fails
for the way in which it is set up, and no launch complains about the arguments of
its request unless a collaborator does.
-/

namespace TraceAdapter
namespace Launch

open Protocol (LaunchArguments)

variable {ω σ : Type}

/-- Two launches came to the same, the worlds apart that they left. -/
structure Outcome.Same (o o' : Outcome ω σ) : Prop where
  calls : o.calls = o'.calls
  printed : o.printed = o'.printed
  result : o.result = o'.result

theorem Outcome.Same.refl (o : Outcome ω σ) : o.Same o := ⟨rfl, rfl, rfl⟩

namespace Collaborators

/-- What collaborators answer depends on what they are asked, and not on what they
find around them. -/
structure Deterministic (c : Collaborators ω σ) : Prop where
  create : forall world world' target,
    c.create world target = c.create world' target
  deploy : forall deploy, c.deploy? = some deploy ->
    forall world world' request, (deploy world request).1 = (deploy world' request).1

@[simp] theorem after_none (c : Collaborators ω σ) : c.after none = c := rfl

theorem exists_after_after (c : Collaborators ω σ) (found later : Option ω) :
    exists last, (c.after found).after later = c.after last := by
  cases later with
  | none => exact ⟨found, rfl⟩
  | some world => exact ⟨some world, rfl⟩

variable {c : Collaborators ω σ}

theorem Deterministic.findTarget_eq (h : c.Deterministic) (found found' : Option ω)
    (a : LaunchArguments) :
    (findTarget (c.after found) a).calls = (findTarget (c.after found') a).calls ∧
      (findTarget (c.after found) a).target =
        (findTarget (c.after found') a).target := by
  unfold findTarget after
  cases Addressing.ofArguments a with
  | missing => exact ⟨rfl, rfl⟩
  | attach address dir => exact ⟨rfl, rfl⟩
  | deploy file =>
      cases hdeploy : c.deploy? with
      | none => exact ⟨rfl, rfl⟩
      | some deploy =>
          dsimp only
          cases deployRequest c.defaults a file with
          | error e => exact ⟨rfl, rfl⟩
          | ok request =>
              refine ⟨rfl, ?_⟩
              show (deploy _ request).1.map _ = (deploy _ request).1.map _
              rw [h.deploy deploy hdeploy (found.getD c.world) (found'.getD c.world)]

variable [Debugger σ]

theorem Deterministic.launch_same (h : c.Deterministic) (found found' : Option ω)
    (a : LaunchArguments) :
    (launch (c.after found) a).Same (launch (c.after found') a) := by
  rcases h.findTarget_eq found found' a with ⟨hcalls, htarget⟩
  unfold launch
  dsimp only
  rw [hcalls, htarget]
  cases (findTarget (c.after found') a).target with
  | error e => exact ⟨rfl, rfl, rfl⟩
  | ok target =>
      have hcreate (world : ω) :
          (c.after found).create world target = c.create c.world target :=
        h.create world c.world target
      have hcreate' (world : ω) :
          (c.after found').create world target = c.create c.world target :=
        h.create world c.world target
      dsimp only
      rw [hcreate, hcreate']
      cases c.create c.world target with
      | error e => exact ⟨rfl, rfl, rfl⟩
      | ok debugger => exact ⟨rfl, rfl, rfl⟩

end Collaborators

/-!
## Launches that ask nobody
-/

theorem findTarget_error {c : Collaborators ω σ} {a : LaunchArguments} {e : Error}
    (hcalls : (findTarget c a).calls = []) (h : (findTarget c a).target = .error e) :
    exists cause, e = .launchConfig cause := by
  have hfound := findTarget_found c a
  generalize findTarget c a = search at hcalls h hfound
  cases hfound with
  | missing _ =>
      cases h
      exact ⟨_, rfl⟩
  | attached _ => cases h
  | helpless _ _ =>
      cases h
      exact ⟨_, rfl⟩
  | refused _ _ hrequest =>
      rcases deployRequest_eq_error_iff.mp hrequest with ⟨port, _, _, rfl⟩
      cases h
      exact ⟨_, rfl⟩
  | deployed _ _ _ => cases hcalls

theorem launch_of_calls_nil [Debugger σ] {c : Collaborators ω σ} {a : LaunchArguments}
    (h : (launch c a).calls = []) :
    exists cause, (launch c a).result = .error (.launchConfig cause) := by
  unfold launch at h ⊢
  dsimp only at h ⊢
  cases htarget : (findTarget c a).target with
  | error e =>
      rw [htarget] at h
      rcases findTarget_error h htarget with ⟨cause, rfl⟩
      exact ⟨cause, rfl⟩
  | ok target =>
      rw [htarget] at h
      dsimp only at h
      cases hcreate :
          c.create (c.after (findTarget c a).world?).world target with
      | error e =>
          rw [hcreate] at h
          simp at h
      | ok debugger =>
          rw [hcreate] at h
          simp at h

/-!
## Launches and the arguments of a request
-/

/-- Collaborators never fail for the arguments of a request, which they do not
see. -/
structure Collaborators.NeverRefuse (c : Collaborators ω σ) : Prop where
  create : forall world target command cause,
    c.create world target ≠ .error (.invalidArguments command cause)
  deploy : forall deploy, c.deploy? = some deploy ->
    forall world request command cause,
      (deploy world request).1 ≠ .error (.invalidArguments command cause)

theorem ofFiles_ne_refused (files : Files) (target : Target) (command : String)
    (cause : Json.DecodeError) :
    Replay.ofFiles files target ≠ .error (.invalidArguments command cause) := by
  unfold Replay.ofFiles
  dsimp only
  cases files.readText (Path.join target.ethdebugDir Replay.traceFile) with
  | error e => nofun
  | ok content =>
      dsimp only
      cases Json.read Recording.decode content with
      | error e => nofun
      | ok recording => nofun

theorem deployWith_ne_refused (run : Process.Starter) (tool : DeployTool) (files : Files)
    (request : DeployRequest) (command : String) (cause : Json.DecodeError) :
    (tool.deployWith run files request).1 ≠ .error (.invalidArguments command cause) := by
  unfold DeployTool.deployWith
  cases Process.start run files tool.program (tool.commandLine request) with
  | error e => nofun
  | ok ended =>
      show (tool.report ended).mapError Error.deploy ≠ _
      cases tool.report ended with
      | error e => nofun
      | ok deployment => nofun

/-- Recordings and deploy tools never do, however the programs of the tools are run. -/
theorem Collaborators.neverRefuse_of_recordings {c : Collaborators Files Replay}
    (hcreate : c.create = Replay.ofFiles)
    (hdeploy : forall deploy, c.deploy? = some deploy ->
      exists run tool, deploy = DeployTool.deployWith run tool) : c.NeverRefuse := by
  constructor
  · intro world target command cause
    rw [hcreate]
    exact ofFiles_ne_refused world target command cause
  · intro deploy hsome world request command cause
    rcases hdeploy deploy hsome with ⟨run, tool, rfl⟩
    exact deployWith_ne_refused run tool world request command cause

/-- An error that is not some other is not it as the error of another result
either. -/
theorem error_ne_error {α β : Type} {e fault : Error}
    (h : (Except.error e : Except Error α) ≠ .error fault) :
    (Except.error e : Except Error β) ≠ .error fault := by
  intro heq
  apply h
  rw [Except.error.inj heq]

theorem findTarget_ne_refused {c : Collaborators ω σ} (h : c.NeverRefuse)
    (a : LaunchArguments) (command : String) (cause : Json.DecodeError) :
    (findTarget c a).target ≠ .error (.invalidArguments command cause) := by
  have hfound := findTarget_found c a
  generalize findTarget c a = search at hfound
  cases hfound with
  | missing _ => simp
  | attached _ => simp
  | helpless _ _ => simp
  | refused _ _ hrequest =>
      rcases deployRequest_eq_error_iff.mp hrequest with ⟨port, _, _, rfl⟩
      simp
  | @deployed _ deploy request _ hdeploy _ =>
      have hrefuse := h.deploy deploy hdeploy c.world request command cause
      show (deploy c.world request).1.map _ ≠ _
      cases hdeployed : (deploy c.world request).1 with
      | error e =>
          rw [hdeployed] at hrefuse
          exact error_ne_error hrefuse
      | ok deployed => simp [Except.map]

theorem simulationError_eq (e : Error) :
    exists text, simulationError e = .simulation text := by
  cases e <;> exact ⟨_, rfl⟩

variable [Debugger σ]

theorem start_error {debugger : σ} {target : Target} {snapshot : Bool} {e : Error}
    (h : (start debugger target snapshot).2 = .error e) :
    exists text, e = .simulation text := by
  unfold start checkRun at h
  dsimp only at h
  split at h
  · cases h
    exact simulationError_eq _
  · split at h
    · cases h
      exact simulationError_eq _
    · cases h

theorem launch_ne_refused {c : Collaborators ω σ} (h : c.NeverRefuse)
    (a : LaunchArguments) (command : String) (cause : Json.DecodeError) :
    (launch c a).result ≠ .error (.invalidArguments command cause) := by
  have htarget := findTarget_ne_refused h a command cause
  unfold launch
  dsimp only
  cases hfound : (findTarget c a).target with
  | error e =>
      rw [hfound] at htarget
      exact error_ne_error htarget
  | ok target =>
      have hrefuse := h.create (c.after (findTarget c a).world?).world target command cause
      dsimp only
      cases hcreate : c.create (c.after (findTarget c a).world?).world target with
      | error e =>
          rw [hcreate] at hrefuse
          exact error_ne_error hrefuse
      | ok debugger =>
          intro heq
          rcases start_error heq with ⟨text, htext⟩
          cases htext

end Launch
end TraceAdapter
