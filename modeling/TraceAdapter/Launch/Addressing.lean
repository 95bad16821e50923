import TraceAdapter.Debugger.Basic
import TraceAdapter.Deploy.Request
import TraceAdapter.Launch.Defaults
import TraceAdapter.Protocol.LaunchArguments

/-!
# Addressing

A launch finds its contract by deploying a file or by the address and the
debug information of a contract that is deployed already.  The file wins when
both are given.
-/

namespace TraceAdapter

open Protocol (LaunchArguments)
open Protocol.LaunchArguments (nonEmpty?)

inductive Addressing where
  | deploy (file : String)
  | attach (address ethdebugDir : String)
  | missing
  deriving DecidableEq, Repr

namespace Addressing

def ofArguments (a : LaunchArguments) : Addressing :=
  match nonEmpty? a.contractFile with
  | some file => .deploy file
  | none =>
      match nonEmpty? a.contractAddress, nonEmpty? a.ethdebugDir with
      | some address, some dir => .attach address dir
      | _, _ => .missing

end Addressing

namespace Launch

inductive Call where
  | deploy (request : DeployRequest)
  | create (target : Target)
  deriving Repr

/-- What a launch can draw on.  `ω` is what collaborators find around them, and
what deployments change. -/
structure Collaborators (ω σ : Type) where
  world : ω
  create : ω -> Target -> Except Error σ
  deploy? : Option (ω -> DeployRequest -> Except Error Deployment × ω) := none
  defaults : LaunchDefaults := {}

/-- Collaborators after a deployment left another world, if there was one. -/
def Collaborators.after {ω σ : Type} (c : Collaborators ω σ) (world? : Option ω) :
    Collaborators ω σ :=
  { c with world := world?.getD c.world }

/-- What the search for a target did: what it asked of its collaborators, the world
that it left if it changed it, and the target. -/
structure Search (ω : Type) where
  calls : List Call := []
  world? : Option ω := none
  target : Except Error Target

def rpcUrl (defaults : LaunchDefaults) (a : LaunchArguments) : String :=
  (nonEmpty? a.rpc).getD defaults.rpc

def forkPort (defaults : LaunchDefaults) (a : LaunchArguments) :
    Except Error Nat :=
  match a.forkPort with
  | none => .ok defaults.forkPort
  | some port =>
      if port < Numeral.bound16 then .ok port
      else .error (.launchConfig (.badForkPort port))

def deployRequest (defaults : LaunchDefaults) (a : LaunchArguments)
    (file : String) : Except Error DeployRequest :=
  (forkPort defaults a).map fun port =>
    { contractFile := file
      rpcUrl := rpcUrl defaults a
      constructorArgs := a.constructorArgs
      forkUrl := nonEmpty? a.forkUrl
      forkBlock := a.forkBlock
      forkPort := port
      reuseFork := a.reuseFork
      keepFork := a.keepFork
      autoSnapshot := ! a.noSnapshot }

def targetAt (defaults : LaunchDefaults) (a : LaunchArguments)
    (address ethdebugDir : String) : Target where
  contractAddress := address
  ethdebugDir := ethdebugDir
  rpcUrl := rpcUrl defaults a
  functionName := a.functionName?.getD ""
  functionArgs := a.arguments
  abiPath := nonEmpty? a.abiPath

/-- The target in a contract that was just deployed.  What the deployment
reports wins over what the client gave. -/
def targetOf (defaults : LaunchDefaults) (a : LaunchArguments)
    (d : Deployment) : Target :=
  let asked := targetAt defaults a d.contractAddress d.ethdebugDir
  { asked with
    rpcUrl := d.rpcUrl.getD asked.rpcUrl
    abiPath := d.abiPath.or asked.abiPath }

/-- Find the target, deploying a contract where that is asked for. -/
def findTarget {ω σ : Type} (c : Collaborators ω σ) (a : LaunchArguments) : Search ω :=
  match Addressing.ofArguments a with
  | .missing => { target := .error (.launchConfig .noTarget) }
  | .attach address dir => { target := .ok (targetAt c.defaults a address dir) }
  | .deploy file =>
      match c.deploy? with
      | none => { target := .error (.launchConfig .noDeployCommand) }
      | some deploy =>
          match deployRequest c.defaults a file with
          | .error e => { target := .error e }
          | .ok request =>
              let (deployed, world) := deploy c.world request
              { calls := [.deploy request]
                world? := some world
                target := deployed.map (targetOf c.defaults a) }

end Launch

end TraceAdapter
