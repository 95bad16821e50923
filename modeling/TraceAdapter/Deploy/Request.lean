import TraceAdapter.Json.Decoder

/-!
# Deployments

What is asked of a deploy tool and what it reports.
-/

namespace TraceAdapter

open Json

structure DeployRequest where
  contractFile : String
  rpcUrl : String
  constructorArgs : List Value
  forkUrl : Option String
  forkBlock : Option Nat
  forkPort : Nat
  reuseFork : Bool
  keepFork : Bool
  autoSnapshot : Bool
  deriving Repr

def DeployRequest.toJson (r : DeployRequest) : Value :=
  .object
    [("contractFile", .string r.contractFile), ("rpcUrl", .string r.rpcUrl),
      ("constructorArgs", .array r.constructorArgs),
      ("forkUrl", .orNull .string r.forkUrl),
      ("forkBlock", .orNull .nat r.forkBlock), ("forkPort", .nat r.forkPort),
      ("reuseFork", .bool r.reuseFork), ("keepFork", .bool r.keepFork),
      ("autoSnapshot", .bool r.autoSnapshot)]

/-- A deployed contract, with the node it was deployed to where that is not the one asked
for. -/
structure Deployment where
  contractAddress : String
  ethdebugDir : String
  abiPath : Option String
  rpcUrl : Option String
  deriving DecidableEq, Repr

namespace Deployment

def schema : Schema Deployment :=
  Deployment.mk <$> .required "contractAddress" Decoder.text
    <*> .required "ethdebugDir" Decoder.path
    <*> .optional "abiPath" Decoder.path
    <*> .optional "rpcUrl" Decoder.text

def decode : Decoder Deployment := schema.decode "Deployment"

def toJson (d : Deployment) : Value :=
  .object
    [("contractAddress", .string d.contractAddress),
      ("ethdebugDir", .string d.ethdebugDir),
      ("abiPath", .orNull .string d.abiPath),
      ("rpcUrl", .orNull .string d.rpcUrl)]

end Deployment

end TraceAdapter
