import TraceAdapter.Json.Decoder

/-!
# Arguments of a launch

A launch either deploys a contract file or attaches to a deployed contract by
its address and the directory of its debug information.  The target function
and its arguments have two spellings each, and the first one that is not empty
counts.
-/

namespace TraceAdapter
namespace Protocol

open Json

structure LaunchArguments where
  contractFile : Option String := none
  contractAddress : Option String := none
  ethdebugDir : Option String := none
  abiPath : Option String := none
  rpc : Option String := none
  constructorArgs : List Value := []
  forkUrl : Option String := none
  forkBlock : Option Nat := none
  forkPort : Option Nat := none
  reuseFork : Bool := false
  keepFork : Bool := false
  noSnapshot : Bool := false
  functionSignature : Option String := none
  function : Option String := none
  functionArgsSnake : Option (List Value) := none
  functionArgs : Option (List Value) := none
  deriving Repr

namespace LaunchArguments

/-- A number of 64 bits given as a number or as a text; a blank text and null
stand for none. -/
def numberOrText : Decoder (Option Nat) := fun o d =>
  match Decoder.option Decoder.value o d with
  | .error e => .error e
  | .ok none => .ok none
  | .ok (some (.number (.int i))) =>
      if 0 ≤ i ∧ i < Numeral.bound64 then .ok (some i.toNat)
      else .error (.notNatural (.int i))
  | .ok (some (.number n)) => .error (.notNatural n)
  | .ok (some (.string s)) =>
      let s := Text.trim s
      if s.isEmpty then .ok none
      else
        match Numeral.natural64? s with
        | some n => .ok (some n)
        | none => .error (.notInteger s!"'{s}'")
  | .ok (some v) => .error (.notInteger v.print)

def schema : Schema LaunchArguments :=
  LaunchArguments.mk <$> .optional "contractFile" Decoder.text
    <*> .optional "contractAddress" Decoder.text
    <*> .optional "ethdebugDir" Decoder.text
    <*> .optional "abiPath" Decoder.text
    <*> .optional "rpc" Decoder.text
    <*> .default "constructorArgs" (Decoder.list Decoder.value) []
    <*> .optional "forkUrl" Decoder.text
    <*> .default "forkBlock" numberOrText none
    <*> .default "forkPort" numberOrText none
    <*> .default "reuseFork" Decoder.bool false
    <*> .default "keepFork" Decoder.bool false
    <*> .default "noSnapshot" Decoder.bool false
    <*> .optional "function_signature" Decoder.text
    <*> .optional "function" Decoder.text
    <*> .optional "function_args" (Decoder.list Decoder.value)
    <*> .optional "functionArgs" (Decoder.list Decoder.value)

def decode : Decoder LaunchArguments := schema.decode "LaunchArguments"

/-- Write the arguments; absent ones are left out. -/
def toJson (a : LaunchArguments) : Value :=
  .object <|
    entry? "contractFile" .string a.contractFile ++
    entry? "contractAddress" .string a.contractAddress ++
    entry? "ethdebugDir" .string a.ethdebugDir ++
    entry? "abiPath" .string a.abiPath ++
    entry? "rpc" .string a.rpc ++
    (if a.constructorArgs.isEmpty then []
      else [("constructorArgs", .array a.constructorArgs)]) ++
    entry? "forkUrl" .string a.forkUrl ++
    entry? "forkBlock" .nat a.forkBlock ++
    entry? "forkPort" .nat a.forkPort ++
    [("reuseFork", .bool a.reuseFork), ("keepFork", .bool a.keepFork),
      ("noSnapshot", .bool a.noSnapshot)] ++
    entry? "function_signature" .string a.functionSignature ++
    entry? "function" .string a.function ++
    entry? "function_args" .array a.functionArgsSnake ++
    entry? "functionArgs" .array a.functionArgs

def nonEmpty? (s : Option String) : Option String :=
  s.filter fun s => ! s.isEmpty

def functionName? (a : LaunchArguments) : Option String :=
  (nonEmpty? a.functionSignature).or (nonEmpty? a.function)

def arguments (a : LaunchArguments) : List Value :=
  ((a.functionArgsSnake.filter fun l => ! l.isEmpty).or a.functionArgs).getD []

end LaunchArguments

end Protocol
end TraceAdapter
