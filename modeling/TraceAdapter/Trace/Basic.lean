import TraceAdapter.Evm.Word

/-!
# Traces

A trace is the list of executed instructions of one transaction, with what
the machine held before each.  The calls that were recognised in it are kept
beside it as a list of invocations.
-/

namespace TraceAdapter

/-- One executed instruction.  Memory is hexadecimal text; storage is slot and word, both
hexadecimal text, sorted by the text of the slot. -/
structure Step where
  pc : Nat
  op : String
  stack : List Evm.Word := []
  memory : Option String := none
  storage : Option (List (String × String)) := none
  gas : Option Nat := none
  depth : Option Nat := none
  error : Option String := none
  deriving DecidableEq, Repr

structure Invocation where
  name : String
  entryStep : Nat
  /-- The last step of the call, none when it is open. -/
  exitStep : Option Nat
  deriving DecidableEq, Repr

/-- Whether a step lies in a call; an open call reaches to the end. -/
def Invocation.contains (f : Invocation) (index : Nat) : Bool :=
  f.entryStep ≤ index &&
    match f.exitStep with
    | some last => index ≤ last
    | none => true

structure Simulation where
  steps : List Step
  functions : Option (List Invocation)
  deriving DecidableEq, Repr

end TraceAdapter
