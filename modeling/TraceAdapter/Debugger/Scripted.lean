import TraceAdapter.Debugger.Basic

/-!
# Scripted debuggers

A scripted debugger has all its answers given in advance.  It runs as often as
asked and never changes.
-/

namespace TraceAdapter

/-- What a scripted debugger does when asked for an optional ability. -/
inductive Ability where
  | absent
  | works
  | fails (text : String)
  deriving DecidableEq, Repr

structure Scripted where
  steps : List Step := []
  functions : Option (List Invocation) := none
  /-- Places of instructions.  The offset of a place is its position here. -/
  places : Option (List (Nat × String × Option (Nat × Nat))) := none
  known : Option (List (VariableLocation × Option (Nat × Nat))) := none
  printed : List UInt8 := []
  failure : Option Error := none
  abi : Ability := .absent
  snapshots : Ability := .absent

namespace Scripted

def use (s : Scripted) (c : Capability) : Ability -> Except Error Scripted
  | .absent => .error (.unsupported c)
  | .works => .ok s
  | .fails text => .error (.backend text)

def run (s : Scripted) : Ran Scripted where
  printed := s.printed
  result :=
    match s.failure with
    | some e => .error e
    | none => .ok ⟨s.steps, s.functions⟩
  after := s

def mapOf (places : List (Nat × String × Option (Nat × Nat))) : SourceMap where
  place? := fun pc =>
    (places.zipIdx.find? fun p => p.1.1 == pc).map fun p => ⟨p.1.2.1, p.2⟩
  lineColumn? := fun _ offset => (places[offset]?).bind fun p => p.2.2
  pcsOnLine := fun path line =>
    (places.filter fun p => p.2.1 == path && p.2.2.any (·.1 = line)).map Prod.fst

def variablesAt (known : List (VariableLocation × Option (Nat × Nat)))
    (pc : Nat) : List VariableLocation :=
  (known.filter fun v => v.2.all fun r => r.1 ≤ pc && pc ≤ r.2).map Prod.fst

instance : Debugger Scripted where
  run := run
  sourceMap? := fun s => s.places.map mapOf
  variables? := fun s => s.known.map variablesAt
  loadAbi := fun s _ => s.use .abi s.abi
  snapshot := fun s => s.use .snapshots s.snapshots

end Scripted

end TraceAdapter
