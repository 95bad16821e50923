import TraceAdapter.Evm.Decoding
import TraceAdapter.Host.Path
import TraceAdapter.Protocol.Body
import TraceAdapter.Session.Basic

/-!
# What a session shows

A session shows one frame and three scopes: the variables of the source, the
stack of the machine and its storage.  Scopes are known by fixed references,
and no variable has parts.
-/

namespace TraceAdapter
namespace Session

open Protocol (StackFrame Scope Variable)

variable {σ : Type} [Debugger σ]

/-- The only thread. -/
def threadId : Int := 1

/-- The only frame. -/
def frameId : Int := 1

def localsReference : Int := 1001

def stackReference : Int := 1002

def storageReference : Int := 1003

def unavailable : String := "<unavailable>"

/-!
## The frame
-/

/-- The source of a step with its line and column.  What is not known is left
open, and the position is then the start. -/
def position (s : Session σ) (step : Step) : Protocol.Source × Nat × Nat :=
  match s.sourceMap? with
  | none => ({}, 1, 1)
  | some map =>
      match map.place? step.pc with
      | none => ({}, 1, 1)
      | some place =>
          let source : Protocol.Source :=
            { name := Path.fileName? place.path, path := some place.path }
          (source, (map.lineColumn? place.path place.offset).getD (1, 1))

/-- The name of the frame: that of the current call, else the counter. -/
def frameName (s : Session σ) (step : Step) : String :=
  match s.currentFunction? with
  | some f => f.name
  | none => "pc:" ++ Numeral.decimal step.pc

def frames (s : Session σ) : List StackFrame :=
  match s.step? with
  | none => []
  | some step =>
      let (source, line, column) := s.position step
      [⟨frameId, s.frameName step, source, line, column⟩]

def scopes : List Scope :=
  [⟨"Locals", localsReference, false⟩, ⟨"Stack", stackReference, false⟩,
    ⟨"Storage", storageReference, false⟩]

/-!
## Variables
-/

def machineVariable (name value : String) : Variable :=
  ⟨name, value, none, 0⟩

def value? (step : Step) (v : VariableLocation) : Option String :=
  let t := Evm.TypeName.ofName v.typeName
  match v.kind with
  | .stack => (step.stack[v.offset]?).map (Evm.showWord t)
  | .memory => step.memory.bind fun m => Evm.showMemory t m v.offset
  | .storage => step.storage.bind fun m => Evm.showStorage t m v.offset

def locals (debugger : σ) (step : Step) : List Variable :=
  match Debugger.variables? debugger with
  | none => []
  | some variablesAt =>
      (variablesAt step.pc).map fun v =>
        ⟨v.name, (value? step v).getD unavailable, some v.typeName, 0⟩

def stackName (index : Nat) : String := "stack[" ++ Numeral.decimal index ++ "]"

def stackVariables (step : Step) : List Variable :=
  step.stack.zipIdx.map fun e => machineVariable (stackName e.2) e.1.display

/-- Whether one slot does not come after another: those without a number come
first, then numbers in their order. -/
def slotBefore (a b : Option (BitVec 256)) : Bool :=
  match a, b with
  | none, _ => true
  | some _, none => false
  | some x, some y => x ≤ y

def sortSlots (storage : List (String × String)) : List (String × String) :=
  storage.mergeSort fun a b =>
    slotBefore (Evm.Word.ofHex a.1).value? (Evm.Word.ofHex b.1).value?

def storageVariables (step : Step) : List Variable :=
  (sortSlots (step.storage.getD [])).map fun e =>
    machineVariable e.1 (Evm.Word.ofHex e.2).display

def variablesBehind (s : Session σ) (reference : Int) : List Variable :=
  match s.step?, s.debugger? with
  | some step, some debugger =>
      if reference = localsReference then locals debugger step
      else if reference = stackReference then stackVariables step
      else if reference = storageReference then storageVariables step
      else []
  | _, _ => []

end Session
end TraceAdapter
