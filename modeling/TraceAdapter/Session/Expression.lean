import TraceAdapter.Session.Basic
import TraceAdapter.Text.Blank

/-!
# Expressions

The only expression with a value is an entry of the stack, by its position
from the start or, when negative, from the end.
-/

namespace TraceAdapter

inductive Expression where
  | stackEntry (index : Int)
  | unknown
  deriving DecidableEq, Repr

namespace Expression

/-- Read an expression.  Only a bracketed text that is no index is refused. -/
def read (text : String) : Except Error Expression :=
  match (Text.afterStart? "stack[" (Text.trim text)).bind (Text.beforeEnd? "]") with
  | none => .ok .unknown
  | some inner =>
      match Numeral.integer64? (Text.trim inner) with
      | some index => .ok (.stackEntry index)
      | none => .error (.invalidExpression inner)

def notAvailable : String := "n/a"

/-- The position from the start that an index stands for.  A negative index is added to
the length of the list, as integers of sixty-four bits in a sum that is not checked; a
length without such an integer has no positions from the end. -/
def position? (index : Int) (length : Nat) : Option Int :=
  if index < 0 then
    if length < Numeral.signedBound64 then
      some (Int.bmod (length + index) Numeral.bound64)
    else none
  else some index

def entry (stack : List Evm.Word) (index : Int) : Except Error Evm.Word :=
  match ((position? index stack.length).bind Int.toNat?).bind (stack[·]?) with
  | some word => .ok word
  | none => .error (.stackIndexOutOfRange index stack.length)

def evaluate (step : Step) : Expression -> Except Error String
  | .unknown => .ok notAvailable
  | .stackEntry index => (entry step.stack index).map Evm.Word.display

end Expression

namespace Session

/-- The value of an expression in a session.  Without a step none has a
meaning. -/
def evaluate {σ : Type} (s : Session σ) (text : String) : Except Error String :=
  match s.step? with
  | none => .ok Expression.notAvailable
  | some step =>
      match Expression.read text with
      | .error e => .error e
      | .ok expression => expression.evaluate step

end Session

end TraceAdapter
