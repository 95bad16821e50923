import TraceAdapter.Text.Numeral

/-!
# Breakpoint descriptors

A breakpoint is asked for by a line of a file or by the name of a function.
-/

namespace TraceAdapter
namespace Breakpoint

inductive Descriptor where
  | line (path : String) (line : Nat)
  | function (name : String)
  deriving DecidableEq, Repr

def Descriptor.display : Descriptor -> String
  | .line path n => path ++ ":" ++ Numeral.decimal n
  | .function name => name

/-- The program counter that a name stands for when it is a number. -/
def rawPc? (name : String) : Option Nat := Numeral.natural64? name

end Breakpoint
end TraceAdapter
