import TraceAdapter.Host.Files

/-!
# Processes that have ended

How a program is run among files is a matter of the machine.  Whoever runs one is given
the way in which that is done.
-/

namespace TraceAdapter

inductive ExitFault where
  | status (code : Nat)
  | signal (number : Nat) (name : String)
  deriving DecidableEq, Repr

def ExitFault.message : ExitFault -> String
  | status code => s!"exit status: {code}"
  | signal number name => s!"signal: {number} ({name})"

/-- A process that has ended: what it wrote, what it complained about, the
files that it left, and how it ended when it did not succeed. -/
structure Ended where
  output : List UInt8 := []
  complaint : List UInt8 := []
  files : Files := {}
  fault? : Option ExitFault := none
  deriving Repr

namespace Process

abbrev Starter := Files -> String -> List String -> Except OsError Ended

def hasZero (s : String) : Bool := s.toList.any (· = Char.ofNat 0)

/-- Start a program and let it end.  A bare name stands for no program. -/
def start (run : Starter) (files : Files) (program : String) (words : List String) :
    Except OsError Ended :=
  if (program :: words).any hasZero then .error .zeroInWord
  else if ! program.toList.contains '/' then .error .notFound
  else run files program words

end Process

end TraceAdapter
