import TraceAdapter.Session.Basic
import TraceAdapter.Text.Blank

/-!
# The first stop

A launch stops first at the entry of the function that was asked for.  When
that is not found it stops at the second call, since the first is usually the
dispatcher, or at the only one.
-/

namespace TraceAdapter
namespace EntryPoint

/-- Whether a call is the one asked for, by its full name or by the part of it
before the parameters. -/
def isTarget (target : String) (f : Invocation) : Bool :=
  ! target.isEmpty && (f.name == target || f.name == Text.before '(' target)

def position (functions : List Invocation) (target : String) : Nat :=
  (functions.findIdx? (isTarget target)).getD (if functions.length > 1 then 1 else 0)

def find (functions : Option (List Invocation)) (target : String) : EntryPoint :=
  let calls := functions.getD []
  let index := position calls target
  match calls[index]? with
  | some f => ⟨f.entryStep, some index⟩
  | none => ⟨0, none⟩

end EntryPoint
end TraceAdapter
