import TraceAdapter.Breakpoint.Descriptor
import TraceAdapter.Breakpoint.Keyed

/-!
# The breakpoint store

The store keeps what the client asked for in each source and the program
counters that were found for it.  A batch replaces all that is kept for its
source.  The debuggee stops at the counters of all sources together, which are
gathered anew after each change.
-/

namespace TraceAdapter
namespace Breakpoint

structure Store where
  asked : List (String × List Descriptor) := []
  found : List (String × List Nat) := []
  pcs : List Nat := []
  deriving DecidableEq, Repr

namespace Store

def foundIn (store : Store) (path : String) : List Nat :=
  (Keyed.get? path store.found).getD []

def rebuild (store : Store) : Store :=
  { store with pcs := store.found.flatMap Prod.snd }

def replace (store : Store) (path : String) (batch : List Descriptor) : Store :=
  rebuild
    { store with
      asked := Keyed.put path batch store.asked
      found := Keyed.drop path store.found }

def register (store : Store) (path : String) (pcs : List Nat) : Store :=
  rebuild
    { store with found := Keyed.put path (store.foundIn path ++ pcs) store.found }

def forgetFound (store : Store) : Store := rebuild { store with found := [] }

def requests (store : Store) (path : String) : List Descriptor :=
  (Keyed.get? path store.asked).getD []

def paths (store : Store) : List String :=
  (store.asked.filter fun p => ! p.2.isEmpty).map Prod.fst

def stopsAt (store : Store) (pc : Nat) : Bool := store.pcs.contains pc

theorem requests_replace_self (store : Store) (path : String)
    (batch : List Descriptor) : (store.replace path batch).requests path = batch := by
  simp [replace, rebuild, requests, Keyed.get?_put_self]

theorem requests_replace_of_ne {path other : String} (h : other ≠ path)
    (store : Store) (batch : List Descriptor) :
    (store.replace path batch).requests other = store.requests other := by
  simp [replace, rebuild, requests, Keyed.get?_put_of_ne h]

end Store

end Breakpoint
end TraceAdapter
