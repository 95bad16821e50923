/-!
# Source maps

A source map takes program counters to places in source files and back.
-/

namespace TraceAdapter

structure SourceOffset where
  path : String
  offset : Nat
  deriving DecidableEq, Repr

/-- A source map.  Lines and columns are counted from one. -/
structure SourceMap where
  place? : Nat -> Option SourceOffset
  lineColumn? : String -> Nat -> Option (Nat × Nat)
  pcsOnLine : String -> Nat -> List Nat

namespace SourceMap

def line? (map : SourceMap) (pc : Nat) : Option (String × Nat) :=
  match map.place? pc with
  | none => none
  | some place =>
      match map.lineColumn? place.path place.offset with
      | none => none
      | some position => some (place.path, position.1)

end SourceMap

inductive Storage where
  | stack
  | memory
  | storage
  deriving DecidableEq, Repr

namespace Storage

def name : Storage -> String
  | stack => "stack"
  | memory => "memory"
  | storage => "storage"

def known : List (String × Storage) :=
  [stack, memory, storage].map fun k => (k.name, k)

end Storage

structure VariableLocation where
  name : String
  typeName : String
  kind : Storage
  offset : Nat
  deriving DecidableEq, Repr

end TraceAdapter
