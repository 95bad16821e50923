import TraceAdapter.Text.Numeral

/-!
# Type names

What the name of a type says about how its values are shown.
-/

namespace TraceAdapter
namespace Evm

inductive TypeName where
  | unsigned (bits : Nat)
  | signed (bits : Nat)
  | address
  | bool
  | string
  | fixedBytes (size : Nat)
  | bytes
  | other
  deriving DecidableEq, Repr

namespace TypeName

def wordSize : Nat := 32

/-- The width that follows the name of an integer family: a multiple of eight
up to 256, and 256 when nothing follows. -/
def width? (family name : String) : Option Nat :=
  match Text.afterStart? family name with
  | none => none
  | some rest =>
      if rest.isEmpty then some 256
      else
        match Numeral.natural? 10 Numeral.bound64 rest with
        | some n => if 0 < n ∧ n ≤ 256 ∧ n % 8 = 0 then some n else none
        | none => none

def byteCount? (name : String) : Option Nat :=
  match Text.afterStart? "bytes" name with
  | none => none
  | some rest =>
      match Numeral.natural? 10 Numeral.bound64 rest with
      | some n => if 1 ≤ n ∧ n ≤ wordSize then some n else none
      | none => none

def ofName (name : String) : TypeName :=
  match width? "uint" name with
  | some bits => .unsigned bits
  | none =>
      match width? "int" name with
      | some bits => .signed bits
      | none =>
          if name = "address" ∨ name = "address payable" then .address
          else if name = "bool" then .bool
          else if name = "string" then .string
          else if name = "bytes" ∨ name = "bytes[]" then .bytes
          else
            match byteCount? name with
            | some n => .fixedBytes n
            | none => .other

end TypeName

end Evm
end TraceAdapter
