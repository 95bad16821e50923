import TraceAdapter.Json.Decoder

/-!
# Words

A tracer writes a 256-bit word as a hexadecimal text or as a JSON integer.  A
text that is no such number is kept as it is.  The text of a number is lower
case after `0x` and has no zeros in front, so two texts stand for one number
exactly when the words made of them have the same text.
-/

namespace TraceAdapter
namespace Evm

inductive Word where
  | int (v : BitVec 256)
  | text (s : String)
  deriving DecidableEq, Repr

namespace Word

/-- The number that hexadecimal digits stand for, underscores being passed
over; none when it needs more than 256 bits. -/
def foldHex? : Nat -> List Char -> Option (BitVec 256)
  | n, [] => some (BitVec.ofNat 256 n)
  | n, '_' :: cs => foldHex? n cs
  | n, c :: cs =>
      match Numeral.digit? 16 c with
      | some d =>
          if n * 16 + d < Numeral.bound256 then foldHex? (n * 16 + d) cs else none
      | none => none

/-- The digits of a hexadecimal text, without one `0x` in front. -/
def hexDigits (s : String) : List Char :=
  match s.toList with
  | '0' :: 'x' :: cs => cs
  | cs => cs

def number? (s : String) : Option (BitVec 256) :=
  if (hexDigits s).isEmpty then none else foldHex? 0 (hexDigits s)

def ofHex (s : String) : Word :=
  match number? s with
  | some v => .int v
  | none => .text s

def value? : Word -> Option (BitVec 256)
  | .int v => some v
  | .text _ => none

def hexText (v : BitVec 256) : String := "0x" ++ Numeral.hex v.toNat

def display : Word -> String
  | .int v => hexText v
  | .text s => s

def toJson (w : Word) : Json.Value := .string w.display

def decode : Json.Decoder Word := fun o d =>
  match Json.Decoder.value o d with
  | .error e => .error e
  | .ok (.number (.int i)) =>
      if 0 ≤ i then .ok (.int (BitVec.ofNat 256 i.toNat))
      else .error (.noVariant "Raw")
  | .ok (.string s) => .ok (ofHex s)
  | .ok _ => .error (.noVariant "Raw")

end Word

end Evm
end TraceAdapter
