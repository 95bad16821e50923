import TraceAdapter.Evm.Address
import TraceAdapter.Evm.TypeName
import TraceAdapter.Evm.Word

/-!
# Showing values by their type

A value on the stack is one word, a value in memory stands at a byte offset,
and a value in storage is the word of a slot.  Each is shown as its type says;
a place that holds no such value gives none.
-/

namespace TraceAdapter
namespace Evm

/-!
## Integers of a width

A number is computed with in words of 256 bits: a mask leaves its lowest bits, and
a negative number is shown by its distance from zero.
-/

def powerOfTwo (bits : Nat) : BitVec 256 := 1#256 <<< bits

def lowMask (bits : Nat) : BitVec 256 := powerOfTwo bits - 1#256

def lowBits (bits : Nat) (v : BitVec 256) : BitVec 256 :=
  if 256 ≤ bits then v else v &&& lowMask bits

def isNegative (bits : Nat) (low : BitVec 256) : Bool := low.getLsbD (bits - 1)

def magnitude (bits : Nat) (low : BitVec 256) : BitVec 256 :=
  if 256 ≤ bits then ~~~low + 1#256 else powerOfTwo bits - low

/-- The lowest `bits` bits of a word as a number without a sign. -/
def showUnsigned (bits : Nat) (v : BitVec 256) : String :=
  Numeral.decimal (lowBits bits v).toNat

/-- The lowest `bits` bits of a word as a number in two's complement. -/
def showSigned (bits : Nat) (v : BitVec 256) : String :=
  let low := lowBits bits v
  if isNegative bits low then "-" ++ Numeral.decimal (magnitude bits low).toNat
  else Numeral.decimal low.toNat

/-!
## Words
-/

def wordBytes (v : BitVec 256) : List UInt8 :=
  (List.range TypeName.wordSize).map fun i =>
    UInt8.ofNat (v.toNat / Nat.pow 2 (8 * (TypeName.wordSize - 1 - i)))

def wordOfBytes (bytes : List UInt8) : BitVec 256 :=
  BitVec.ofNat 256 (bytes.foldl (fun n b => n * 256 + b.toNat) 0)

def showNumber (t : TypeName) (v : BitVec 256) : String :=
  match t with
  | .unsigned bits => showUnsigned bits v
  | .signed bits => showSigned bits v
  | .address => Address.checksum (v.setWidth 160)
  | .bool => if v = 0 then "false" else "true"
  | .string => "<string at " ++ Word.hexText v ++ ">"
  | .fixedBytes n => "0x" ++ Numeral.hexOfBytes ((wordBytes v).take n)
  | .bytes | .other => Word.hexText v

/-- A word as its type shows it.  A word that is no number is shown as it
is. -/
def showWord (t : TypeName) : Word -> String
  | .int v => showNumber t v
  | .text s => s

/-!
## Memory
-/

def dropHexMarks : List Char -> List Char
  | '0' :: 'x' :: cs => dropHexMarks cs
  | cs => cs

/-- The hexadecimal digits of a memory text: every `0x` in front is dropped,
and one `0X` after them. -/
def memoryDigits (memory : String) : List Char :=
  match dropHexMarks memory.toList with
  | '0' :: 'X' :: cs => cs
  | cs => cs

def memoryBytes? (memory : String) : Option (List UInt8) :=
  Numeral.bytesOfHex? (memoryDigits memory)

/-- The sum of two sizes, none when it takes more than sixty-four bits. -/
def sizeSum? (a b : Nat) : Option Nat :=
  if a + b < Numeral.bound64 then some (a + b) else none

/-- The bytes from an offset on, none when they do not all exist. -/
def region? (memory : List UInt8) (offset size : Nat) : Option (List UInt8) :=
  match sizeSum? offset size with
  | none => none
  | some stop =>
      if stop ≤ memory.length then some ((memory.drop offset).take size) else none

/-- The offset behind a word, as a sum of sixty-four bits that is not checked. -/
def behindWord (offset : Nat) : Nat :=
  (offset + TypeName.wordSize) % Numeral.bound64

def counted? (memory : List UInt8) (offset : Nat) : Option (List UInt8) :=
  match region? memory offset TypeName.wordSize with
  | none => none
  | some length =>
      let size := (wordOfBytes length).toNat
      if size < Numeral.bound64 then region? memory (behindWord offset) size
      else none

def showMemoryAt (t : TypeName) (memory : List UInt8) (offset : Nat) :
    Option String :=
  match t with
  | .string => (counted? memory offset).map Utf8.lossy
  | .bytes =>
      (counted? memory offset).map fun data => "0x" ++ Numeral.hexOfBytes data
  | .fixedBytes n =>
      (region? memory offset n).map fun data => "0x" ++ Numeral.hexOfBytes data
  | _ =>
      (region? memory offset TypeName.wordSize).map fun data =>
        showNumber t (wordOfBytes data)

def showMemory (t : TypeName) (memory : String) (offset : Nat) : Option String :=
  match memoryBytes? memory with
  | none => none
  | some bytes => showMemoryAt t bytes offset

/-!
## Storage
-/

/-- The keys under which a slot may be recorded, in the order in which they
are looked for. -/
def slotKeys (slot : Nat) : List String :=
  ["0x" ++ Numeral.hex slot, Numeral.decimal slot,
   Numeral.paddedHex 64 slot, "0x" ++ Numeral.paddedHex 64 slot]

def slotText? (storage : List (String × String)) (slot : Nat) : Option String :=
  (slotKeys slot).findSome? fun key =>
    (storage.find? (fun e => e.1 == key)).map Prod.snd

def showStorage (t : TypeName) (storage : List (String × String)) (slot : Nat) :
    Option String :=
  (slotText? storage slot).map fun s => showWord t (Word.ofHex s)

end Evm
end TraceAdapter
