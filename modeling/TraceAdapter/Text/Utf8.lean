/-!
# UTF-8 text

Reading bytes as UTF-8 goes byte by byte.  Between two characters nothing is
owed; inside a character the reader knows how many bytes are still owed, the
range of the next one and the code point so far.  The module holds the
strict reading, which reports where the first fault is, and the forgiving one,
which shows one replacement character for each maximal faulty part.
-/

namespace TraceAdapter
namespace Utf8

/-- A character begun but not finished: the bytes it owes, the range of the next one, the
code point built so far and the bytes read. -/
structure Partial where
  owed : Nat
  low : Nat
  high : Nat
  code : Nat
  size : Nat
  deriving DecidableEq, Repr

inductive Lead where
  | single (c : Char)
  | more (p : Partial)
  | never
  deriving DecidableEq, Repr

def lead (b : UInt8) : Lead :=
  let n := b.toNat
  if n < 0x80 then .single (Char.ofNat n)
  else if n < 0xC2 then .never
  else if n < 0xE0 then .more ⟨1, 0x80, 0xBF, n - 0xC0, 1⟩
  else if n = 0xE0 then .more ⟨2, 0xA0, 0xBF, 0, 1⟩
  else if n = 0xED then .more ⟨2, 0x80, 0x9F, 0xD, 1⟩
  else if n < 0xF0 then .more ⟨2, 0x80, 0xBF, n - 0xE0, 1⟩
  else if n = 0xF0 then .more ⟨3, 0x90, 0xBF, 0, 1⟩
  else if n < 0xF4 then .more ⟨3, 0x80, 0xBF, n - 0xF0, 1⟩
  else if n = 0xF4 then .more ⟨3, 0x80, 0x8F, 4, 1⟩
  else .never

inductive Next where
  | done (c : Char)
  | more (p : Partial)
  | fault
  deriving DecidableEq, Repr

def Partial.push (p : Partial) (b : UInt8) : Next :=
  let n := b.toNat
  if p.low ≤ n ∧ n ≤ p.high then
    let code := p.code * 64 + (n - 0x80)
    if p.owed ≤ 1 then .done (Char.ofNat code)
    else .more ⟨p.owed - 1, 0x80, 0xBF, code, p.size + 1⟩
  else .fault

structure Fault where
  offset : Nat
  /-- Bytes of the faulty part, none when the input ends inside a character. -/
  size : Option Nat
  deriving DecidableEq, Repr

def Fault.message (f : Fault) : String :=
  match f.size with
  | some n => s!"invalid utf-8 sequence of {n} bytes from index {f.offset}"
  | none => s!"incomplete utf-8 byte sequence from index {f.offset}"

def decodeFrom (offset : Nat) : Option Partial -> List UInt8 -> Except Fault (List Char)
  | none, [] => .ok []
  | some _, [] => .error ⟨offset, none⟩
  | none, b :: rest =>
      match lead b with
      | .single c => (decodeFrom (offset + 1) none rest).map (c :: ·)
      | .more p => decodeFrom offset (some p) rest
      | .never => .error ⟨offset, some 1⟩
  | some p, b :: rest =>
      match p.push b with
      | .done c => (decodeFrom (offset + p.size + 1) none rest).map (c :: ·)
      | .more q => decodeFrom offset (some q) rest
      | .fault => .error ⟨offset, some p.size⟩

def decode (bytes : List UInt8) : Except Fault String :=
  (decodeFrom 0 none bytes).map String.ofList

def replacement : Char := '\uFFFD'

/-- Read bytes as characters, showing each maximal faulty part as one
replacement character. -/
def lossyFrom : Option Partial -> List UInt8 -> List Char
  | none, [] => []
  | some _, [] => [replacement]
  | none, b :: rest =>
      match lead b with
      | .single c => c :: lossyFrom none rest
      | .more p => lossyFrom (some p) rest
      | .never => replacement :: lossyFrom none rest
  | some p, b :: rest =>
      match p.push b with
      | .done c => c :: lossyFrom none rest
      | .more q => lossyFrom (some q) rest
      | .fault =>
          match lead b with
          | .single c => replacement :: c :: lossyFrom none rest
          | .more q => replacement :: lossyFrom (some q) rest
          | .never => replacement :: replacement :: lossyFrom none rest

def lossy (bytes : List UInt8) : String :=
  String.ofList (lossyFrom none bytes)

def encode (s : String) : List UInt8 :=
  s.toList.flatMap String.utf8EncodeChar

end Utf8
end TraceAdapter
