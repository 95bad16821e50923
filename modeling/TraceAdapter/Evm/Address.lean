import TraceAdapter.Evm.Keccak
import TraceAdapter.Text.Numeral
import TraceAdapter.Text.Utf8

/-!
# Addresses

An address is shown as forty hexadecimal digits in which the case of the
letters is a checksum: a letter is upper case when the digit of the hash at
its place is at least eight.
-/

namespace TraceAdapter
namespace Evm
namespace Address

def hashDigits (digits : String) : List Nat :=
  (Keccak.hash (Utf8.encode digits)).flatMap fun b =>
    [b.toNat / 16, b.toNat % 16]

def checked (c : Char) (h : Nat) : Char :=
  if 8 ≤ h then c.toUpper else c

def checksum (address : BitVec 160) : String :=
  let digits := Numeral.paddedHex 40 address.toNat
  "0x" ++ String.ofList (List.zipWith checked digits.toList (hashDigits digits))

end Address
end Evm
end TraceAdapter
