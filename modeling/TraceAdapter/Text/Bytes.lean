/-!
# Bytes as characters

A text of any bytes is handled as a list of the first 256 characters, each of
which stands for the byte of its number.
-/

namespace TraceAdapter
namespace Bytes

def toChars (bytes : List UInt8) : List Char :=
  bytes.map fun b => Char.ofNat b.toNat

def ofChar (c : Char) : UInt8 := c.toNat.toUInt8

def ofChars (cs : List Char) : List UInt8 := cs.map ofChar

/-- Whether characters do not come after others in the order of their bytes. -/
def notAfter : List Char -> List Char -> Bool
  | [], _ => true
  | _ :: _, [] => false
  | c :: cs, d :: ds => c.toNat < d.toNat || c.toNat == d.toNat && notAfter cs ds

end Bytes
end TraceAdapter
