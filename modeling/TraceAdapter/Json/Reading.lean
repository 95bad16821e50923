import TraceAdapter.Json.Decoder
import TraceAdapter.Json.Scanner

/-!
# Reading typed values

A typed value is read from a text, or made of a value that was read before.
-/

namespace TraceAdapter
namespace Json

/-- Decode the whole of a scanned text: nothing but space may follow the
value. -/
def Text.decode {α : Type} (item : Decoder α) (t : Text) :
    Except DecodeError α :=
  match item Origin.start t.root with
  | .error e => .error e
  | .ok a => if t.clean then .ok a else .error .malformed

def read {α : Type} (item : Decoder α) (s : String) : Except DecodeError α :=
  (Text.scan .characters s.toList).decode item

/-- Read a typed value from bytes.  Only strings that are read for their text
need to be UTF-8. -/
def readBytes {α : Type} (item : Decoder α) (bytes : List UInt8) :
    Except DecodeError α :=
  (Text.scan .bytes (Bytes.toChars bytes)).decode item

def parse (s : String) : Except DecodeError Value := read Decoder.value s

def ofValue {α : Type} (item : Decoder α) (v : Value) : Except DecodeError α :=
  item .tree (Document.ofValue v)

end Json
end TraceAdapter
