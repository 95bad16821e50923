import TraceAdapter.Text.Numeral

/-!
# Lines of a source text

Offsets and columns count bytes.  A line starts at the beginning of the text
and behind every line feed.  Lines and columns are shown as numbers of
thirty-two bits.
-/

namespace TraceAdapter

structure SourceText where
  lineStarts : List Nat
  size : Nat
  deriving DecidableEq, Repr

namespace SourceText

def lineFeed : UInt8 := 0x0A

def startsFrom (offset : Nat) : List UInt8 -> List Nat
  | [] => []
  | b :: rest =>
      if b = lineFeed then (offset + 1) :: startsFrom (offset + 1) rest
      else startsFrom (offset + 1) rest

def ofBytes (bytes : List UInt8) : SourceText :=
  ⟨0 :: startsFrom 0 bytes, bytes.length⟩

/-- Line and column of an offset, both counted from one; none behind the end
of the text. -/
def lineColumn? (t : SourceText) (offset : Nat) : Option (Nat × Nat) :=
  if t.size < offset then none
  else
    let before := t.lineStarts.takeWhile (· ≤ offset)
    let column := offset - before.getLast?.getD 0
    some (before.length % Numeral.bound32, (column + 1) % Numeral.bound32)

end SourceText

end TraceAdapter
