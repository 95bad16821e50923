import TraceAdapter.Recording.SourceText

/-!
# Lines of a source text

The line of an offset is one more than the number of line feeds before it.
-/

namespace TraceAdapter
namespace SourceText

/-- The number of line feeds before an offset. -/
def lineFeedsBefore (bytes : List UInt8) (offset : Nat) : Nat :=
  (bytes.take offset).count lineFeed

theorem length_takeWhile_startsFrom (start offset : Nat) (bytes : List UInt8) :
    ((startsFrom start bytes).takeWhile (· ≤ offset)).length =
      lineFeedsBefore bytes (offset - start) := by
  induction bytes generalizing start with
  | nil => simp [startsFrom, lineFeedsBefore]
  | cons b rest ih =>
      by_cases hpast : offset ≤ start
      · have hnone : offset - start = 0 := by
          omega
        have hnone' : offset - (start + 1) = 0 := by
          omega
        by_cases hb : b = lineFeed
        · have hfirst : ¬ start + 1 ≤ offset := by
            omega
          simp [startsFrom, hb, hfirst, hnone, lineFeedsBefore]
        · simp [startsFrom, hb, ih, hnone, hnone', lineFeedsBefore]
      · have hsome : offset - start = (offset - (start + 1)) + 1 := by
          omega
        have hfirst : start + 1 ≤ offset := by
          omega
        by_cases hb : b = lineFeed
        · simp [startsFrom, hb, hfirst, ih, hsome, lineFeedsBefore]
        · simp [startsFrom, hb, ih, hsome, lineFeedsBefore]

theorem length_lineStarts_upTo (bytes : List UInt8) (offset : Nat) :
    ((ofBytes bytes).lineStarts.takeWhile (· ≤ offset)).length =
      lineFeedsBefore bytes offset + 1 := by
  simp [ofBytes, length_takeWhile_startsFrom]

theorem exists_lineColumn?_iff (bytes : List UInt8) (offset line : Nat) :
    (exists column, (ofBytes bytes).lineColumn? offset = some (line, column)) ↔
      offset ≤ bytes.length ∧
        line = (lineFeedsBefore bytes offset + 1) % Numeral.bound32 := by
  unfold lineColumn?
  by_cases hpast : (ofBytes bytes).size < offset
  · have hpast' : ¬ offset ≤ bytes.length := by
      exact Nat.not_le.mpr hpast
    simp [hpast, hpast']
  · have hin : offset ≤ bytes.length := Nat.not_lt.mp hpast
    simp [hpast, hin, length_lineStarts_upTo, eq_comm]

theorem line_lt_of_lineColumn? {t : SourceText} {offset line column : Nat}
    (h : t.lineColumn? offset = some (line, column)) : line < Numeral.bound32 := by
  unfold lineColumn? at h
  split at h
  · cases h
  · cases h
    exact Nat.mod_lt _ (by decide)

end SourceText
end TraceAdapter
