import Mathlib.Algebra.Group.Nat.Defs
import Mathlib.Data.List.DropRight
import Mathlib.Data.Prod.Lex
import Mathlib.Tactic.SplitIfs
import TraceAdapter.Proofs.Recording.Lines

/-!
# Positions in a source text

The line of an offset counts the line feeds before it, and its column the bytes behind the
last of them.  The table of line starts falls in two at every offset, and the last start of
the first part is that of the line.  Positions ascend with the offset.
-/

namespace TraceAdapter
namespace SourceText

/-- The number of bytes between an offset and the last line feed before it, or the start. -/
def bytesSinceLineFeed (bytes : List UInt8) (offset : Nat) : Nat :=
  ((bytes.take offset).rtakeWhile (· != lineFeed)).length

/-- Line and column of an offset, both counted from zero and without a bound. -/
def positionFromZero (bytes : List UInt8) (offset : Nat) : Nat × Nat :=
  (lineFeedsBefore bytes offset, bytesSinceLineFeed bytes offset)

/-!
## The table of line starts
-/

theorem lt_of_mem_startsFrom {start x : Nat} {bytes : List UInt8}
    (h : x ∈ startsFrom start bytes) : start < x ∧ x ≤ start + bytes.length := by
  induction bytes generalizing start with
  | nil => cases h
  | cons b rest ih =>
      rw [startsFrom] at h
      rw [List.length_cons]
      split_ifs at h with hb
      · rcases List.mem_cons.mp h with rfl | hrest
        · omega
        · have hbounds := ih hrest
          omega
      · have hbounds := ih h
        omega

theorem startsFrom_append (start : Nat) (first second : List UInt8) :
    startsFrom start (first ++ second) =
      startsFrom start first ++ startsFrom (start + first.length) second := by
  induction first generalizing start with
  | nil => rfl
  | cons b rest ih =>
      have hlength : start + (b :: rest).length = start + 1 + rest.length := by
        rw [List.length_cons]
        omega
      rw [List.cons_append, startsFrom, startsFrom, hlength, ih]
      split_ifs <;> rfl

theorem length_startsFrom (start : Nat) (bytes : List UInt8) :
    (startsFrom start bytes).length = bytes.count lineFeed := by
  induction bytes generalizing start with
  | nil => rfl
  | cons b rest ih =>
      rw [startsFrom]
      split_ifs with hb
      · rw [List.length_cons, ih, hb, List.count_cons_self]
      · rw [ih, List.count_cons_of_ne hb]

theorem lineStarts_eq_append {bytes : List UInt8} {offset : Nat} (h : offset ≤ bytes.length) :
    (ofBytes bytes).lineStarts =
      (ofBytes (bytes.take offset)).lineStarts ++ startsFrom offset (bytes.drop offset) := by
  have hsplit := startsFrom_append 0 (bytes.take offset) (bytes.drop offset)
  rw [List.take_append_drop, List.length_take_of_le h, Nat.zero_add] at hsplit
  show 0 :: startsFrom 0 bytes = _
  rw [hsplit]
  rfl

theorem le_of_mem_lineStarts {bytes : List UInt8} {x : Nat}
    (h : x ∈ (ofBytes bytes).lineStarts) : x ≤ bytes.length := by
  rcases List.mem_cons.mp h with rfl | hx
  · exact Nat.zero_le _
  · have hbounds := (lt_of_mem_startsFrom hx).2
    omega

theorem upTo_eq {bytes : List UInt8} {offset : Nat} (h : offset ≤ bytes.length) :
    (ofBytes bytes).lineStarts.takeWhile (· ≤ offset) =
      (ofBytes (bytes.take offset)).lineStarts := by
  have hfirst : forall x, x ∈ (ofBytes (bytes.take offset)).lineStarts ->
      decide (x ≤ offset) = true := by
    intro x hx
    have hle := le_of_mem_lineStarts hx
    rw [List.length_take_of_le h] at hle
    exact decide_eq_true hle
  have hlater : (startsFrom offset (bytes.drop offset)).takeWhile (· ≤ offset) = [] := by
    rw [List.takeWhile_eq_nil_iff]
    intro hsome hle
    have hbounds := lt_of_mem_startsFrom (List.get_mem _ ⟨0, hsome⟩)
    have hle' := of_decide_eq_true hle
    omega
  rw [lineStarts_eq_append h, List.takeWhile_append_of_pos hfirst, hlater, List.append_nil]

theorem length_lineStarts (bytes : List UInt8) :
    (ofBytes bytes).lineStarts.length = bytes.count lineFeed + 1 := by
  show (0 :: startsFrom 0 bytes).length = _
  rw [List.length_cons, length_startsFrom]

theorem getLast?_lineStarts (bytes : List UInt8) :
    exists start, (ofBytes bytes).lineStarts.getLast? = some start ∧
      start + (bytes.rtakeWhile (· != lineFeed)).length = bytes.length := by
  induction bytes using List.reverseRecOn with
  | nil => exact ⟨0, rfl, rfl⟩
  | append_singleton rest b ih =>
      rcases ih with ⟨start, hlast, hstart⟩
      have hstarts : (ofBytes (rest ++ [b])).lineStarts =
          (ofBytes rest).lineStarts ++ startsFrom rest.length [b] := by
        show 0 :: startsFrom 0 (rest ++ [b]) = _
        rw [startsFrom_append, Nat.zero_add]
        rfl
      rw [hstarts, startsFrom, List.rtakeWhile_concat, List.length_append]
      by_cases hb : b = lineFeed
      · refine ⟨rest.length + 1, ?_, ?_⟩
        · rw [if_pos hb]
          exact List.getLast?_concat
        · rw [if_neg (by simpa using hb)]
          rfl
      · refine ⟨start, ?_, ?_⟩
        · rw [if_neg hb, startsFrom, List.append_nil, hlast]
        · rw [if_pos (by simpa using hb), List.length_append]
          simp only [List.length_singleton]
          omega

/-- The number of starts up to an offset, which is where the table falls in two. -/
def startsUpTo (t : SourceText) (offset : Nat) : Nat :=
  (t.lineStarts.takeWhile (· ≤ offset)).length

theorem startsUpTo_eq {bytes : List UInt8} {offset : Nat} (h : offset ≤ bytes.length) :
    (ofBytes bytes).startsUpTo offset = (ofBytes (bytes.take offset)).lineStarts.length := by
  unfold startsUpTo
  rw [upTo_eq h]

/-- The starts up to an offset stand before all others, so halving finds the same place. -/
theorem le_iff_lt_startsUpTo {bytes : List UInt8} {offset i start : Nat}
    (h : offset ≤ bytes.length) (hi : (ofBytes bytes).lineStarts[i]? = some start) :
    start ≤ offset ↔ i < (ofBytes bytes).startsUpTo offset := by
  rw [startsUpTo_eq h]
  rw [lineStarts_eq_append h] at hi
  constructor
  · intro hle
    by_contra hpast
    rw [List.getElem?_append_right (Nat.not_lt.mp hpast)] at hi
    have hbounds := lt_of_mem_startsFrom (List.mem_of_getElem? hi)
    omega
  · intro hlt
    rw [List.getElem?_append_left hlt] at hi
    have hle := le_of_mem_lineStarts (List.mem_of_getElem? hi)
    rw [List.length_take_of_le h] at hle
    exact hle

theorem exists_lineStart {bytes : List UInt8} {offset : Nat} (h : offset ≤ bytes.length) :
    exists start,
      ((ofBytes bytes).lineStarts.takeWhile (· ≤ offset)).getLast? = some start ∧
        (ofBytes bytes).lineStarts[(ofBytes bytes).startsUpTo offset - 1]? = some start ∧
        start + bytesSinceLineFeed bytes offset = offset := by
  rcases getLast?_lineStarts (bytes.take offset) with ⟨start, hlast, hstart⟩
  rw [List.length_take_of_le h] at hstart
  refine ⟨start, ?_, ?_, hstart⟩
  · rw [upTo_eq h, hlast]
  · have hfirst : (ofBytes (bytes.take offset)).lineStarts.length - 1 <
        (ofBytes (bytes.take offset)).lineStarts.length :=
      Nat.sub_lt (by rw [length_lineStarts]; exact Nat.succ_pos _) Nat.one_pos
    rw [startsUpTo_eq h, lineStarts_eq_append h, List.getElem?_append_left hfirst,
      ← List.getLast?_eq_getElem?, hlast]

/-!
## Line and column
-/

theorem lineColumn?_of_le {bytes : List UInt8} {offset : Nat} (h : offset ≤ bytes.length) :
    (ofBytes bytes).lineColumn? offset =
      some ((lineFeedsBefore bytes offset + 1) % 2 ^ 32,
        (bytesSinceLineFeed bytes offset + 1) % 2 ^ 32) := by
  have hbound : Numeral.bound32 = 2 ^ 32 := by decide
  rcases exists_lineStart h with ⟨start, hlast, _, hstart⟩
  have hcolumn : offset - start = bytesSinceLineFeed bytes offset := by
    omega
  have hin : ¬ (ofBytes bytes).size < offset := Nat.not_lt.mpr h
  unfold lineColumn?
  rw [if_neg hin]
  dsimp only
  rw [hlast, length_lineStarts_upTo, Option.getD_some, hcolumn, hbound]

theorem lineColumn?_eq_none_iff {bytes : List UInt8} {offset : Nat} :
    (ofBytes bytes).lineColumn? offset = none ↔ bytes.length < offset := by
  by_cases hin : offset ≤ bytes.length
  · rw [lineColumn?_of_le hin]
    exact iff_of_false nofun (Nat.not_lt.mpr hin)
  · have hpast : (ofBytes bytes).size < offset := Nat.not_le.mp hin
    unfold lineColumn?
    rw [if_pos hpast]
    exact iff_of_true rfl hpast

/-!
## Positions ascend
-/

theorem position_lt_succ {bytes : List UInt8} {offset : Nat} (h : offset < bytes.length) :
    toLex (positionFromZero bytes offset) < toLex (positionFromZero bytes (offset + 1)) := by
  rw [Prod.Lex.toLex_lt_toLex]
  unfold positionFromZero lineFeedsBefore bytesSinceLineFeed
  rw [List.take_succ_eq_append_getElem h, List.count_append, List.rtakeWhile_concat]
  by_cases hb : bytes[offset] = lineFeed
  · left
    rw [hb, List.count_singleton_self]
    exact Nat.lt_succ_self _
  · right
    rw [List.count_singleton, if_neg (by simpa using hb), if_pos (by simpa using hb)]
    simp

theorem position_lt {bytes : List UInt8} {first second : Nat} (h : first < second)
    (hsecond : second ≤ bytes.length) :
    toLex (positionFromZero bytes first) < toLex (positionFromZero bytes second) := by
  induction second, h using Nat.le_induction with
  | base => exact position_lt_succ hsecond
  | succ second hfirst ih => exact (ih (by omega)).trans (position_lt_succ hsecond)

/-!
## Numbers of thirty-two bits
-/

/-- A line or column counted from zero: one less, as a number of thirty-two bits. -/
def fromZero (n : Nat) : UInt32 := UInt32.ofNat n - 1

theorem toNat_fromZero {n : Nat} (h : n < 2 ^ 32) :
    (fromZero ((n + 1) % 2 ^ 32)).toNat = n := by
  unfold fromZero
  rw [UInt32.toNat_sub, UInt32.toNat_ofNat']
  simp only [UInt32.toNat_one]
  omega

theorem position_lt_size {bytes : List UInt8} {offset : Nat} (h : offset ≤ bytes.length) :
    lineFeedsBefore bytes offset ≤ offset ∧ bytesSinceLineFeed bytes offset ≤ offset := by
  have htake := List.length_take_of_le h
  have hfeeds := List.count_le_length (a := lineFeed) (l := bytes.take offset)
  have hsince := (List.rtakeWhile_suffix (· != lineFeed) (bytes.take offset)).length_le
  rw [htake] at hfeeds hsince
  exact ⟨hfeeds, hsince⟩

theorem fromZero_of_lineColumn? {bytes : List UInt8} (hsize : bytes.length < 2 ^ 32)
    {offset line column : Nat} (h : (ofBytes bytes).lineColumn? offset = some (line, column)) :
    offset ≤ bytes.length ∧
      positionFromZero bytes offset = ((fromZero line).toNat, (fromZero column).toNat) := by
  have hin : offset ≤ bytes.length := by
    by_contra hpast
    rw [lineColumn?_eq_none_iff.mpr (Nat.lt_of_not_le hpast)] at h
    cases h
  rw [lineColumn?_of_le hin] at h
  cases h
  rcases position_lt_size hin with ⟨hline, hcolumn⟩
  refine ⟨hin, ?_⟩
  rw [toNat_fromZero (by omega), toNat_fromZero (by omega)]
  rfl

/-- A line or a column is `2 ^ 32`, which thirty-two bits cannot hold. -/
def Wraps (bytes : List UInt8) (offset : Nat) : Prop :=
  lineFeedsBefore bytes offset + 1 = 2 ^ 32 ∨ bytesSinceLineFeed bytes offset + 1 = 2 ^ 32

instance (bytes : List UInt8) (offset : Nat) : Decidable (Wraps bytes offset) :=
  inferInstanceAs (Decidable (_ ∨ _))

/-- In a text of less than `2 ^ 32` bytes this can only be so at the greatest offset. -/
theorem Wraps.succ_eq {bytes : List UInt8} (hsize : bytes.length < 2 ^ 32) {offset : Nat}
    (hin : offset ≤ bytes.length) (h : Wraps bytes offset) : offset + 1 = 2 ^ 32 := by
  rcases position_lt_size hin with ⟨hline, hcolumn⟩
  rcases h with h | h
  · omega
  · omega

theorem not_wraps_of_lt {bytes : List UInt8} (hsize : bytes.length < 2 ^ 32) {first second : Nat}
    (h : first < second) (hin : second ≤ bytes.length) : ¬ Wraps bytes first := by
  intro hwraps
  have hfirst := hwraps.succ_eq hsize (by omega)
  omega

theorem lineColumn?_eq_succ {bytes : List UInt8} (hsize : bytes.length < 2 ^ 32)
    {offset : Nat} (hin : offset ≤ bytes.length) (h : ¬ Wraps bytes offset) :
    (ofBytes bytes).lineColumn? offset =
      some (lineFeedsBefore bytes offset + 1, bytesSinceLineFeed bytes offset + 1) := by
  rcases position_lt_size hin with ⟨hline, hcolumn⟩
  unfold Wraps at h
  rw [lineColumn?_of_le hin, Nat.mod_eq_of_lt (by omega), Nat.mod_eq_of_lt (by omega)]

theorem lineFeedsBefore_eq_zero {bytes : List UInt8} {offset : Nat} (hin : offset ≤ bytes.length)
    (h : bytesSinceLineFeed bytes offset = offset) : lineFeedsBefore bytes offset = 0 := by
  have hall : (bytes.take offset).rtakeWhile (· != lineFeed) = bytes.take offset := by
    apply (List.rtakeWhile_suffix _ _).eq_of_length
    rw [List.length_take_of_le hin]
    exact h
  apply List.count_eq_zero.mpr
  intro hfeed
  rw [← hall] at hfeed
  have hother := List.mem_rtakeWhile_imp hfeed
  simp at hother

theorem counts_iff_not_wraps {bytes : List UInt8} (hsize : bytes.length < 2 ^ 32)
    {offset line column : Nat} (hin : offset ≤ bytes.length)
    (h : (ofBytes bytes).lineColumn? offset = some (line, column)) :
    line = lineFeedsBefore bytes offset + 1 ∧ column = bytesSinceLineFeed bytes offset + 1 ↔
      ¬ Wraps bytes offset := by
  constructor
  · intro hcounts hwraps
    rw [lineColumn?_of_le hin] at h
    cases h
    rcases hwraps with hwraps | hwraps
    · omega
    · omega
  · intro hwraps
    rw [lineColumn?_eq_succ hsize hin hwraps] at h
    cases h
    exact ⟨rfl, rfl⟩

theorem lt_iff_not_wraps {bytes : List UInt8} (hsize : bytes.length < 2 ^ 32)
    {first second : Nat} (hlt : first < second) (hin : second ≤ bytes.length) {p q : Nat × Nat}
    (hp : (ofBytes bytes).lineColumn? first = some p)
    (hq : (ofBytes bytes).lineColumn? second = some q) :
    toLex p < toLex q ↔ ¬ Wraps bytes second := by
  have hfirst := not_wraps_of_lt hsize hlt hin
  rw [lineColumn?_eq_succ hsize (by omega) hfirst] at hp
  cases hp
  rw [Prod.Lex.toLex_lt_toLex]
  constructor
  · intro hascends hwraps
    rcases position_lt_size hin with ⟨_, hsince⟩
    rw [lineColumn?_of_le hin] at hq
    cases hq
    rcases hwraps with hfeeds | hbytes
    · rw [hfeeds] at hascends
      omega
    · rw [hbytes, lineFeedsBefore_eq_zero hin (by omega)] at hascends
      omega
  · intro hwraps
    rw [lineColumn?_eq_succ hsize hin hwraps] at hq
    cases hq
    have hcounts := position_lt hlt hin
    rw [Prod.Lex.toLex_lt_toLex] at hcounts
    simpa [positionFromZero] using hcounts

/-- Line and column in a text of less than `2 ^ 32` bytes.  There is none behind the end.
Otherwise the line less one counts the line feeds before the offset, and the column less one
the bytes since the last of them, where both are numbers of thirty-two bits; as they stand
they do so just when neither is `2 ^ 32`, which is then shown as zero.  The table falls in two
behind the start of the line.  Positions ascend with the offset, as they stand just when the
later of the two is no such offset, and no two are equal. -/
theorem position_counts {bytes : List UInt8} (hsize : bytes.length < 2 ^ 32) :
    (forall offset, (ofBytes bytes).lineColumn? offset = none ↔ bytes.length < offset) ∧
      (forall offset line column,
        (ofBytes bytes).lineColumn? offset = some (line, column) ->
          (fromZero line).toNat = lineFeedsBefore bytes offset ∧
            (fromZero column).toNat = bytesSinceLineFeed bytes offset ∧
            (line = lineFeedsBefore bytes offset + 1 ∧
                column = bytesSinceLineFeed bytes offset + 1 ↔ ¬ Wraps bytes offset) ∧
            (Wraps bytes offset -> offset + 1 = 2 ^ 32)) ∧
      (forall offset, offset ≤ bytes.length ->
        0 < (ofBytes bytes).startsUpTo offset ∧
          (forall i start, (ofBytes bytes).lineStarts[i]? = some start ->
            (start ≤ offset ↔ i < (ofBytes bytes).startsUpTo offset)) ∧
          exists start,
            (ofBytes bytes).lineStarts[(ofBytes bytes).startsUpTo offset - 1]? = some start ∧
              start + bytesSinceLineFeed bytes offset = offset) ∧
      (forall first second p q, first < second ->
        (ofBytes bytes).lineColumn? first = some p ->
        (ofBytes bytes).lineColumn? second = some q ->
          toLex (fromZero p.1, fromZero p.2) < toLex (fromZero q.1, fromZero q.2) ∧ p ≠ q ∧
            (toLex p < toLex q ↔ ¬ Wraps bytes second)) := by
  refine ⟨fun offset => lineColumn?_eq_none_iff, ?_, ?_, ?_⟩
  · intro offset line column h
    rcases fromZero_of_lineColumn? hsize h with ⟨hin, hposition⟩
    rw [positionFromZero, Prod.mk.injEq] at hposition
    exact ⟨hposition.1.symm, hposition.2.symm, counts_iff_not_wraps hsize hin h,
      fun hwraps => hwraps.succ_eq hsize hin⟩
  · intro offset h
    rcases exists_lineStart h with ⟨start, _, hstart, hsince⟩
    refine ⟨?_, fun i start => le_iff_lt_startsUpTo h, start, hstart, hsince⟩
    rw [startsUpTo_eq h, length_lineStarts]
    exact Nat.succ_pos _
  · rintro first second ⟨line, column⟩ ⟨line', column'⟩ hlt hfirst hsecond
    rcases fromZero_of_lineColumn? hsize hfirst with ⟨hin, hposition⟩
    rcases fromZero_of_lineColumn? hsize hsecond with ⟨hin', hposition'⟩
    have hascends := position_lt hlt hin'
    rw [hposition, hposition', Prod.Lex.toLex_lt_toLex] at hascends
    refine ⟨?_, ?_, lt_iff_not_wraps hsize hlt hin' hfirst hsecond⟩
    · rw [Prod.Lex.toLex_lt_toLex]
      exact hascends.imp UInt32.lt_iff_toNat_lt.mpr fun h =>
        ⟨UInt32.toNat_inj.mp h.1, UInt32.lt_iff_toNat_lt.mpr h.2⟩
    · intro heq
      cases heq
      simp at hascends

theorem position_counts_two_lines :
    exists bytes : List UInt8, bytes.length < 2 ^ 32 ∧
      (ofBytes bytes).lineColumn? 3 = some (2, 1) ∧ (ofBytes bytes).lineColumn? 6 = some (3, 1) ∧
      lineFeedsBefore bytes 3 = 1 ∧ bytesSinceLineFeed bytes 6 = 0 ∧
      toLex ((2, 1) : Nat × Nat) < toLex (3, 1) := by
  let bytes : List UInt8 := [0x61, 0x62, lineFeed, 0x63, 0x64, lineFeed]
  have hsize : bytes.length < 2 ^ 32 := by decide
  have hfirst : (ofBytes bytes).lineColumn? 3 = some (2, 1) := by decide
  have hlast : (ofBytes bytes).lineColumn? 6 = some (3, 1) := by decide
  rcases position_counts hsize with ⟨_, hcounts, _, hascends⟩
  refine ⟨bytes, hsize, hfirst, hlast, ?_, ?_, ?_⟩
  · exact Nat.succ.inj ((hcounts 3 2 1 hfirst).2.2.1.mpr (by decide)).1.symm
  · exact Nat.succ.inj ((hcounts 6 3 1 hlast).2.2.1.mpr (by decide)).2.symm
  · exact (hascends 3 6 _ _ (by decide) hfirst hlast).2.2.mpr (by decide)

def unbroken (size : Nat) : List UInt8 := List.replicate size 0x61

theorem take_unbroken {size offset : Nat} (h : offset ≤ size) :
    (unbroken size).take offset = unbroken offset := by
  unfold unbroken
  rw [List.take_replicate, Nat.min_eq_left h]

theorem lineFeedsBefore_unbroken {size offset : Nat} (h : offset ≤ size) :
    lineFeedsBefore (unbroken size) offset = 0 := by
  unfold lineFeedsBefore
  rw [take_unbroken h]
  unfold unbroken
  rw [List.count_replicate, if_neg (by decide)]

theorem bytesSinceLineFeed_unbroken {size offset : Nat} (h : offset ≤ size) :
    bytesSinceLineFeed (unbroken size) offset = offset := by
  have hall : (unbroken offset).rtakeWhile (· != lineFeed) = unbroken offset := by
    apply List.rtakeWhile_eq_self_iff.mpr
    intro b hb
    rw [List.eq_of_mem_replicate hb]
    decide
  unfold bytesSinceLineFeed
  rw [take_unbroken h, hall]
  exact List.length_replicate

/-- At the end of a line of `2 ^ 32 - 1` bytes the column is shown as zero, so it is not one
more than the bytes before it, and the position does not come after that of the start. -/
theorem lineColumn?_wraps :
    (unbroken (2 ^ 32 - 1)).length < 2 ^ 32 ∧
      (ofBytes (unbroken (2 ^ 32 - 1))).lineColumn? 0 = some (1, 1) ∧
      (ofBytes (unbroken (2 ^ 32 - 1))).lineColumn? (2 ^ 32 - 1) = some (1, 0) ∧
      bytesSinceLineFeed (unbroken (2 ^ 32 - 1)) (2 ^ 32 - 1) = 2 ^ 32 - 1 ∧
      ¬ toLex ((1, 1) : Nat × Nat) < toLex (1, 0) := by
  have hlength : (unbroken (2 ^ 32 - 1)).length = 2 ^ 32 - 1 := List.length_replicate
  have hsince := bytesSinceLineFeed_unbroken (Nat.le_refl (2 ^ 32 - 1))
  refine ⟨by omega, ?_, ?_, hsince, by decide⟩
  · rw [lineColumn?_of_le (Nat.zero_le _), lineFeedsBefore_unbroken (Nat.zero_le _),
      bytesSinceLineFeed_unbroken (Nat.zero_le _)]
    decide
  · rw [lineColumn?_of_le hlength.ge, lineFeedsBefore_unbroken (Nat.le_refl _), hsince]
    decide

end SourceText
end TraceAdapter
