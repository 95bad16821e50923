import Mathlib.Data.List.Induction
import TraceAdapter.Proofs.Evm.Integers

/-!
# Values in memory

A memory text writes bytes, after marks that are passed over.  A value is shown
exactly when the bytes that its type needs all exist, and it is made of those bytes;
no offset leaves sixty-four bits on the way.
-/

namespace TraceAdapter

namespace Numeral

/-!
## Bytes in hexadecimal digits
-/

theorem bytesOfHex?_pair {a b : Char} {rest : List Char} {bytes : List UInt8} :
    bytesOfHex? (a :: b :: rest) = some bytes ↔
      exists x y tail, digit? 16 a = some x ∧ digit? 16 b = some y ∧
        bytesOfHex? rest = some tail ∧ UInt8.ofNat (x * 16 + y) :: tail = bytes := by
  constructor
  · intro h
    simp only [bytesOfHex?] at h
    split at h
    · rename_i x y tail ha hb hrest
      exact ⟨x, y, tail, ha, hb, hrest, Option.some.inj h⟩
    · cases h
  · rintro ⟨x, y, tail, ha, hb, hrest, rfl⟩
    simp only [bytesOfHex?, ha, hb, hrest]

theorem length_of_bytesOfHex? {digits : List Char} {bytes : List UInt8}
    (h : bytesOfHex? digits = some bytes) : digits.length = 2 * bytes.length := by
  induction digits using List.twoStepInduction generalizing bytes with
  | nil =>
      cases h
      rfl
  | singleton c => cases h
  | cons_cons a b rest ih _ =>
      rcases bytesOfHex?_pair.mp h with ⟨x, y, tail, _, _, hrest, rfl⟩
      rw [List.length_cons, List.length_cons, ih hrest, List.length_cons]
      ring

theorem exists_bytesOfHex?_iff (digits : List Char) :
    (exists bytes, bytesOfHex? digits = some bytes) ↔
      digits.length % 2 = 0 ∧ forall c, c ∈ digits -> (digit? 16 c).isSome = true := by
  induction digits using List.twoStepInduction with
  | nil => simp [bytesOfHex?]
  | singleton c => simp [bytesOfHex?]
  | cons_cons a b rest ih _ =>
      have hlength : (a :: b :: rest).length % 2 = rest.length % 2 := by
        rw [List.length_cons, List.length_cons, Nat.add_assoc, Nat.add_mod_right]
      rw [hlength, List.forall_mem_cons, List.forall_mem_cons]
      constructor
      · rintro ⟨bytes, h⟩
        rcases bytesOfHex?_pair.mp h with ⟨x, y, tail, ha, hb, hrest, _⟩
        rcases ih.mp ⟨tail, hrest⟩ with ⟨heven, hdigits⟩
        exact ⟨heven, by rw [ha]; rfl, by rw [hb]; rfl, hdigits⟩
      · rintro ⟨heven, ha, hb, hdigits⟩
        rcases Option.isSome_iff_exists.mp ha with ⟨x, ha⟩
        rcases Option.isSome_iff_exists.mp hb with ⟨y, hb⟩
        rcases ih.mpr ⟨heven, hdigits⟩ with ⟨tail, hrest⟩
        exact ⟨_, bytesOfHex?_pair.mpr ⟨x, y, tail, ha, hb, hrest, rfl⟩⟩

end Numeral

namespace Evm

open Evm.TypeName (wordSize OfBytes)

/-!
## Memory texts
-/

/-- What stands behind the marks of a memory text: any number of `0x`, and at most
one `0X`. -/
structure Marked (memory : String) (digits : List Char) : Prop where
  text : exists marks mark,
    memory.toList = (List.replicate marks ['0', 'x']).flatten ++ mark ++ digits ∧
      (mark = [] ∨ mark = ['0', 'X'])

/-- The bytes that a memory text writes, in pairs of digits behind its marks. -/
structure Writes (memory : String) (bytes : List UInt8) : Prop where
  digits : exists digits, Marked memory digits ∧ Numeral.bytesOfHex? digits = some bytes

theorem dropHexMarks_marks (marks : Nat) (cs : List Char) :
    dropHexMarks ((List.replicate marks ['0', 'x']).flatten ++ cs) = dropHexMarks cs := by
  induction marks with
  | zero => rfl
  | succ marks ih =>
      rw [List.replicate_succ, List.flatten_cons]
      exact ih

theorem exists_marks (cs : List Char) :
    exists marks, cs = (List.replicate marks ['0', 'x']).flatten ++ dropHexMarks cs := by
  induction cs using dropHexMarks.induct with
  | case1 cs ih =>
      rcases ih with ⟨marks, hcs⟩
      have hdrop : dropHexMarks ('0' :: 'x' :: cs) = dropHexMarks cs := rfl
      refine ⟨marks + 1, ?_⟩
      rw [List.replicate_succ, List.flatten_cons, List.append_assoc, hdrop, ← hcs]
      rfl
  | case2 cs hmark =>
      refine ⟨0, ?_⟩
      have hkept : dropHexMarks cs = cs := by
        unfold dropHexMarks
        split
        · exact absurd rfl (hmark _)
        · rfl
      rw [hkept]
      rfl

theorem dropHexMarks_of_bytesOfHex? {digits : List Char} {bytes : List UInt8}
    (h : Numeral.bytesOfHex? digits = some bytes) : dropHexMarks digits = digits := by
  unfold dropHexMarks
  split
  · rcases Numeral.bytesOfHex?_pair.mp h with ⟨_, y, _, _, hmark, _⟩
    exact absurd hmark (by simp [Numeral.digit?])
  · rfl

theorem memoryBytes?_eq_some_iff {memory : String} {bytes : List UInt8} :
    memoryBytes? memory = some bytes ↔ Writes memory bytes := by
  unfold memoryBytes? memoryDigits
  constructor
  · intro h
    rcases exists_marks memory.toList with ⟨marks, htext⟩
    split at h
    · rename_i digits hmark
      refine ⟨digits, ⟨marks, ['0', 'X'], ?_, Or.inr rfl⟩, h⟩
      rw [hmark] at htext
      rw [htext, List.append_assoc]
      rfl
    · refine ⟨dropHexMarks memory.toList, ⟨marks, [], ?_, Or.inl rfl⟩, h⟩
      rw [List.append_nil]
      exact htext
  · rintro ⟨digits, ⟨marks, mark, htext, hmark⟩, h⟩
    rw [htext, List.append_assoc, dropHexMarks_marks]
    rcases hmark with rfl | rfl
    · rw [List.nil_append, dropHexMarks_of_bytesOfHex? h]
      split
      · rcases Numeral.bytesOfHex?_pair.mp h with ⟨_, y, _, _, hmark, _⟩
        exact absurd hmark (by simp [Numeral.digit?])
      · exact h
    · exact h

theorem length_of_writes {memory : String} {bytes : List UInt8} (h : Writes memory bytes) :
    bytes.length ≤ memory.length := by
  rcases h.digits with ⟨digits, ⟨marks, mark, htext, _⟩, hbytes⟩
  have hdigits := Numeral.length_of_bytesOfHex? hbytes
  have htext' := congrArg List.length htext
  rw [List.length_append, String.length_toList] at htext'
  omega

/-!
## Regions
-/

def slice (bytes : List UInt8) (start size : Nat) : List UInt8 := (bytes.drop start).take size

theorem sizeSum?_eq_some_iff {a b sum : Nat} :
    sizeSum? a b = some sum ↔ sum = a + b ∧ a + b < Numeral.bound64 := by
  unfold sizeSum?
  rw [Option.ite_none_right_eq_some, Option.some.injEq]
  constructor
  · rintro ⟨h, rfl⟩
    exact ⟨rfl, h⟩
  · rintro ⟨rfl, h⟩
    exact ⟨h, rfl⟩

theorem region?_eq_some_iff {bytes data : List UInt8} {start size : Nat} :
    region? bytes start size = some data ↔
      start + size < Numeral.bound64 ∧ start + size ≤ bytes.length ∧
        data = slice bytes start size := by
  unfold region?
  cases hsum : sizeSum? start size with
  | none =>
      have hover : ¬ start + size < Numeral.bound64 := by
        intro h
        rw [sizeSum?_eq_some_iff.mpr ⟨rfl, h⟩] at hsum
        cases hsum
      simp [hover]
  | some stop =>
      rcases sizeSum?_eq_some_iff.mp hsum with ⟨rfl, hbound⟩
      simp only [Option.ite_none_right_eq_some, Option.some.injEq, hbound, true_and]
      exact and_congr_right fun _ => eq_comm

theorem length_slice {bytes : List UInt8} {start size : Nat}
    (h : start + size ≤ bytes.length) : (slice bytes start size).length = size := by
  unfold slice
  rw [List.length_take, List.length_drop]
  omega

/-- The word at an offset, as a number of bytes. -/
def countAt (bytes : List UInt8) (offset : Nat) : Nat :=
  (wordOfBytes (slice bytes offset wordSize)).toNat

theorem behindWord_eq {offset : Nat} (h : offset + wordSize < Numeral.bound64) :
    behindWord offset = offset + wordSize :=
  Nat.mod_eq_of_lt h

theorem counted?_eq_some_iff {bytes data : List UInt8} {offset : Nat}
    (hbound : bytes.length < Numeral.bound64) :
    counted? bytes offset = some data ↔
      offset + wordSize ≤ bytes.length ∧
        offset + wordSize + countAt bytes offset ≤ bytes.length ∧
        data = slice bytes (offset + wordSize) (countAt bytes offset) := by
  unfold counted?
  cases hword : region? bytes offset wordSize with
  | none =>
      constructor
      · intro h
        cases h
      · rintro ⟨hinside, _⟩
        have hsome := region?_eq_some_iff.mpr ⟨Nat.lt_of_le_of_lt hinside hbound, hinside, rfl⟩
        rw [hword] at hsome
        cases hsome
  | some length =>
      rcases region?_eq_some_iff.mp hword with ⟨hsum, hinside, rfl⟩
      show (if countAt bytes offset < Numeral.bound64 then
        region? bytes (behindWord offset) (countAt bytes offset) else none) = some data ↔ _
      rw [behindWord_eq hsum, Option.ite_none_right_eq_some, region?_eq_some_iff]
      constructor
      · rintro ⟨_, _, hdata, rfl⟩
        exact ⟨hinside, hdata, rfl⟩
      · rintro ⟨_, hdata, rfl⟩
        have hend := Nat.lt_of_le_of_lt hdata hbound
        exact ⟨Nat.lt_of_le_of_lt (Nat.le_add_left _ _) hend, hend, hdata, rfl⟩

/-!
## Values
-/

/-- A name whose values take one word. -/
structure OneWord (name : String) : Prop where
  noString : name ≠ "string"
  noBytes : name ≠ "bytes" ∧ name ≠ "bytes[]"
  noCount : forall n, ¬ OfBytes name n

/-- What is shown at an offset under a name, by the bytes that its values take. -/
inductive Shows (bytes : List UInt8) (offset : Nat) (name : String) : String -> Prop where
  | fixed {n : Nat} (hname : OfBytes name n) (hinside : offset + n ≤ bytes.length) :
      Shows bytes offset name ("0x" ++ Numeral.hexOfBytes (slice bytes offset n))
  | string (hname : name = "string") (hlength : offset + 32 ≤ bytes.length)
      (hinside : offset + 32 + countAt bytes offset ≤ bytes.length) :
      Shows bytes offset name
        (Utf8.lossy (slice bytes (offset + 32) (countAt bytes offset)))
  | bytes (hname : name = "bytes" ∨ name = "bytes[]") (hlength : offset + 32 ≤ bytes.length)
      (hinside : offset + 32 + countAt bytes offset ≤ bytes.length) :
      Shows bytes offset name
        ("0x" ++ Numeral.hexOfBytes (slice bytes (offset + 32) (countAt bytes offset)))
  | word (hname : OneWord name) (hinside : offset + 32 ≤ bytes.length) :
      Shows bytes offset name
        (showWord (.ofName name) (.int (wordOfBytes (slice bytes offset 32))))

theorem showMemoryAt_word {t : TypeName} (bytes : List UInt8) (offset : Nat)
    (hstring : t ≠ .string) (hbytes : t ≠ .bytes) (hcount : forall n, t ≠ .fixedBytes n) :
    showMemoryAt t bytes offset =
      (region? bytes offset wordSize).map fun data => showNumber t (wordOfBytes data) := by
  cases t with
  | string => exact absurd rfl hstring
  | bytes => exact absurd rfl hbytes
  | fixedBytes n => exact absurd rfl (hcount n)
  | _ => rfl

theorem OneWord.showMemoryAt_eq {name : String} (h : OneWord name) (bytes : List UInt8)
    (offset : Nat) :
    showMemoryAt (.ofName name) bytes offset =
      (region? bytes offset wordSize).map fun data =>
        showWord (.ofName name) (.int (wordOfBytes data)) := by
  apply showMemoryAt_word
  · intro hname
    exact h.noString (TypeName.ofName_eq_string_iff.mp hname)
  · intro hname
    rcases TypeName.ofName_eq_bytes_iff.mp hname with hbytes | hbytes
    · exact h.noBytes.1 hbytes
    · exact h.noBytes.2 hbytes
  · intro n hname
    exact h.noCount n (TypeName.ofName_eq_fixedBytes_iff.mp hname)

theorem showMemoryAt_of_shows {bytes : List UInt8} {offset : Nat} {name shown : String}
    (hbound : bytes.length < Numeral.bound64) (h : Shows bytes offset name shown) :
    showMemoryAt (.ofName name) bytes offset = some shown := by
  have hregion : forall start size, start + size ≤ bytes.length ->
      region? bytes start size = some (slice bytes start size) := by
    intro start size hinside
    exact region?_eq_some_iff.mpr ⟨Nat.lt_of_le_of_lt hinside hbound, hinside, rfl⟩
  cases h with
  | fixed hname hinside =>
      rw [TypeName.ofName_eq_fixedBytes_iff.mpr hname]
      show (region? bytes offset _).map _ = _
      rw [hregion _ _ hinside]
      rfl
  | string hname hlength hinside =>
      rw [TypeName.ofName_eq_string_iff.mpr hname]
      show (counted? bytes offset).map _ = _
      rw [(counted?_eq_some_iff hbound).mpr ⟨hlength, hinside, rfl⟩]
      rfl
  | bytes hname hlength hinside =>
      rw [TypeName.ofName_eq_bytes_iff.mpr hname]
      show (counted? bytes offset).map _ = _
      rw [(counted?_eq_some_iff hbound).mpr ⟨hlength, hinside, rfl⟩]
      rfl
  | word hname hinside =>
      rw [hname.showMemoryAt_eq, hregion offset wordSize hinside]
      rfl

theorem OneWord.of_other {name : String} (hcount : ¬ exists n, OfBytes name n)
    (hstring : name ≠ "string") (hbytes : ¬ (name = "bytes" ∨ name = "bytes[]")) :
    OneWord name := by
  constructor
  · exact hstring
  · exact not_or.mp hbytes
  · exact not_exists.mp hcount

theorem shows_of_showMemoryAt {bytes : List UInt8} {offset : Nat} {name shown : String}
    (hbound : bytes.length < Numeral.bound64)
    (h : showMemoryAt (.ofName name) bytes offset = some shown) :
    Shows bytes offset name shown := by
  by_cases hcount : exists n, OfBytes name n
  · rcases hcount with ⟨n, hname⟩
    rw [TypeName.ofName_eq_fixedBytes_iff.mpr hname] at h
    rcases Option.map_eq_some_iff.mp h with ⟨data, hdata, rfl⟩
    rcases region?_eq_some_iff.mp hdata with ⟨_, hinside, rfl⟩
    exact .fixed hname hinside
  · by_cases hstring : name = "string"
    · rw [TypeName.ofName_eq_string_iff.mpr hstring] at h
      rcases Option.map_eq_some_iff.mp h with ⟨data, hdata, rfl⟩
      rcases (counted?_eq_some_iff hbound).mp hdata with ⟨hlength, hinside, rfl⟩
      exact .string hstring hlength hinside
    · by_cases hbytes : name = "bytes" ∨ name = "bytes[]"
      · rw [TypeName.ofName_eq_bytes_iff.mpr hbytes] at h
        rcases Option.map_eq_some_iff.mp h with ⟨data, hdata, rfl⟩
        rcases (counted?_eq_some_iff hbound).mp hdata with ⟨hlength, hinside, rfl⟩
        exact .bytes hbytes hlength hinside
      · have hword := OneWord.of_other hcount hstring hbytes
        rw [hword.showMemoryAt_eq] at h
        rcases Option.map_eq_some_iff.mp h with ⟨data, hdata, rfl⟩
        rcases region?_eq_some_iff.mp hdata with ⟨_, hinside, rfl⟩
        exact .word hword hinside

/-- Sums and accesses on the way to a value at an offset: the sum that is not checked
is taken only behind a word that exists, and no access leaves the memory. -/
structure Bounded (bytes : List UInt8) (offset : Nat) : Prop where
  unchecked : (region? bytes offset wordSize).isSome = true ->
    offset + wordSize < Numeral.bound64 ∧ behindWord offset = offset + wordSize
  checked : forall start size data, region? bytes start size = some data ->
    start + size < Numeral.bound64 ∧ start + size ≤ bytes.length ∧
      data = slice bytes start size ∧ data.length = size

theorem bounded (bytes : List UInt8) (offset : Nat) : Bounded bytes offset := by
  constructor
  · intro h
    rcases Option.isSome_iff_exists.mp h with ⟨data, hdata⟩
    have hsum := (region?_eq_some_iff.mp hdata).1
    exact ⟨hsum, behindWord_eq hsum⟩
  · intro start size data h
    rcases region?_eq_some_iff.mp h with ⟨hsum, hinside, rfl⟩
    exact ⟨hsum, hinside, rfl, length_slice hinside⟩

/-- A value is shown exactly when the text behind the marks is an even number of
hexadecimal digits and the bytes that the type needs exist, and it is made of them.  The
length of a text is a number of sixty-four bits; an offset and a counted length need not
be small. -/
theorem showMemory_eq_some_iff {memory : String} (hbound : memory.length < Numeral.bound64)
    (name : String) (offset : Nat) :
    (forall shown, showMemory (.ofName name) memory offset = some shown ↔
      exists bytes, Writes memory bytes ∧ Shows bytes offset name shown) ∧
      ((exists bytes, Writes memory bytes) ↔
        exists digits, Marked memory digits ∧ digits.length % 2 = 0 ∧
          forall c, c ∈ digits -> (Numeral.digit? 16 c).isSome = true) ∧
      (forall bytes, Writes memory bytes -> Bounded bytes offset) := by
  refine ⟨?_, ?_, fun bytes _ => bounded bytes offset⟩
  · intro shown
    unfold showMemory
    constructor
    · intro h
      split at h
      · cases h
      · rename_i bytes hbytes
        have hwrites := memoryBytes?_eq_some_iff.mp hbytes
        have hlength := Nat.lt_of_le_of_lt (length_of_writes hwrites) hbound
        exact ⟨bytes, hwrites, shows_of_showMemoryAt hlength h⟩
    · rintro ⟨bytes, hwrites, hshows⟩
      have hlength := Nat.lt_of_le_of_lt (length_of_writes hwrites) hbound
      rw [memoryBytes?_eq_some_iff.mpr hwrites]
      exact showMemoryAt_of_shows hlength hshows
  · constructor
    · rintro ⟨bytes, digits, hmarked, hbytes⟩
      exact ⟨digits, hmarked, (Numeral.exists_bytesOfHex?_iff digits).mp ⟨bytes, hbytes⟩⟩
    · rintro ⟨digits, hmarked, hdigits⟩
      rcases (Numeral.exists_bytesOfHex?_iff digits).mpr hdigits with ⟨bytes, hbytes⟩
      exact ⟨bytes, digits, hmarked, hbytes⟩

theorem showMemory_two_bytes :
    "0x0x00ff".length < Numeral.bound64 ∧
      showMemory (.ofName "bytes2") "0x0x00ff" 0 = some "0x00ff" := by
  have hwrites : Writes "0x0x00ff" [0x00, 0xff] := by
    refine ⟨['0', '0', 'f', 'f'], ⟨2, [], ?_, Or.inl rfl⟩, ?_⟩ <;> decide
  have hname : OfBytes "bytes2" 2 := TypeName.byteCount?_eq_some_iff.mp (by decide)
  have hshows : Shows [0x00, 0xff] 0 "bytes2" "0x00ff" := .fixed hname (by decide)
  refine ⟨by decide, ?_⟩
  exact ((showMemory_eq_some_iff (by decide) "bytes2" 0).1 "0x00ff").mpr ⟨_, hwrites, hshows⟩

/-- A value is shown although the text is hexadecimal neither behind its first `0x` nor
behind all of them. -/
theorem showMemory_behind_other_mark :
    showMemory (.ofName "bytes1") "0x0x0X00" 0 = some "0x00" ∧
      Text.afterStart? "0x" "0x0x0X00" = some "0x0X00" ∧
      Numeral.bytesOfHex? "0x0X00".toList = none ∧
      dropHexMarks "0x0x0X00".toList = "0X00".toList ∧
      Numeral.bytesOfHex? "0X00".toList = none := by
  decide

end Evm
end TraceAdapter
