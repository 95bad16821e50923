import TraceAdapter.Proofs.Evm.Memory

/-!
# One value in different places

A word is shown alike on the stack, where its bytes stand in memory, and in storage.
-/

namespace TraceAdapter
namespace Evm

open Evm.TypeName (wordSize OfBytes)

/-!
## The bytes of a word
-/

/-- The lowest bytes of a number, the highest of them first. -/
def lowestBytes (count n : Nat) : List UInt8 :=
  (List.range count).map fun i => UInt8.ofNat (n / Nat.pow 2 (8 * (count - 1 - i)))

theorem wordBytes_eq (v : BitVec 256) : wordBytes v = lowestBytes wordSize v.toNat := rfl

@[simp] theorem length_lowestBytes (count n : Nat) : (lowestBytes count n).length = count := by
  simp [lowestBytes]

theorem lowestBytes_succ (count n : Nat) :
    lowestBytes (count + 1) n = lowestBytes count (n / 256) ++ [UInt8.ofNat n] := by
  unfold lowestBytes
  rw [List.range_succ, List.map_append, List.map_singleton]
  congr 1
  · apply List.map_congr_left
    intro i hi
    have hi' := List.mem_range.mp hi
    have hexponent : 8 * (count + 1 - 1 - i) = 8 + 8 * (count - 1 - i) := by omega
    rw [hexponent, Nat.pow_eq, Nat.pow_eq, Nat.pow_add, Nat.div_div_eq_div_mul]
  · rw [Nat.add_sub_cancel, Nat.sub_self, Nat.mul_zero]
    simp

theorem foldl_lowestBytes (count n : Nat) :
    (lowestBytes count n).foldl (fun m b => m * 256 + b.toNat) 0 = n % 2 ^ (8 * count) := by
  induction count generalizing n with
  | zero => rw [Nat.mul_zero, Nat.pow_zero, Nat.mod_one, lowestBytes]; rfl
  | succ count ih =>
      have hmodulus : 2 ^ (8 * (count + 1)) = 256 * 2 ^ (8 * count) := by
        rw [Nat.mul_succ, Nat.add_comm, Nat.pow_add]
      have hlast : (UInt8.ofNat n).toNat = n % 256 := UInt8.toNat_ofNat'
      rw [lowestBytes_succ, List.foldl_append, ih, List.foldl_cons, List.foldl_nil, hlast,
        hmodulus, Nat.mod_mul, Nat.add_comm, Nat.mul_comm]

theorem wordOfBytes_wordBytes (v : BitVec 256) : wordOfBytes (wordBytes v) = v := by
  unfold wordOfBytes
  rw [wordBytes_eq, foldl_lowestBytes]
  have hbound : v.toNat % 2 ^ (8 * wordSize) = v.toNat := Nat.mod_eq_of_lt v.isLt
  rw [hbound, BitVec.ofNat_toNat, BitVec.setWidth_eq]

/-!
## Agreement
-/

theorem inside_of_slice_eq {bytes data : List UInt8} {offset size : Nat}
    (h : slice bytes offset size = data) (hsize : data.length = size) (hsome : 0 < size) :
    offset + size ≤ bytes.length := by
  have hlength := congrArg List.length h
  unfold slice at hlength
  rw [List.length_take, List.length_drop, hsize] at hlength
  omega

theorem slice_take {bytes : List UInt8} {start size part : Nat} (h : part ≤ size) :
    slice bytes start part = (slice bytes start size).take part := by
  unfold slice
  rw [List.take_take, Nat.min_eq_left h]

theorem shows_showWord {bytes : List UInt8} {offset : Nat} {name : String} {v : BitVec 256}
    (hstring : name ≠ "string") (hbytes : name ≠ "bytes" ∧ name ≠ "bytes[]")
    (h : slice bytes offset wordSize = wordBytes v) :
    Shows bytes offset name (showWord (.ofName name) (.int v)) := by
  have hinside : offset + wordSize ≤ bytes.length :=
    inside_of_slice_eq h (length_lowestBytes wordSize v.toNat) (by decide)
  by_cases hcount : exists n, OfBytes name n
  · rcases hcount with ⟨n, hname⟩
    have hpart : slice bytes offset n = (wordBytes v).take n := by
      rw [← h]
      exact slice_take hname.atMost
    have hshown : showWord (.ofName name) (.int v) =
        "0x" ++ Numeral.hexOfBytes (slice bytes offset n) := by
      rw [hpart, TypeName.ofName_eq_fixedBytes_iff.mpr hname]
      rfl
    rw [hshown]
    exact .fixed hname (Nat.le_trans (Nat.add_le_add_left hname.atMost offset) hinside)
  · have hname := OneWord.of_other hcount hstring (not_or.mpr hbytes)
    have hvalue : wordOfBytes (slice bytes offset 32) = v := by
      rw [← wordOfBytes_wordBytes v, ← h]
      rfl
    have hshown : Shows bytes offset name
        (showWord (.ofName name) (.int (wordOfBytes (slice bytes offset 32)))) :=
      .word hname hinside
    rw [hvalue] at hshown
    exact hshown

/-- A word is shown alike where its bytes stand in memory and in a slot of storage. -/
theorem showMemory_eq_showStorage {name memory raw : String} {bytes : List UInt8}
    {storage : List (String × String)} {offset slot : Nat} {v : BitVec 256}
    (hstring : name ≠ "string") (hbytes : name ≠ "bytes" ∧ name ≠ "bytes[]")
    (hbound : memory.length < Numeral.bound64) (hmemory : memoryBytes? memory = some bytes)
    (hword : slice bytes offset wordSize = wordBytes v)
    (hslot : slotText? storage slot = some raw) (hraw : Word.ofHex raw = .int v) :
    showMemory (.ofName name) memory offset = showStorage (.ofName name) storage slot ∧
      showStorage (.ofName name) storage slot =
        some (showWord (.ofName name) (.int v)) := by
  have hlength := Nat.lt_of_le_of_lt
    (length_of_writes (memoryBytes?_eq_some_iff.mp hmemory)) hbound
  have hshown := showMemoryAt_of_shows hlength (shows_showWord hstring hbytes hword)
  have hstored : showStorage (.ofName name) storage slot =
      some (showWord (.ofName name) (.int v)) := by
    unfold showStorage
    rw [hslot, ← hraw]
    rfl
  refine ⟨?_, hstored⟩
  unfold showMemory
  rw [hmemory, hstored]
  exact hshown

theorem showMemory_eq_showStorage_int16 :
    exists bytes, ("int16" ≠ "string" ∧ "int16" ≠ "bytes" ∧ "int16" ≠ "bytes[]") ∧
      (Numeral.paddedHex 64 0x8001).length < Numeral.bound64 ∧
      memoryBytes? (Numeral.paddedHex 64 0x8001) = some bytes ∧
      slice bytes 0 wordSize = wordBytes 0x8001#256 ∧
      slotText? [("0x1", "0x8001")] 1 = some "0x8001" ∧
      Word.ofHex "0x8001" = .int 0x8001#256 ∧
      showMemory (.ofName "int16") (Numeral.paddedHex 64 0x8001) 0 =
        showStorage (.ofName "int16") [("0x1", "0x8001")] 1 ∧
      showStorage (.ofName "int16") [("0x1", "0x8001")] 1 = some "-32767" := by
  have hmemory : memoryBytes? (Numeral.paddedHex 64 0x8001) =
      some (List.replicate 30 0 ++ [0x80, 0x01]) := by decide +kernel
  have hbound : (Numeral.paddedHex 64 0x8001).length < Numeral.bound64 := by decide
  have hword : slice (List.replicate 30 0 ++ [0x80, 0x01]) 0 wordSize =
      wordBytes 0x8001#256 := by decide +kernel
  have hslot : slotText? [("0x1", "0x8001")] 1 = some "0x8001" := by decide
  have hraw : Word.ofHex "0x8001" = .int 0x8001#256 := by decide
  have hstring : "int16" ≠ "string" := by decide
  have hbytes : "int16" ≠ "bytes" ∧ "int16" ≠ "bytes[]" := by decide
  have hshown := showMemory_eq_showStorage hstring hbytes hbound hmemory hword hslot hraw
  exact ⟨_, ⟨hstring, hbytes⟩, hbound, hmemory, hword, hslot, hraw, hshown.1, hshown.2⟩

end Evm
end TraceAdapter
