import TraceAdapter.Evm.Address
import TraceAdapter.Proofs.Evm.WordTexts
import TraceAdapter.Text.Blank

/-!
# Addresses and their checksum

The hash of any text has a digit for each digit of an address, so the checksum only
changes the case of letters, and addresses that are shown alike are the same.
-/

namespace TraceAdapter
namespace Evm

/-!
## The length of a hash
-/

namespace Keccak

theorem length_tabulate (f : Nat -> Nat -> UInt64) : (tabulate f).length = 25 := by
  simp [tabulate]

theorem length_iota (c : UInt64) (state : List UInt64) :
    (iota c state).length = state.length := by
  cases state with
  | nil => rfl
  | cons x rest => rfl

theorem length_permute {state : List UInt64} (h : state.length = 25) :
    (permute state).length = 25 := by
  have hrounds : forall rounds : List UInt64,
      (rounds.foldl (fun s c => iota c (chi (pi (rho (theta s))))) state).length = 25 := by
    intro rounds
    induction rounds using List.reverseRecOn with
    | nil => exact h
    | append_singleton rounds c _ =>
        rw [List.foldl_append, List.foldl_cons, List.foldl_nil, length_iota]
        exact length_tabulate _
  exact hrounds roundConstants

theorem length_absorb (state : List UInt64) (block : List UInt8) :
    (absorb state block).length = 25 :=
  length_permute (length_tabulate _)

theorem length_bytesOfLane (x : UInt64) : (bytesOfLane x).length = 8 := by
  simp [bytesOfLane]

theorem length_absorbAll (blocks : List (List UInt8)) {state : List UInt64}
    (h : state.length = 25) : (blocks.foldl absorb state).length = 25 := by
  induction blocks generalizing state with
  | nil => exact h
  | cons block rest ih => exact ih (length_absorb state block)

theorem length_hash (bytes : List UInt8) : (hash bytes).length = 32 := by
  have hlanes : forall state : List UInt64, state.length = 25 ->
      ((state.flatMap bytesOfLane).take 32).length = 32 := by
    intro state hstate
    simp [List.length_flatMap, length_bytesOfLane, hstate]
  exact hlanes _ (length_absorbAll _ List.length_replicate)

end Keccak

/-!
## The case of letters
-/

namespace Address

theorem length_hashDigits (digits : String) : (hashDigits digits).length = 64 := by
  unfold hashDigits
  simp [List.length_flatMap, Keccak.length_hash]

theorem toLower_checked {d : Nat} (h : d < 16) (hashed : Nat) :
    (checked (Nat.digitChar d) hashed).toLower = Nat.digitChar d := by
  have hupper : forall d, d < 16 -> (Nat.digitChar d).toUpper.toLower = Nat.digitChar d := by
    decide
  unfold checked
  split_ifs with hlarge
  · exact hupper d h
  · exact Numeral.toLower_digitChar h

theorem map_toLower_zipWith {ds : List Nat} {hashed : List Nat}
    (hsmall : forall d, d ∈ ds -> d < 16) (hlength : ds.length ≤ hashed.length) :
    (List.zipWith checked (ds.map Nat.digitChar) hashed).map Char.toLower =
      ds.map Nat.digitChar := by
  induction ds generalizing hashed with
  | nil => rfl
  | cons d rest ih =>
      cases hashed with
      | nil => exact absurd hlength (by simp)
      | cons h hashed =>
          rw [List.forall_mem_cons] at hsmall
          rw [List.map_cons, List.zipWith_cons_cons, List.map_cons, toLower_checked hsmall.1,
            ih hsmall.2 (Nat.le_of_succ_le_succ hlength)]

theorem exists_padded {n : Nat} (hn : n < 2 ^ 160) :
    exists ds : List Nat, (Numeral.paddedHex 40 n).toList = ds.map Nat.digitChar ∧
      (forall d, d ∈ ds -> d < 16) ∧ ds.length = 40 := by
  rcases Numeral.exists_shortest (show 1 < 16 by decide) n with ⟨ds, htext, hds⟩
  have hlength : ds.length ≤ 40 := by
    have hdigits := Nat.toDigits_length 16 n 40 (by decide) (by
      calc n < 2 ^ 160 := hn
        _ = 16 ^ 40 := by decide)
    rw [htext, List.length_map] at hdigits
    exact hdigits
  refine ⟨List.replicate (40 - ds.length) 0 ++ ds, ?_, ?_, ?_⟩
  · unfold Numeral.paddedHex
    rw [String.toList_ofList, htext, List.length_map, List.map_append, List.map_replicate]
    rfl
  · intro d hd
    rcases List.mem_append.mp hd with hzero | hdigit
    · rw [List.eq_of_mem_replicate hzero]
      decide
    · exact hds.small d hdigit
  · rw [List.length_append, List.length_replicate]
    omega

theorem lowerAscii_checksum (address : BitVec 160) :
    Text.lowerAscii (checksum address) = "0x" ++ Numeral.paddedHex 40 address.toNat := by
  rcases exists_padded address.isLt with ⟨ds, htext, hsmall, hlength⟩
  have henough : ds.length ≤ (hashDigits (Numeral.paddedHex 40 address.toNat)).length := by
    rw [hlength, length_hashDigits]
    decide
  have hlower := map_toLower_zipWith hsmall henough
  unfold checksum Text.lowerAscii
  rw [← String.toList_inj]
  simp only [String.toList_append, String.toList_ofList, List.map_append, htext, hlower]
  rfl

theorem checksum_inj {a b : BitVec 160} : checksum a = checksum b ↔ a = b := by
  constructor
  · intro h
    have hlower := congrArg Text.lowerAscii h
    rw [lowerAscii_checksum, lowerAscii_checksum] at hlower
    have ha := Word.denotes_marked_padded 40 a.toNat
    rw [hlower] at ha
    exact BitVec.toNat_inj.mp (ha.unique (Word.denotes_marked_padded 40 b.toNat))
  · rintro rfl
    rfl

end Address
end Evm
end TraceAdapter
