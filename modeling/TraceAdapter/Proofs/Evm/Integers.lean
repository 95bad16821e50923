import Mathlib.Data.Int.ModEq
import Mathlib.Data.Nat.Bitwise
import Mathlib.Tactic.Linarith
import Mathlib.Tactic.Positivity
import Mathlib.Tactic.Ring
import TraceAdapter.Evm.Decoding
import TraceAdapter.Proofs.Evm.TypeNames

/-!
# Integers of every width

The mask, the sign bit and the distance from zero are computed in words of 256
bits.  Read as natural numbers they are the remainder of the word, the upper half
of the remainders, and what is missing up to the power of two; the shown number is
the residue of the word that is closest to zero.
-/

namespace TraceAdapter
namespace Evm

variable {bits : Nat}

/-!
## The operations as natural numbers
-/

theorem toNat_powerOfTwo (h : bits < 256) : (powerOfTwo bits).toNat = 2 ^ bits := by
  have hpower : 2 ^ bits < 2 ^ 256 := Nat.pow_lt_pow_right (by decide) h
  unfold powerOfTwo
  rw [BitVec.toNat_shiftLeft, BitVec.toNat_ofNat, Nat.one_mod_two_pow (by decide),
    Nat.one_shiftLeft, Nat.mod_eq_of_lt hpower]

theorem one_le_powerOfTwo (h : bits < 256) : 1#256 ≤ powerOfTwo bits := by
  rw [BitVec.le_def, toNat_powerOfTwo h]
  exact Nat.one_le_two_pow

theorem toNat_lowMask (h : bits < 256) : (lowMask bits).toNat = 2 ^ bits - 1 := by
  unfold lowMask
  rw [BitVec.toNat_sub_of_le (one_le_powerOfTwo h), toNat_powerOfTwo h]
  rfl

theorem toNat_lowBits (h : bits ≤ 256) (v : BitVec 256) :
    (lowBits bits v).toNat = v.toNat % 2 ^ bits := by
  unfold lowBits
  split_ifs with hfull
  · have hbits : bits = 256 := Nat.le_antisymm h hfull
    rw [hbits, Nat.mod_eq_of_lt v.isLt]
  · rw [BitVec.toNat_and, toNat_lowMask (Nat.lt_of_not_le hfull),
      Nat.and_two_pow_sub_one_eq_mod]

theorem lowBits_lt (h : bits ≤ 256) (v : BitVec 256) :
    (lowBits bits v).toNat < 2 ^ bits := by
  rw [toNat_lowBits h]
  exact Nat.mod_lt _ (Nat.two_pow_pos bits)

theorem two_pow_eq (hpos : 0 < bits) : 2 ^ bits = 2 * 2 ^ (bits - 1) := by
  rw [← Nat.pow_succ', Nat.succ_eq_add_one, Nat.sub_add_cancel hpos]

theorem isNegative_iff (hpos : 0 < bits) {low : BitVec 256} (hlow : low.toNat < 2 ^ bits) :
    isNegative bits low = true ↔ 2 ^ (bits - 1) ≤ low.toNat := by
  have hhalf : 0 < 2 ^ (bits - 1) := Nat.two_pow_pos _
  have hquotient : low.toNat / 2 ^ (bits - 1) < 2 := by
    rw [Nat.div_lt_iff_lt_mul hhalf, ← two_pow_eq hpos]
    exact hlow
  have hupper : 1 ≤ low.toNat / 2 ^ (bits - 1) ↔ 2 ^ (bits - 1) ≤ low.toNat := by
    rw [Nat.le_div_iff_mul_le hhalf, Nat.one_mul]
  unfold isNegative
  rw [← BitVec.testBit_toNat, Nat.testBit_eq_decide_div_mod_eq, decide_eq_true_iff,
    Nat.mod_eq_of_lt hquotient, ← hupper]
  omega

theorem le_powerOfTwo (h : bits < 256) {low : BitVec 256} (hlow : low.toNat < 2 ^ bits) :
    low ≤ powerOfTwo bits := by
  rw [BitVec.le_def, toNat_powerOfTwo h]
  exact hlow.le

theorem toNat_complement_succ {low : BitVec 256} (h : 0 < low.toNat) :
    (~~~low + 1#256).toNat = (~~~low).toNat + 1 := by
  have hlow := low.isLt
  apply BitVec.toNat_add_of_lt
  rw [BitVec.toNat_not, BitVec.toNat_ofNat, Nat.one_mod_two_pow (by decide)]
  omega

theorem toNat_magnitude (hpos : 0 < bits) (hmost : bits ≤ 256) {low : BitVec 256}
    (hlow : low.toNat < 2 ^ bits) (hnegative : isNegative bits low = true) :
    (magnitude bits low).toNat + low.toNat = 2 ^ bits := by
  unfold magnitude
  split_ifs with hfull
  · have hbits : bits = 256 := Nat.le_antisymm hmost hfull
    subst hbits
    have hhalf := (isNegative_iff hpos hlow).mp hnegative
    rw [toNat_complement_succ (Nat.lt_of_lt_of_le (Nat.two_pow_pos _) hhalf), BitVec.toNat_not]
    omega
  · have hbits : bits < 256 := Nat.lt_of_not_le hfull
    rw [BitVec.toNat_sub_of_le (le_powerOfTwo hbits hlow), toNat_powerOfTwo hbits,
      Nat.sub_add_cancel hlow.le]

/-!
## The number that is shown
-/

/-- A number that the lowest bits of a word stand for in two's complement. -/
structure Represents (bits : Nat) (v : BitVec 256) (z : Int) : Prop where
  least : -2 ^ (bits - 1) ≤ z
  greatest : z < 2 ^ (bits - 1)
  residue : z ≡ (v.toNat : Int) [ZMOD 2 ^ bits]

theorem Represents.unique (hpos : 0 < bits) {v : BitVec 256} {y z : Int}
    (hy : Represents bits v y) (hz : Represents bits v z) : y = z := by
  have hsame : z ≡ y [ZMOD 2 ^ bits] := hz.residue.trans hy.residue.symm
  have hdouble : (2 : Int) ^ bits = 2 * 2 ^ (bits - 1) := by exact_mod_cast two_pow_eq hpos
  have hclose : |y - z| < 2 ^ bits := by
    rw [abs_lt, hdouble]
    constructor
    · linarith [hy.least, hz.greatest]
    · linarith [hy.greatest, hz.least]
  exact Int.sub_eq_zero.mp (Int.eq_zero_of_abs_lt_dvd hsame.dvd hclose)

theorem remainder_modEq (bits : Nat) (v : BitVec 256) :
    ((v.toNat % 2 ^ bits : Nat) : Int) ≡ (v.toNat : Int) [ZMOD 2 ^ bits] := by
  rw [Int.natCast_mod, Nat.cast_pow]
  exact Int.mod_modEq _ _

theorem represents_of_lower {v : BitVec 256} {low : Nat} (hlow : low = v.toNat % 2 ^ bits)
    (h : low < 2 ^ (bits - 1)) : Represents bits v (low : Int) := by
  constructor
  · have hhalf : (0 : Int) ≤ 2 ^ (bits - 1) := by positivity
    linarith [Int.natCast_nonneg low]
  · exact_mod_cast h
  · rw [hlow]
    exact remainder_modEq bits v

theorem represents_of_upper (hpos : 0 < bits) {v : BitVec 256} {low lacks : Nat}
    (hlow : low = v.toNat % 2 ^ bits) (h : 2 ^ (bits - 1) ≤ low)
    (hlacks : lacks + low = 2 ^ bits) : Represents bits v (-(lacks : Int)) := by
  have hdouble := two_pow_eq hpos
  have hhalf : 0 < 2 ^ (bits - 1) := Nat.two_pow_pos _
  constructor
  · have hmost : lacks ≤ 2 ^ (bits - 1) := by omega
    have hmost' : (lacks : Int) ≤ 2 ^ (bits - 1) := by exact_mod_cast hmost
    exact Int.neg_le_neg hmost'
  · have hleast : -(lacks : Int) ≤ 0 := Int.neg_nonpos_of_nonneg (Int.natCast_nonneg lacks)
    have hhalf' : (0 : Int) < 2 ^ (bits - 1) := by exact_mod_cast hhalf
    exact lt_of_le_of_lt hleast hhalf'
  · have hvalue : -(lacks : Int) = (low : Int) - 2 ^ bits := by
      have hsum : (lacks : Int) + low = 2 ^ bits := by exact_mod_cast hlacks
      rw [← hsum]
      ring
    have hmodulus : (low : Int) - 2 ^ bits ≡ low [ZMOD 2 ^ bits] :=
      (Int.modEq_sub_modulus_iff.mpr rfl).symm
    rw [hvalue]
    rw [hlow] at hmodulus ⊢
    exact hmodulus.trans (remainder_modEq bits v)

theorem signedDecimal_natCast (n : Nat) :
    Numeral.signedDecimal (n : Int) = Numeral.decimal n := rfl

theorem signedDecimal_neg {n : Nat} (h : 0 < n) :
    Numeral.signedDecimal (-(n : Int)) = "-" ++ Numeral.decimal n := by
  cases n with
  | zero => cases h
  | succ n => rfl

theorem exists_represents_showSigned (hpos : 0 < bits) (hmost : bits ≤ 256) (v : BitVec 256) :
    exists z, Represents bits v z ∧ showSigned bits v = Numeral.signedDecimal z := by
  have hlow := lowBits_lt hmost v
  have hremainder := toNat_lowBits hmost v
  unfold showSigned
  cases hnegative : isNegative bits (lowBits bits v) with
  | true =>
      have hupper := (isNegative_iff hpos hlow).mp hnegative
      have hlacks := toNat_magnitude hpos hmost hlow hnegative
      have hsome : 0 < (magnitude bits (lowBits bits v)).toNat := by omega
      refine ⟨_, represents_of_upper hpos hremainder hupper hlacks, ?_⟩
      rw [if_pos hnegative, signedDecimal_neg hsome]
  | false =>
      have hlower : (lowBits bits v).toNat < 2 ^ (bits - 1) := by
        rw [← Nat.not_le, ← isNegative_iff hpos hlow, hnegative]
        exact Bool.false_ne_true
      refine ⟨_, represents_of_lower hremainder hlower, ?_⟩
      rw [if_neg (by rw [hnegative]; exact Bool.false_ne_true), signedDecimal_natCast]

theorem showSigned_eq (hpos : 0 < bits) (hmost : bits ≤ 256) {v : BitVec 256} {z : Int}
    (h : Represents bits v z) : showSigned bits v = Numeral.signedDecimal z := by
  rcases exists_represents_showSigned hpos hmost v with ⟨y, hy, hshown⟩
  rw [hshown, hy.unique hpos h]

theorem existsUnique_represents (hpos : 0 < bits) (hmost : bits ≤ 256) (v : BitVec 256) :
    ∃! z, Represents bits v z := by
  rcases exists_represents_showSigned hpos hmost v with ⟨z, hz, _⟩
  exact ⟨z, hz, fun y hy => hy.unique hpos hz⟩

theorem showUnsigned_eq (hmost : bits ≤ 256) (v : BitVec 256) :
    showUnsigned bits v = Numeral.decimal (v.toNat % 2 ^ bits) := by
  unfold showUnsigned
  rw [toNat_lowBits hmost]

/-!
## Names of integer types
-/

/-- No operation on the way to a shown number loses a bit or leaves the words of 256
bits: the shift, the difference that is the mask, the index of the sign bit, the
difference and the successor that are the distance from zero. -/
structure Exact (bits : Nat) (v : BitVec 256) : Prop where
  shift : bits < 256 -> (1#256 <<< bits).toNat = 2 ^ bits
  mask : bits < 256 -> (powerOfTwo bits - 1#256).toNat + 1 = (powerOfTwo bits).toNat
  signBit : 1 ≤ bits ∧ bits - 1 < 256
  difference : bits < 256 ->
    (powerOfTwo bits - lowBits bits v).toNat + (lowBits bits v).toNat = (powerOfTwo bits).toNat
  successor : bits = 256 -> isNegative bits (lowBits bits v) = true ->
    (~~~lowBits bits v + 1#256).toNat = (~~~lowBits bits v).toNat + 1
  distance : isNegative bits (lowBits bits v) = true ->
    (magnitude bits (lowBits bits v)).toNat + (lowBits bits v).toNat = 2 ^ bits

theorem exact_of_width (hpos : 0 < bits) (hmost : bits ≤ 256) (v : BitVec 256) :
    Exact bits v := by
  have hlow := lowBits_lt hmost v
  constructor
  · intro h
    exact toNat_powerOfTwo h
  · intro h
    rw [BitVec.toNat_sub_of_le (one_le_powerOfTwo h)]
    exact Nat.sub_add_cancel (one_le_powerOfTwo h)
  · exact ⟨hpos, Nat.lt_of_lt_of_le (Nat.sub_one_lt_of_lt hpos) hmost⟩
  · intro h
    rw [BitVec.toNat_sub_of_le (le_powerOfTwo h hlow)]
    exact Nat.sub_add_cancel (le_powerOfTwo h hlow)
  · intro _ hnegative
    have hhalf := (isNegative_iff hpos hlow).mp hnegative
    exact toNat_complement_succ (Nat.lt_of_lt_of_le (Nat.two_pow_pos _) hhalf)
  · intro hnegative
    exact toNat_magnitude hpos hmost hlow hnegative

/-- An integer type shows the remainder of a word at its width, or the number that
it stands for in two's complement, and nothing overflows on the way. -/
theorem showWord_integer (hpos : 0 < bits) (hmost : bits ≤ 256) (hbytes : bits % 8 = 0)
    (v : BitVec 256) :
    showWord (.ofName ("uint" ++ Numeral.decimal bits)) (.int v) =
        Numeral.decimal (v.toNat % 2 ^ bits) ∧
      (∃! z, Represents bits v z) ∧
      (forall z, Represents bits v z ->
        showWord (.ofName ("int" ++ Numeral.decimal bits)) (.int v) =
          Numeral.signedDecimal z) ∧
      Exact bits v ∧
      showWord (.ofName "uint") = showWord (.ofName "uint256") ∧
      showWord (.ofName "int") = showWord (.ofName "int256") := by
  refine ⟨?_, existsUnique_represents hpos hmost v, ?_, exact_of_width hpos hmost v, ?_, ?_⟩
  · rw [TypeName.ofName_unsigned hpos hmost hbytes]
    exact showUnsigned_eq hmost v
  · intro z hz
    rw [TypeName.ofName_signed hpos hmost hbytes]
    exact showSigned_eq hpos hmost hz
  · have hname : TypeName.ofName "uint" = TypeName.ofName "uint256" := by decide
    rw [hname]
  · have hname : TypeName.ofName "int" = TypeName.ofName "int256" := by decide
    rw [hname]

theorem showWord_integer_least :
    0 < 8 ∧ 8 ≤ 256 ∧ 8 % 8 = 0 ∧
      showWord (.ofName "uint8") (.int 0x1180#256) = "128" ∧
      showWord (.ofName "int8") (.int 0x1180#256) = "-128" ∧
      0 < 256 ∧ 256 ≤ 256 ∧ 256 % 8 = 0 ∧
      showWord (.ofName "int256") (.int (1#256 <<< 255)) =
        Numeral.signedDecimal (-2 ^ 255) := by
  have hnarrow := @showWord_integer 8 (by decide) (by decide) (by decide) 0x1180#256
  have hfull := @showWord_integer 256 (by decide) (by decide) (by decide) (1#256 <<< 255)
  have hnarrow' : Represents 8 0x1180#256 (-128) := by
    constructor <;> decide
  have hfull' : Represents 256 (1#256 <<< 255) (-2 ^ 255) := by
    constructor <;> decide
  refine ⟨by decide, by decide, by decide, hnarrow.1, hnarrow.2.2.1 _ hnarrow',
    by decide, by decide, by decide, hfull.2.2.1 _ hfull'⟩

end Evm
end TraceAdapter
