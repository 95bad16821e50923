import TraceAdapter.Proofs.Evm.Agreement
import TraceAdapter.Proofs.Evm.Checksums

/-!
# What a type keeps of a word

A word is shown by some of its bits: the lowest ones as an integer or an address, the
highest ones as bytes, all of them where its type has no rule.  Words that agree on the
kept bits are shown alike, and what is shown tells all others apart.
-/

namespace TraceAdapter

/-!
## Texts of numbers and bytes
-/

namespace Numeral

theorem decimal_ne_negative (m n : Nat) : decimal m ≠ "-" ++ decimal n := by
  intro h
  have hsign : '-' ∈ (decimal m).toList := by
    rw [h, String.toList_append]
    exact List.mem_cons_self
  exact absurd (isDigit_of_mem_decimal hsign) (by decide)

theorem signedDecimal_inj {y z : Int} : signedDecimal y = signedDecimal z ↔ y = z := by
  constructor
  · intro h
    cases y with
    | ofNat m =>
        cases z with
        | ofNat n => rw [decimal_inj.mp h]
        | negSucc n => exact absurd h (decimal_ne_negative m (n + 1))
    | negSucc m =>
        cases z with
        | ofNat n => exact absurd h.symm (decimal_ne_negative n (m + 1))
        | negSucc n =>
            have hdigits : decimal (m + 1) = decimal (n + 1) := by
              simpa [signedDecimal, ← String.toList_inj] using h
            rw [Nat.succ_injective (decimal_inj.mp hdigits)]
  · rintro rfl
    rfl

theorem bytesOfHex?_hexOfBytes (bytes : List UInt8) :
    bytesOfHex? (hexOfBytes bytes).toList = some bytes := by
  unfold hexOfBytes
  rw [String.toList_ofList]
  induction bytes with
  | nil => rfl
  | cons b rest ih =>
      have hbyte := b.toNat_lt
      rw [List.flatMap_cons]
      refine bytesOfHex?_pair.mpr ⟨b.toNat / 16, b.toNat % 16, rest, ?_, ?_, ih, ?_⟩
      · exact Evm.Word.digit?_digitChar (by omega)
      · exact Evm.Word.digit?_digitChar (by omega)
      · rw [Nat.div_add_mod', UInt8.ofNat_toNat]

theorem hexOfBytes_inj {a b : List UInt8} : hexOfBytes a = hexOfBytes b ↔ a = b :=
  write_eq_iff_of_read (fun s => bytesOfHex? s.toList) bytesOfHex?_hexOfBytes

end Numeral

namespace Evm

open Evm.TypeName (wordSize OfWidth OfBytes Unruled)

variable {v w : BitVec 256}

theorem hexText_inj : Word.hexText v = Word.hexText w ↔ v = w :=
  Numeral.write_eq_iff_of_read (fun s => (Word.ofHex s).value?) fun u =>
    congrArg Word.value? (Word.ofHex_hexText u)

/-!
## Bits
-/

theorem mod_two_pow_eq_iff {n : Nat} :
    v.toNat % 2 ^ n = w.toNat % 2 ^ n ↔ forall i, i < n -> v.getLsbD i = w.getLsbD i := by
  constructor
  · intro h i hi
    have hbit := congrArg (Nat.testBit · i) h
    simpa [Nat.testBit_mod_two_pow, hi, BitVec.testBit_toNat] using hbit
  · intro h
    apply Nat.eq_of_testBit_eq
    intro i
    rw [Nat.testBit_mod_two_pow, Nat.testBit_mod_two_pow, BitVec.testBit_toNat,
      BitVec.testBit_toNat]
    by_cases hi : i < n
    · rw [h i hi]
    · simp [hi]

theorem div_two_pow_eq_iff {n : Nat} :
    v.toNat / 2 ^ n = w.toNat / 2 ^ n ↔ forall i, n ≤ i -> v.getLsbD i = w.getLsbD i := by
  constructor
  · intro h i hi
    have hbit := congrArg (Nat.testBit · (i - n)) h
    simpa [Nat.testBit_div_two_pow, Nat.sub_add_cancel hi, BitVec.testBit_toNat] using hbit
  · intro h
    apply Nat.eq_of_testBit_eq
    intro i
    rw [Nat.testBit_div_two_pow, Nat.testBit_div_two_pow, BitVec.testBit_toNat,
      BitVec.testBit_toNat]
    exact h _ (Nat.le_add_left n i)

theorem eq_iff_bits : v = w ↔ forall i, i < 256 -> v.getLsbD i = w.getLsbD i := by
  constructor
  · rintro rfl i _
    rfl
  · exact BitVec.eq_of_getLsbD_eq

/-!
## The highest bytes
-/

theorem take_lowestBytes {part count : Nat} (h : part ≤ count) (n : Nat) :
    (lowestBytes count n).take part = lowestBytes part (n / 2 ^ (8 * (count - part))) := by
  unfold lowestBytes
  rw [← List.map_take, List.take_range, Nat.min_eq_left h]
  apply List.map_congr_left
  intro i hi
  have hi' := List.mem_range.mp hi
  have hexponent : 8 * (count - 1 - i) = 8 * (count - part) + 8 * (part - 1 - i) := by omega
  rw [hexponent, Nat.pow_eq, Nat.pow_eq, Nat.pow_add, Nat.div_div_eq_div_mul]

theorem lowestBytes_eq_iff {count m n : Nat} (hm : m < 2 ^ (8 * count))
    (hn : n < 2 ^ (8 * count)) : lowestBytes count m = lowestBytes count n ↔ m = n := by
  constructor
  · intro h
    have hvalue := foldl_lowestBytes count m
    rw [h, foldl_lowestBytes, Nat.mod_eq_of_lt hm, Nat.mod_eq_of_lt hn] at hvalue
    exact hvalue.symm
  · rintro rfl
    rfl

theorem take_wordBytes_eq_iff {n : Nat} (hn : n ≤ wordSize) :
    (wordBytes v).take n = (wordBytes w).take n ↔
      v.toNat / 2 ^ (256 - 8 * n) = w.toNat / 2 ^ (256 - 8 * n) := by
  have hbytes : wordSize = 32 := rfl
  have hexponent : 8 * (wordSize - n) = 256 - 8 * n := by omega
  have hfits : forall u : BitVec 256, u.toNat / 2 ^ (256 - 8 * n) < 2 ^ (8 * n) := by
    intro u
    rw [Nat.div_lt_iff_lt_mul (Nat.two_pow_pos _), ← Nat.pow_add]
    have hsum : 8 * n + (256 - 8 * n) = 256 := by omega
    rw [hsum]
    exact u.isLt
  rw [wordBytes_eq, wordBytes_eq, take_lowestBytes hn, take_lowestBytes hn, hexponent]
  exact lowestBytes_eq_iff (hfits v) (hfits w)

/-!
## Types
-/

/-- The bits by which a value of a type is shown. -/
def KeptBit : TypeName -> Nat -> Prop
  | .unsigned bits, i | .signed bits, i => i < bits
  | .address, i => i < 160
  | .bool, _ => False
  | .fixedBytes n, i => 256 - 8 * n ≤ i ∧ i < 256
  | .string, i | .bytes, i | .other, i => i < 256

theorem showUnsigned_eq_iff {bits : Nat} (hmost : bits ≤ 256) :
    showUnsigned bits v = showUnsigned bits w ↔ v.toNat % 2 ^ bits = w.toNat % 2 ^ bits := by
  rw [showUnsigned_eq hmost, showUnsigned_eq hmost, Numeral.decimal_inj]

theorem mod_two_pow_eq_iff_modEq {bits : Nat} :
    v.toNat % 2 ^ bits = w.toNat % 2 ^ bits ↔
      (v.toNat : Int) ≡ (w.toNat : Int) [ZMOD 2 ^ bits] := by
  have hcast := Int.natCast_modEq_iff (a := v.toNat) (b := w.toNat) (n := 2 ^ bits)
  rw [Nat.cast_pow] at hcast
  exact hcast.symm

theorem showSigned_eq_iff {bits : Nat} (hpos : 0 < bits) (hmost : bits ≤ 256) :
    showSigned bits v = showSigned bits w ↔ v.toNat % 2 ^ bits = w.toNat % 2 ^ bits := by
  rcases exists_represents_showSigned hpos hmost v with ⟨y, hy, hv⟩
  rcases exists_represents_showSigned hpos hmost w with ⟨z, hz, hw⟩
  rw [hv, hw, Numeral.signedDecimal_inj, mod_two_pow_eq_iff_modEq]
  constructor
  · rintro rfl
    exact hy.residue.symm.trans hz.residue
  · intro h
    exact hy.unique hpos ⟨hz.least, hz.greatest, hz.residue.trans h.symm⟩

theorem setWidth_eq_iff :
    v.setWidth 160 = w.setWidth 160 ↔ v.toNat % 2 ^ 160 = w.toNat % 2 ^ 160 := by
  rw [← BitVec.toNat_inj, BitVec.toNat_setWidth, BitVec.toNat_setWidth]

theorem showNumber_string_eq_iff :
    showNumber .string v = showNumber .string w ↔ v = w := by
  rw [← hexText_inj]
  constructor
  · intro h
    rw [← String.toList_inj] at h ⊢
    simpa [showNumber] using h
  · intro h
    unfold showNumber
    rw [h]

theorem showNumber_bool_eq_iff :
    showNumber .bool v = showNumber .bool w ↔ (v = 0 ↔ w = 0) := by
  show (if v = 0 then "false" else "true") = (if w = 0 then "false" else "true") ↔ _
  split_ifs with hv hw hw
  · exact iff_of_true rfl (iff_of_true hv hw)
  · exact iff_of_false (by decide) fun h => hw (h.mp hv)
  · exact iff_of_false (by decide) fun h => hv (h.mpr hw)
  · exact iff_of_true rfl (iff_of_false hv hw)

/-- What a name can say: widths up to that of a word, and up to 32 bytes. -/
def Sized : TypeName -> Prop
  | .unsigned bits | .signed bits => 0 < bits ∧ bits ≤ 256
  | .fixedBytes n => n ≤ wordSize
  | _ => True

theorem sized_ofName (name : String) : Sized (.ofName name) := by
  cases hname : TypeName.ofName name with
  | unsigned bits =>
      have hwidth := TypeName.ofName_eq_unsigned_iff.mp hname
      exact ⟨hwidth.pos, hwidth.atMost⟩
  | signed bits =>
      have hwidth := TypeName.ofName_eq_signed_iff.mp hname
      exact ⟨hwidth.pos, hwidth.atMost⟩
  | fixedBytes n => exact (TypeName.ofName_eq_fixedBytes_iff.mp hname).atMost
  | _ => trivial

theorem showNumber_eq_iff {t : TypeName} (hsized : Sized t) (hbool : t ≠ .bool) :
    showNumber t v = showNumber t w ↔
      forall i, KeptBit t i -> v.getLsbD i = w.getLsbD i := by
  cases t with
  | unsigned bits => exact (showUnsigned_eq_iff hsized.2).trans mod_two_pow_eq_iff
  | signed bits => exact (showSigned_eq_iff hsized.1 hsized.2).trans mod_two_pow_eq_iff
  | address =>
      exact Address.checksum_inj.trans (setWidth_eq_iff.trans mod_two_pow_eq_iff)
  | bool => exact absurd rfl hbool
  | string => exact showNumber_string_eq_iff.trans eq_iff_bits
  | fixedBytes n =>
      have hshown : showNumber (.fixedBytes n) v = showNumber (.fixedBytes n) w ↔
          (wordBytes v).take n = (wordBytes w).take n := by
        rw [← Numeral.hexOfBytes_inj, ← String.toList_inj, ← String.toList_inj]
        simp [showNumber]
      rw [hshown, take_wordBytes_eq_iff hsized, div_two_pow_eq_iff]
      constructor
      · intro h i hi
        exact h i hi.1
      · intro h i hi
        by_cases hword : i < 256
        · exact h i ⟨hi, hword⟩
        · rw [BitVec.getLsbD_of_ge v i (Nat.le_of_not_lt hword),
            BitVec.getLsbD_of_ge w i (Nat.le_of_not_lt hword)]
  | bytes => exact hexText_inj.trans eq_iff_bits
  | other => exact hexText_inj.trans eq_iff_bits

/-!
## Names
-/

/-- The bits of a word that the type of a name keeps. -/
inductive Keeps (name : String) : Nat -> Prop where
  | integer {bits i : Nat} (hname : OfWidth "uint" name bits ∨ OfWidth "int" name bits)
      (hi : i < bits) : Keeps name i
  | address {i : Nat} (hname : name = "address" ∨ name = "address payable") (hi : i < 160) :
      Keeps name i
  | fixedBytes {n i : Nat} (hname : OfBytes name n) (hleast : 256 - 8 * n ≤ i)
      (hi : i < 256) : Keeps name i
  | whole {i : Nat} (hname : name = "string" ∨ Unruled name) (hi : i < 256) : Keeps name i

theorem keeps_iff {name : String} {i : Nat} : Keeps name i ↔ KeptBit (.ofName name) i := by
  constructor
  · intro h
    cases h with
    | integer hname hi =>
        rcases hname with hname | hname
        · rw [TypeName.ofName_eq_unsigned_iff.mpr hname]
          exact hi
        · rw [TypeName.ofName_eq_signed_iff.mpr hname]
          exact hi
    | address hname hi =>
        rw [TypeName.ofName_eq_address_iff.mpr hname]
        exact hi
    | fixedBytes hname hleast hi =>
        rw [TypeName.ofName_eq_fixedBytes_iff.mpr hname]
        exact ⟨hleast, hi⟩
    | whole hname hi =>
        rcases hname with hname | hname
        · rw [TypeName.ofName_eq_string_iff.mpr hname]
          exact hi
        · rcases TypeName.unruled_iff.mp hname with hname | hname <;> rw [hname] <;> exact hi
  · intro h
    cases hname : TypeName.ofName name with
    | unsigned bits =>
        rw [hname] at h
        exact .integer (Or.inl (TypeName.ofName_eq_unsigned_iff.mp hname)) h
    | signed bits =>
        rw [hname] at h
        exact .integer (Or.inr (TypeName.ofName_eq_signed_iff.mp hname)) h
    | address =>
        rw [hname] at h
        exact .address (TypeName.ofName_eq_address_iff.mp hname) h
    | bool =>
        rw [hname] at h
        exact h.elim
    | string =>
        rw [hname] at h
        exact .whole (Or.inl (TypeName.ofName_eq_string_iff.mp hname)) h
    | fixedBytes n =>
        rw [hname] at h
        exact .fixedBytes (TypeName.ofName_eq_fixedBytes_iff.mp hname) h.1 h.2
    | bytes =>
        rw [hname] at h
        exact .whole (Or.inr (TypeName.unruled_iff.mpr (Or.inl hname))) h
    | other =>
        rw [hname] at h
        exact .whole (Or.inr (TypeName.unruled_iff.mpr (Or.inr hname))) h

/-- Two words are shown alike under a name when they agree on the bits that its type
keeps, and as truth values when both or neither are zero. -/
theorem showWord_eq_iff (name : String) (v w : BitVec 256) :
    (name = "bool" -> (showWord (.ofName name) (.int v) = showWord (.ofName name) (.int w) ↔
      (v = 0 ↔ w = 0))) ∧
    (name ≠ "bool" -> (showWord (.ofName name) (.int v) = showWord (.ofName name) (.int w) ↔
      forall i, Keeps name i -> v.getLsbD i = w.getLsbD i)) := by
  constructor
  · intro hname
    rw [TypeName.ofName_eq_bool_iff.mpr hname]
    exact showNumber_bool_eq_iff
  · intro hname
    have hbool : TypeName.ofName name ≠ .bool := fun h => hname (TypeName.ofName_eq_bool_iff.mp h)
    simp only [keeps_iff]
    exact showNumber_eq_iff (sized_ofName name) hbool

/-- The ninth bit is lost by a type of eight bits and by truth values, but not by a width
that is no number of bytes. -/
theorem showWord_eq_iff_ninth :
    showWord (.ofName "int8") (.int 0x180#256) = showWord (.ofName "int8") (.int 0x80#256) ∧
      showWord (.ofName "bool") (.int 0x180#256) = showWord (.ofName "bool") (.int 0x80#256) ∧
      showWord (.ofName "uint7") (.int 0x180#256) ≠
        showWord (.ofName "uint7") (.int 0x80#256) := by
  refine ⟨((showWord_eq_iff "int8" _ _).2 (by decide)).mpr ?_,
    ((showWord_eq_iff "bool" _ _).1 rfl).mpr (by decide), ?_⟩
  · intro i hi
    have hlow : i < 8 := keeps_iff.mp hi
    have hbits : forall j, j < 8 -> (0x180#256).getLsbD j = (0x80#256).getLsbD j := by decide
    exact hbits i hlow
  · intro h
    have hbits := ((showWord_eq_iff "uint7" _ _).2 (by decide)).mp h
    have hkept : Keeps "uint7" 8 := keeps_iff.mpr (show 8 < 256 by decide)
    exact absurd (hbits 8 hkept) (by decide)

end Evm
end TraceAdapter
