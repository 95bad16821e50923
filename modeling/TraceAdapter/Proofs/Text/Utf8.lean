import Mathlib.Tactic.SplitIfs
import TraceAdapter.Text.Utf8

/-!
# Reading what was written as UTF-8

The strict reading takes the bytes of a text back to the text.  The reader goes
byte by byte, so what it does with the bytes of one character is followed
through the states between them, one length of characters at a time.
-/

namespace TraceAdapter
namespace Utf8

/-!
## Steps of the reader
-/

theorem decodeFrom_single {b : UInt8} {c : Char} (h : lead b = .single c)
    (offset : Nat) (rest : List UInt8) :
    decodeFrom offset none (b :: rest) =
      (decodeFrom (offset + 1) none rest).map (c :: ·) := by
  rw [decodeFrom, h]

theorem decodeFrom_begun {b : UInt8} {p : Partial} (h : lead b = .more p)
    (offset : Nat) (rest : List UInt8) :
    decodeFrom offset none (b :: rest) = decodeFrom offset (some p) rest := by
  rw [decodeFrom, h]

theorem decodeFrom_more {p q : Partial} {b : UInt8} (h : p.push b = .more q)
    (offset : Nat) (rest : List UInt8) :
    decodeFrom offset (some p) (b :: rest) = decodeFrom offset (some q) rest := by
  rw [decodeFrom, h]

theorem decodeFrom_done {p : Partial} {b : UInt8} {c : Char} (h : p.push b = .done c)
    (offset : Nat) (rest : List UInt8) :
    decodeFrom offset (some p) (b :: rest) =
      (decodeFrom (offset + p.size + 1) none rest).map (c :: ·) := by
  rw [decodeFrom, h]

/-!
## Code points

A byte of a character is given by its number.  A character owes bytes until its
code point is complete.
-/

theorem toNat_byte {n : Nat} (h : n < 256) : (UInt8.ofNat n).toNat = n := by
  rw [UInt8.toNat_ofNat']
  exact Nat.mod_eq_of_lt h

theorem push_more {p : Partial} {n : Nat} (hlow : p.low ≤ n + 0x80)
    (hhigh : n + 0x80 ≤ p.high) (hn : n < 0x40) (howed : 1 < p.owed) :
    p.push (UInt8.ofNat (n + 0x80)) =
      .more ⟨p.owed - 1, 0x80, 0xBF, p.code * 64 + n, p.size + 1⟩ := by
  unfold Partial.push
  rw [toNat_byte (by omega)]
  simp only [hlow, hhigh, and_self, if_true, Nat.add_sub_cancel,
    Nat.not_le.mpr howed, if_false]

theorem push_done {p : Partial} {n : Nat} (hlow : p.low ≤ n + 0x80)
    (hhigh : n + 0x80 ≤ p.high) (hn : n < 0x40) (howed : p.owed ≤ 1) :
    p.push (UInt8.ofNat (n + 0x80)) = .done (Char.ofNat (p.code * 64 + n)) := by
  unfold Partial.push
  rw [toNat_byte (by omega)]
  simp only [hlow, hhigh, and_self, if_true, Nat.add_sub_cancel, howed]

theorem lead_of_lt_80 {n : Nat} (h : n < 0x80) :
    lead (UInt8.ofNat n) = .single (Char.ofNat n) := by
  unfold lead
  rw [toNat_byte (by omega)]
  simp only [h, if_true]

theorem lead_of_lt_800 {n : Nat} (hlow : 0x80 ≤ n) (hhigh : n < 0x800) :
    lead (UInt8.ofNat (n / 64 + 0xC0)) = .more ⟨1, 0x80, 0xBF, n / 64, 1⟩ := by
  unfold lead
  rw [toNat_byte (by omega)]
  have hone : ¬ n / 64 + 0xC0 < 0x80 := by omega
  have hnever : ¬ n / 64 + 0xC0 < 0xC2 := by omega
  have htwo : n / 64 + 0xC0 < 0xE0 := by omega
  simp only [hone, hnever, htwo, if_true, if_false, Nat.add_sub_cancel]

/-- The first byte of a character of three bytes bounds the second so that neither
a shorter character nor a surrogate can be written. -/
theorem lead_of_lt_10000 {n : Nat} (hlow : 0x800 ≤ n) (hhigh : n < 0x10000)
    (hvalid : n < 0xD800 ∨ 0xDFFF < n) :
    exists low high,
      lead (UInt8.ofNat (n / 4096 + 0xE0)) = .more ⟨2, low, high, n / 4096, 1⟩ ∧
        low ≤ n / 64 % 64 + 0x80 ∧ n / 64 % 64 + 0x80 ≤ high := by
  unfold lead
  rw [toNat_byte (by omega)]
  have hone : ¬ n / 4096 + 0xE0 < 0x80 := by omega
  have hnever : ¬ n / 4096 + 0xE0 < 0xC2 := by omega
  have htwo : ¬ n / 4096 + 0xE0 < 0xE0 := by omega
  simp only [hone, hnever, htwo, if_false]
  by_cases hfirst : n / 4096 = 0
  · rw [if_pos (by omega), hfirst]
    exact ⟨_, _, rfl, by omega, by omega⟩
  · rw [if_neg (by omega)]
    by_cases hsurrogate : n / 4096 = 0xD
    · rw [if_pos (by omega), hsurrogate]
      exact ⟨_, _, rfl, by omega, by omega⟩
    · rw [if_neg (by omega), if_pos (by omega), Nat.add_sub_cancel]
      exact ⟨_, _, rfl, by omega, by omega⟩

/-- The first byte of a character of four bytes bounds the second so that neither
a shorter character nor one past the last can be written. -/
theorem lead_of_lt_110000 {n : Nat} (hlow : 0x10000 ≤ n) (hhigh : n < 0x110000) :
    exists low high,
      lead (UInt8.ofNat (n / 262144 + 0xF0)) = .more ⟨3, low, high, n / 262144, 1⟩ ∧
        low ≤ n / 4096 % 64 + 0x80 ∧ n / 4096 % 64 + 0x80 ≤ high := by
  unfold lead
  rw [toNat_byte (by omega)]
  have hone : ¬ n / 262144 + 0xF0 < 0x80 := by omega
  have hnever : ¬ n / 262144 + 0xF0 < 0xC2 := by omega
  have htwo : ¬ n / 262144 + 0xF0 < 0xE0 := by omega
  have hfirst : ¬ n / 262144 + 0xF0 = 0xE0 := by omega
  have hsurrogate : ¬ n / 262144 + 0xF0 = 0xED := by omega
  have hthree : ¬ n / 262144 + 0xF0 < 0xF0 := by omega
  simp only [hone, hnever, htwo, hfirst, hsurrogate, hthree, if_false]
  by_cases hleast : n / 262144 = 0
  · rw [if_pos (by omega), hleast]
    exact ⟨_, _, rfl, by omega, by omega⟩
  · rw [if_neg (by omega)]
    by_cases hinner : n / 262144 < 4
    · rw [if_pos (by omega), Nat.add_sub_cancel]
      exact ⟨_, _, rfl, by omega, by omega⟩
    · have hlast : n / 262144 = 4 := by omega
      rw [if_neg (by omega), if_pos (by omega), hlast]
      exact ⟨_, _, rfl, by omega, by omega⟩

/-!
## Characters

The bytes of a character give its code point six bits at a time.
-/

theorem decodeFrom_two {n : Nat} (hlow : 0x80 ≤ n) (hhigh : n < 0x800)
    (offset : Nat) (rest : List UInt8) :
    decodeFrom offset none
        (UInt8.ofNat (n / 64 + 0xC0) :: UInt8.ofNat (n % 64 + 0x80) :: rest) =
      (decodeFrom (offset + 2) none rest).map (Char.ofNat n :: ·) := by
  have hcode : n / 64 * 64 + n % 64 = n := by omega
  have hlast : n % 64 < 0x40 := by omega
  rw [decodeFrom_begun (lead_of_lt_800 hlow hhigh),
    decodeFrom_done (push_done (by simp) (by simp; omega) hlast (by simp)), hcode]

theorem decodeFrom_three {n : Nat} (hlow : 0x800 ≤ n) (hhigh : n < 0x10000)
    (hvalid : n < 0xD800 ∨ 0xDFFF < n) (offset : Nat) (rest : List UInt8) :
    decodeFrom offset none
        (UInt8.ofNat (n / 4096 + 0xE0) :: UInt8.ofNat (n / 64 % 64 + 0x80) ::
          UInt8.ofNat (n % 64 + 0x80) :: rest) =
      (decodeFrom (offset + 3) none rest).map (Char.ofNat n :: ·) := by
  rcases lead_of_lt_10000 hlow hhigh hvalid with ⟨low, high, hlead, hsecond, hsecond'⟩
  have hcode : (n / 4096 * 64 + n / 64 % 64) * 64 + n % 64 = n := by omega
  have hmiddle : n / 64 % 64 < 0x40 := by omega
  have hlast : n % 64 < 0x40 := by omega
  rw [decodeFrom_begun hlead,
    decodeFrom_more (push_more hsecond hsecond' hmiddle (by simp)),
    decodeFrom_done (push_done (by simp) (by simp; omega) hlast (by simp)), hcode]

theorem decodeFrom_four {n : Nat} (hlow : 0x10000 ≤ n) (hhigh : n < 0x110000)
    (offset : Nat) (rest : List UInt8) :
    decodeFrom offset none
        (UInt8.ofNat (n / 262144 + 0xF0) :: UInt8.ofNat (n / 4096 % 64 + 0x80) ::
          UInt8.ofNat (n / 64 % 64 + 0x80) :: UInt8.ofNat (n % 64 + 0x80) :: rest) =
      (decodeFrom (offset + 4) none rest).map (Char.ofNat n :: ·) := by
  rcases lead_of_lt_110000 hlow hhigh with ⟨low, high, hlead, hsecond, hsecond'⟩
  have hcode :
      ((n / 262144 * 64 + n / 4096 % 64) * 64 + n / 64 % 64) * 64 + n % 64 = n := by
    omega
  have hmiddle : n / 4096 % 64 < 0x40 := by omega
  have hthird : n / 64 % 64 < 0x40 := by omega
  have hlast : n % 64 < 0x40 := by omega
  rw [decodeFrom_begun hlead,
    decodeFrom_more (push_more hsecond hsecond' hmiddle (by simp)),
    decodeFrom_more (push_more (by simp) (by simp; omega) hthird (by simp)),
    decodeFrom_done (push_done (by simp) (by simp; omega) hlast (by simp)), hcode]

/-- The reader takes the bytes of a character as that character and goes on after
them. -/
theorem decodeFrom_encodeChar (c : Char) (offset : Nat) (rest : List UInt8) :
    decodeFrom offset none (String.utf8EncodeChar c ++ rest) =
      (decodeFrom (offset + (String.utf8EncodeChar c).length) none rest).map
        (c :: ·) := by
  have hchar : Char.ofNat c.val.toNat = c := Char.ofNat_toNat c
  have hvalid : c.val.toNat < 0xD800 ∨ 0xDFFF < c.val.toNat ∧ c.val.toNat < 0x110000 :=
    c.valid
  unfold String.utf8EncodeChar
  generalize c.val.toNat = n at hchar hvalid ⊢
  subst hchar
  dsimp only
  by_cases hone : n ≤ 0x7F
  · rw [if_pos hone]
    exact decodeFrom_single (lead_of_lt_80 (by omega)) offset rest
  · rw [if_neg hone]
    by_cases htwo : n ≤ 0x7FF
    · rw [if_pos htwo, Nat.mod_eq_of_lt (by omega : n / 64 < 0x20)]
      exact decodeFrom_two (by omega) (by omega) offset rest
    · rw [if_neg htwo]
      by_cases hthree : n ≤ 0xFFFF
      · rw [if_pos hthree, Nat.mod_eq_of_lt (by omega : n / 4096 < 0x10)]
        exact decodeFrom_three (by omega) (by omega) (by omega) offset rest
      · rw [if_neg hthree, Nat.mod_eq_of_lt (by omega : n / 262144 < 0x08)]
        exact decodeFrom_four (by omega) (by omega) offset rest

/-!
## Texts
-/

theorem decodeFrom_encode (cs : List Char) (offset : Nat) :
    decodeFrom offset none (cs.flatMap String.utf8EncodeChar) = .ok cs := by
  induction cs generalizing offset with
  | nil => rfl
  | cons c cs ih =>
      rw [List.flatMap_cons, decodeFrom_encodeChar, ih]
      rfl

theorem decode_encode (s : String) : decode (encode s) = .ok s := by
  unfold decode encode
  rw [decodeFrom_encode]
  show Except.ok (String.ofList s.toList) = _
  rw [String.ofList_toList]

theorem encode_append (s t : String) : encode (s ++ t) = encode s ++ encode t := by
  unfold encode
  rw [String.toList_append, List.flatMap_append]

theorem length_encode (s : String) : (encode s).length = s.utf8ByteSize := by
  unfold encode
  rw [← List.size_toByteArray]
  show s.toList.utf8Encode.size = s.utf8ByteSize
  rw [String.utf8Encode_toList, String.size_toByteArray]

/-!
## Bytes below `0x80`

Such a byte stands for its own character and is no part of any other.
-/

theorem mem_encodeChar_iff {b : UInt8} (h : b.toNat < 0x80) (c : Char) :
    b ∈ String.utf8EncodeChar c ↔ c.val.toNat = b.toNat := by
  have hvalid : c.val.toNat < 0x110000 := by
    have hscalar : c.val.toNat < 0xD800 ∨ 0xDFFF < c.val.toNat ∧ c.val.toNat < 0x110000 :=
      c.valid
    omega
  unfold String.utf8EncodeChar
  generalize c.val.toNat = n at hvalid ⊢
  dsimp only
  split_ifs <;>
    simp only [List.mem_cons, List.not_mem_nil, or_false, ← UInt8.toNat_inj,
      UInt8.toNat_ofNat'] <;>
    omega

theorem mem_encode_iff {b : UInt8} (h : b.toNat < 0x80) (s : String) :
    b ∈ encode s ↔ exists c, c ∈ s.toList ∧ c.val.toNat = b.toNat := by
  unfold encode
  simp only [List.mem_flatMap, mem_encodeChar_iff h]

end Utf8
end TraceAdapter
