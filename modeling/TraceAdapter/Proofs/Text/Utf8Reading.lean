import TraceAdapter.Proofs.Text.Utf8

/-!
# Bytes that are read as UTF-8

Bytes are read as a text only when they are the bytes of that text.  The bounds
that the first byte of a character sets on the second one leave just the code
points that are written with so many bytes, so a character that is read is taken
back to its bytes.
-/

namespace TraceAdapter
namespace Utf8

/-!
## Bytes of a code point
-/

theorem val_ofNat {n : Nat} (h : n.isValidChar) : (Char.ofNat n).val.toNat = n := by
  unfold Char.ofNat
  rw [dif_pos h]
  rfl

theorem encodeChar_one {n : Nat} (h : n < 0x80) :
    String.utf8EncodeChar (Char.ofNat n) = [UInt8.ofNat n] := by
  have hval : (Char.ofNat n).val.toNat = n := val_ofNat (Or.inl (by omega))
  unfold String.utf8EncodeChar
  rw [hval]
  dsimp only
  rw [if_pos (by omega)]

theorem encodeChar_two {n m : Nat} (hlow : 2 ≤ n) (hhigh : n < 32) (hm : m < 64) :
    String.utf8EncodeChar (Char.ofNat (n * 64 + m)) =
      [UInt8.ofNat (n + 0xC0), UInt8.ofNat (m + 0x80)] := by
  have hval : (Char.ofNat (n * 64 + m)).val.toNat = n * 64 + m :=
    val_ofNat (Or.inl (by omega))
  have hfirst : (n * 64 + m) / 64 % 32 = n := by omega
  have hlast : (n * 64 + m) % 64 = m := by omega
  unfold String.utf8EncodeChar
  rw [hval]
  dsimp only
  rw [if_neg (by omega), if_pos (by omega), hfirst, hlast]

theorem encodeChar_three {n k m : Nat} (hn : n < 16) (hk : k < 64) (hm : m < 64)
    (hleast : n = 0 -> 0x20 ≤ k) (hmost : n = 0xD -> k < 0x20) :
    String.utf8EncodeChar (Char.ofNat ((n * 64 + k) * 64 + m)) =
      [UInt8.ofNat (n + 0xE0), UInt8.ofNat (k + 0x80), UInt8.ofNat (m + 0x80)] := by
  have hval : (Char.ofNat ((n * 64 + k) * 64 + m)).val.toNat = (n * 64 + k) * 64 + m := by
    apply val_ofNat
    by_cases hbefore : n ≤ 0xD
    · exact Or.inl (by omega)
    · exact Or.inr ⟨by omega, by omega⟩
  have hfirst : ((n * 64 + k) * 64 + m) / 4096 % 16 = n := by omega
  have hmiddle : ((n * 64 + k) * 64 + m) / 64 % 64 = k := by omega
  have hlast : ((n * 64 + k) * 64 + m) % 64 = m := by omega
  unfold String.utf8EncodeChar
  rw [hval]
  dsimp only
  rw [if_neg (by omega), if_neg (by omega), if_pos (by omega), hfirst, hmiddle, hlast]

theorem encodeChar_four {n j k m : Nat} (hn : n < 5) (hj : j < 64) (hk : k < 64)
    (hm : m < 64) (hleast : n = 0 -> 0x10 ≤ j) (hmost : n = 4 -> j < 0x10) :
    String.utf8EncodeChar (Char.ofNat (((n * 64 + j) * 64 + k) * 64 + m)) =
      [UInt8.ofNat (n + 0xF0), UInt8.ofNat (j + 0x80), UInt8.ofNat (k + 0x80),
        UInt8.ofNat (m + 0x80)] := by
  have hval : (Char.ofNat (((n * 64 + j) * 64 + k) * 64 + m)).val.toNat =
      ((n * 64 + j) * 64 + k) * 64 + m :=
    val_ofNat (Or.inr ⟨by omega, by omega⟩)
  have hfirst : (((n * 64 + j) * 64 + k) * 64 + m) / 262144 % 8 = n := by omega
  have hsecond : (((n * 64 + j) * 64 + k) * 64 + m) / 4096 % 64 = j := by omega
  have hthird : (((n * 64 + j) * 64 + k) * 64 + m) / 64 % 64 = k := by omega
  have hlast : (((n * 64 + j) * 64 + k) * 64 + m) % 64 = m := by omega
  unfold String.utf8EncodeChar
  rw [hval]
  dsimp only
  rw [if_neg (by omega), if_neg (by omega), if_neg (by omega), hfirst, hsecond, hthird, hlast]

/-!
## What the reader took
-/

theorem byte_eq {b : UInt8} {n : Nat} (h : b.toNat = n) : b = UInt8.ofNat n := by
  rw [← h]
  simp

/-- The first byte of a longer character and how it begins.  The bounds on the second
byte are narrower where fewer bytes would do, at the surrogates and at the end of the
code points. -/
inductive Begun (b : UInt8) : Partial -> Prop where
  | two {n : Nat} (hb : b = UInt8.ofNat (n + 0xC0)) (hn : 2 ≤ n ∧ n < 32) :
      Begun b ⟨1, 0x80, 0xBF, n, 1⟩
  | three {n low high : Nat} (hb : b = UInt8.ofNat (n + 0xE0)) (hn : n < 16)
      (hrange : 0x80 ≤ low ∧ high ≤ 0xBF) (hleast : n = 0 -> 0xA0 ≤ low)
      (hmost : n = 0xD -> high ≤ 0x9F) : Begun b ⟨2, low, high, n, 1⟩
  | four {n low high : Nat} (hb : b = UInt8.ofNat (n + 0xF0)) (hn : n < 5)
      (hrange : 0x80 ≤ low ∧ high ≤ 0xBF) (hleast : n = 0 -> 0x90 ≤ low)
      (hmost : n = 4 -> high ≤ 0x8F) : Begun b ⟨3, low, high, n, 1⟩

/-- What an answer about the first byte of a character says of it. -/
def Lead.Sound (b : UInt8) : Lead -> Prop
  | .single c => String.utf8EncodeChar c = [b]
  | .more p => Begun b p
  | .never => True

theorem sound_lead (b : UInt8) : (lead b).Sound b := by
  have hbyte : b.toNat < 256 := b.toNat_lt
  unfold lead
  dsimp only
  -- The bounds come in the order of the ranges of first bytes.
  split
  · rename_i hone
    change String.utf8EncodeChar (Char.ofNat b.toNat) = [b]
    rw [encodeChar_one hone]
    simp
  split
  · trivial
  split
  · exact .two (byte_eq (by omega)) (by omega)
  split
  · exact .three (byte_eq (by omega)) (by omega) (by omega) (by omega) (by omega)
  split
  · exact .three (byte_eq (by omega)) (by omega) (by omega) (by omega) (by omega)
  split
  · exact .three (byte_eq (by omega)) (by omega) (by omega) (by omega) (by omega)
  split
  · exact .four (byte_eq (by omega)) (by omega) (by omega) (by omega) (by omega)
  split
  · exact .four (byte_eq (by omega)) (by omega) (by omega) (by omega) (by omega)
  split
  · exact .four (byte_eq (by omega)) (by omega) (by omega) (by omega) (by omega)
  · trivial

theorem exists_byte_of_begun {offset : Nat} {p : Partial} {bytes : List UInt8}
    {cs : List Char} (hlow : 0x80 ≤ p.low) (hhigh : p.high ≤ 0xBF)
    (h : decodeFrom offset (some p) bytes = .ok cs) :
    exists n rest,
      bytes = UInt8.ofNat (n + 0x80) :: rest ∧ n < 64 ∧
        p.low ≤ n + 0x80 ∧ n + 0x80 ≤ p.high := by
  cases bytes with
  | nil => cases h
  | cons b rest =>
      rw [decodeFrom] at h
      by_cases hrange : p.low ≤ b.toNat ∧ b.toNat ≤ p.high
      · have hb : b = UInt8.ofNat (b.toNat - 0x80 + 0x80) := byte_eq (by omega)
        refine ⟨b.toNat - 0x80, rest, ?_, by omega, by omega, by omega⟩
        rw [← hb]
      · have hpush : p.push b = .fault := by
          unfold Partial.push
          dsimp only
          rw [if_neg hrange]
        rw [hpush] at h
        cases h

theorem exists_of_map_ok {c : Char} {read : Except Fault (List Char)} {cs : List Char}
    (h : read.map (c :: ·) = .ok cs) : exists rest, read = .ok rest ∧ cs = c :: rest := by
  cases read with
  | error e => cases h
  | ok rest =>
      cases h
      exact ⟨rest, rfl, rfl⟩

theorem exists_of_more {offset : Nat} {p : Partial} {bytes : List UInt8}
    {cs : List Char} (hlow : 0x80 ≤ p.low) (hhigh : p.high ≤ 0xBF) (howed : 1 < p.owed)
    (h : decodeFrom offset (some p) bytes = .ok cs) :
    exists n rest,
      bytes = UInt8.ofNat (n + 0x80) :: rest ∧ n < 64 ∧
        p.low ≤ n + 0x80 ∧ n + 0x80 ≤ p.high ∧
        decodeFrom offset (some ⟨p.owed - 1, 0x80, 0xBF, p.code * 64 + n, p.size + 1⟩)
          rest = .ok cs := by
  rcases exists_byte_of_begun hlow hhigh h with ⟨n, rest, rfl, hn, hfirst, hlast⟩
  rw [decodeFrom_more (push_more hfirst hlast hn howed)] at h
  exact ⟨n, rest, rfl, hn, hfirst, hlast, h⟩

theorem exists_of_last {offset : Nat} {p : Partial} {bytes : List UInt8}
    {cs : List Char} (hlow : 0x80 ≤ p.low) (hhigh : p.high ≤ 0xBF) (howed : p.owed ≤ 1)
    (h : decodeFrom offset (some p) bytes = .ok cs) :
    exists n rest read,
      bytes = UInt8.ofNat (n + 0x80) :: rest ∧ n < 64 ∧
        cs = Char.ofNat (p.code * 64 + n) :: read ∧
        decodeFrom (offset + p.size + 1) none rest = .ok read := by
  rcases exists_byte_of_begun hlow hhigh h with ⟨n, rest, rfl, hn, hfirst, hlast⟩
  rw [decodeFrom_done (push_done hfirst hlast hn howed)] at h
  rcases exists_of_map_ok h with ⟨read, hread, rfl⟩
  exact ⟨n, rest, read, rfl, hn, rfl, hread⟩

/-!
## Characters and texts
-/

/-- What is read from bytes with a character begun before them finishes that character
first. -/
theorem exists_char_of_begun {offset : Nat} {b : UInt8} {p : Partial} {tail : List UInt8}
    {cs : List Char} (hbegun : Begun b p) (h : decodeFrom offset (some p) tail = .ok cs) :
    exists c rest read next,
      b :: tail = String.utf8EncodeChar c ++ rest ∧ cs = c :: read ∧
        decodeFrom next none rest = .ok read := by
  cases hbegun with
  | two hb hn =>
      rcases exists_of_last (Nat.le_refl _) (Nat.le_refl _) (Nat.le_refl _) h with
        ⟨m, rest, read, rfl, hm, rfl, hread⟩
      refine ⟨_, rest, read, _, ?_, rfl, hread⟩
      rw [hb, encodeChar_two hn.1 hn.2 hm]
      rfl
  | three hb hn hrange hleast hmost =>
      rcases exists_of_more hrange.1 hrange.2 (by simp) h with
        ⟨k, tail, rfl, hk, hfirst, hsecond, h⟩
      rcases exists_of_last (Nat.le_refl _) (Nat.le_refl _) (Nat.le_refl _) h with
        ⟨m, rest, read, rfl, hm, rfl, hread⟩
      refine ⟨_, rest, read, _, ?_, rfl, hread⟩
      dsimp only at hfirst hsecond
      rw [hb, encodeChar_three hn hk hm (by omega) (by omega)]
      rfl
  | four hb hn hrange hleast hmost =>
      rcases exists_of_more hrange.1 hrange.2 (by simp) h with
        ⟨j, tail, rfl, hj, hfirst, hsecond, h⟩
      rcases exists_of_more (Nat.le_refl _) (Nat.le_refl _) (by simp) h with
        ⟨k, tail, rfl, hk, _, _, h⟩
      rcases exists_of_last (Nat.le_refl _) (Nat.le_refl _) (Nat.le_refl _) h with
        ⟨m, rest, read, rfl, hm, rfl, hread⟩
      refine ⟨_, rest, read, _, ?_, rfl, hread⟩
      dsimp only at hfirst hsecond
      rw [hb, encodeChar_four hn hj hk hm (by omega) (by omega)]
      rfl

/-- What is read from a byte on is a character that is written with the bytes taken
for it, before what is read from the others. -/
theorem exists_char_of_decodeFrom {offset : Nat} {b : UInt8} {tail : List UInt8}
    {cs : List Char} (h : decodeFrom offset none (b :: tail) = .ok cs) :
    exists c rest read next,
      b :: tail = String.utf8EncodeChar c ++ rest ∧ cs = c :: read ∧
        decodeFrom next none rest = .ok read := by
  have hsound := sound_lead b
  cases hlead : lead b with
  | never =>
      rw [decodeFrom, hlead] at h
      cases h
  | single c =>
      rw [hlead] at hsound
      rw [decodeFrom_single hlead] at h
      rcases exists_of_map_ok h with ⟨read, hread, rfl⟩
      refine ⟨c, tail, read, _, ?_, rfl, hread⟩
      rw [hsound]
      rfl
  | more p =>
      rw [hlead] at hsound
      rw [decodeFrom_begun hlead] at h
      exact exists_char_of_begun hsound h

theorem eq_of_decodeFrom {offset : Nat} {bytes : List UInt8} {cs : List Char}
    (h : decodeFrom offset none bytes = .ok cs) :
    bytes = cs.flatMap String.utf8EncodeChar := by
  induction cs generalizing offset bytes with
  | nil =>
      cases bytes with
      | nil => rfl
      | cons b tail =>
          rcases exists_char_of_decodeFrom h with ⟨c, rest, read, next, _, hcs, _⟩
          cases hcs
  | cons c cs ih =>
      cases bytes with
      | nil => cases h
      | cons b tail =>
          rcases exists_char_of_decodeFrom h with ⟨_, rest, _, next, hbytes, hcs, hrest⟩
          cases hcs
          rw [hbytes, ih hrest, List.flatMap_cons]

/-- Bytes are read as a text just when they are the bytes of that text. -/
theorem decode_eq_ok_iff {bytes : List UInt8} {text : String} :
    decode bytes = .ok text ↔ bytes = encode text := by
  constructor
  · intro h
    unfold decode at h
    cases hread : decodeFrom 0 none bytes with
    | error fault =>
        rw [hread] at h
        cases h
    | ok cs =>
        rw [hread] at h
        cases h
        unfold encode
        rw [String.toList_ofList]
        exact eq_of_decodeFrom hread
  · rintro rfl
    exact decode_encode text

theorem exists_decode_eq_error_iff {bytes : List UInt8} :
    (exists fault, decode bytes = .error fault) ↔ forall text, bytes ≠ encode text := by
  cases hdecode : decode bytes with
  | error fault =>
      constructor
      · rintro _ text rfl
        rw [decode_encode] at hdecode
        cases hdecode
      · intro _
        exact ⟨fault, rfl⟩
  | ok text =>
      constructor
      · rintro ⟨fault, herror⟩
        cases herror
      · intro hnone
        exact absurd (decode_eq_ok_iff.mp hdecode) (hnone text)

end Utf8
end TraceAdapter
