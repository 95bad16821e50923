import Mathlib.Data.List.TakeWhile
import TraceAdapter.Text.Numeral

/-!
# Reading numerals back

A number written in base ten is read back as itself, also from between blank
characters.
-/

namespace TraceAdapter

namespace Text

/-!
## Trimming
-/

theorem trimChars_eq {front middle back : List Char} (hsome : middle ≠ [])
    (hfront : front.all isBlank = true) (hback : back.all isBlank = true)
    (hfirst : isBlank (middle.head hsome) = false)
    (hlast : isBlank (middle.getLast hsome) = false) :
    trimChars (front ++ middle ++ back) = middle := by
  have hstart : (middle ++ back).dropWhile isBlank = middle ++ back := by
    rw [List.dropWhile_eq_self_iff]
    intro hlength
    rw [← List.head_eq_getElem (List.append_ne_nil_of_left_ne_nil hsome back),
      List.head_append_of_ne_nil hsome, hfirst]
    exact Bool.false_ne_true
  have hend : middle.reverse.dropWhile isBlank = middle.reverse := by
    rw [List.dropWhile_eq_self_iff]
    intro hlength
    rw [← List.head_eq_getElem (by simpa using hsome), List.head_reverse, hlast]
    exact Bool.false_ne_true
  have hback' : back.reverse.all isBlank = true := by
    rw [List.all_reverse]
    exact hback
  unfold trimChars
  rw [List.append_assoc, List.dropWhile_append_of_pos (List.all_eq_true.mp hfront), hstart,
    List.reverse_append, List.dropWhile_append_of_pos (List.all_eq_true.mp hback'), hend,
    List.reverse_reverse]

end Text

namespace Numeral

/-!
## Digits
-/

theorem isDigit_iff (c : Char) : c.isDigit = true ↔ '0' ≤ c ∧ c ≤ '9' := by
  simp [Char.isDigit, Char.le_def, ge_iff_le]

theorem digit?_of_isDigit {c : Char} (h : c.isDigit = true) :
    digit? 10 c = some (c.toNat - '0'.toNat) := by
  have hrange := (isDigit_iff c).mp h
  have hlast : c.toNat ≤ '9'.toNat := hrange.2
  have hsmall : c.toNat - '0'.toNat < 10 := by
    have hnine : '9'.toNat = 57 := rfl
    have hzero : '0'.toNat = 48 := rfl
    omega
  unfold digit?
  rw [if_pos hrange]
  simp only [hsmall, if_true]

theorem isBlank_of_isDigit {c : Char} (h : c.isDigit = true) :
    Text.isBlank c = false := by
  have hrange := (isDigit_iff c).mp h
  have hfirst : 48 ≤ c.toNat := hrange.1
  have hlast : c.toNat ≤ 57 := hrange.2
  unfold Text.isBlank
  simp only [Bool.or_eq_false_iff, Bool.and_eq_false_iff, decide_eq_false_iff_not]
  omega

theorem foldDigits?_of_digits {cs : List Char}
    (h : forall c, c ∈ cs -> c.isDigit = true) (n : Nat) :
    foldDigits? 10 n cs = some (Nat.ofDigitChars 10 cs n) := by
  induction cs generalizing n with
  | nil => rfl
  | cons c cs ih =>
      rw [foldDigits?_cons_of_digit cs (digit?_of_isDigit (h c List.mem_cons_self)),
        ih fun d hd => h d (List.mem_cons_of_mem c hd), Nat.ofDigitChars_cons,
        Nat.mul_comm]

/-!
## Decimal numbers
-/

theorem isDigit_of_mem_decimal {n : Nat} {c : Char} (h : c ∈ (decimal n).toList) :
    c.isDigit = true := by
  unfold decimal at h
  rw [String.toList_ofList] at h
  exact Nat.isDigit_of_mem_toDigits (by decide) (by decide) h

theorem toList_decimal_ne_nil (n : Nat) : (decimal n).toList ≠ [] := by
  unfold decimal
  rw [String.toList_ofList]
  exact Nat.toDigits_ne_nil

theorem ofDigits?_decimal (n : Nat) : ofDigits? 10 (decimal n).toList = some n := by
  unfold ofDigits?
  have hsome : (decimal n).toList.isEmpty = false := by
    rw [List.isEmpty_eq_false_iff]
    exact toList_decimal_ne_nil n
  rw [hsome, foldDigits?_of_digits fun c hc => isDigit_of_mem_decimal hc]
  unfold decimal
  rw [String.toList_ofList, Nat.ofDigitChars_toDigits (by decide) (by decide)]
  rfl

theorem write_eq_iff_of_read {α β : Type} {write : α -> β} (read : β -> Option α)
    (hread : forall a, read (write a) = some a) {a b : α} : write a = write b ↔ a = b := by
  constructor
  · intro h
    have hback := hread a
    rw [h, hread] at hback
    exact (Option.some.inj hback).symm
  · rintro rfl
    rfl

theorem decimal_inj {m n : Nat} : decimal m = decimal n ↔ m = n :=
  write_eq_iff_of_read (fun s => ofDigits? 10 s.toList) ofDigits?_decimal

theorem natural?_decimal {n bound : Nat} (h : n < bound) :
    natural? 10 bound (decimal n) = some n := by
  unfold natural?
  split
  · rename_i cs hsigned
    have hmem : '+' ∈ (decimal n).toList := hsigned ▸ List.mem_cons_self
    exact absurd (isDigit_of_mem_decimal hmem) (by decide)
  · simp only [ofDigits?_decimal, h, if_true]

end Numeral
end TraceAdapter
