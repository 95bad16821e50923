import Mathlib.Tactic.ByContra
import Mathlib.Tactic.SplitIfs
import TraceAdapter.Json.Scanner

/-!
# Integers among numbers

A number is an integer just when its text has neither a point nor an exponent and the
digits fit into sixty-four bits.  No digit is lost on the way: a number that does not fit
becomes a floating point number and never another integer.
-/

namespace TraceAdapter
namespace Json

open Numeral (bound64)

/-!
## Digits
-/

theorem le_ofDigitChars (cs : List Char) (n : Nat) : n ≤ Nat.ofDigitChars 10 cs n := by
  induction cs generalizing n with
  | nil => exact Nat.le_refl n
  | cons c rest ih =>
      rw [Nat.ofDigitChars_cons]
      have hrest := ih (10 * n + (c.toNat - '0'.toNat))
      omega

theorem takeDigits_of_lt {cs : List Char} {n : Nat}
    (h : Nat.ofDigitChars 10 cs n < bound64) :
    takeDigits n cs = (Nat.ofDigitChars 10 cs n, cs.length, false) := by
  induction cs generalizing n with
  | nil => rfl
  | cons c rest ih =>
      rw [Nat.ofDigitChars_cons, Nat.mul_comm] at h
      have hnext : n * 10 + (c.toNat - '0'.toNat) < bound64 :=
        Nat.lt_of_le_of_lt (le_ofDigitChars rest _) h
      rw [takeDigits]
      dsimp only
      rw [if_pos hnext, ih h, Nat.ofDigitChars_cons, Nat.mul_comm]
      rfl

theorem left_of_bound64_le {cs : List Char} {n : Nat} (hn : n < bound64)
    (h : bound64 ≤ Nat.ofDigitChars 10 cs n) : (takeDigits n cs).2.2 = true := by
  induction cs generalizing n with
  | nil => exact absurd hn (Nat.not_lt.mpr h)
  | cons c rest ih =>
      rw [Nat.ofDigitChars_cons, Nat.mul_comm] at h
      rw [takeDigits]
      dsimp only
      by_cases hnext : n * 10 + (c.toNat - '0'.toNat) < bound64
      · rw [if_pos hnext]
        exact ih hnext h
      · rw [if_neg hnext]

namespace Figures

/-!
## Numbers
-/

/-- A number is written by digits alone, and they fit into sixty-four bits. -/
structure Plain (f : Figures) (n : Nat) : Prop where
  negative : f.negative = false
  fraction : f.fraction = none
  exponent : f.exponent = none
  value : Nat.ofDigitChars 10 f.whole 0 = n
  fits : n < bound64

theorem Plain.number? {f : Figures} {n : Nat} (h : f.Plain n) :
    f.number? = some (.int n) := by
  have hdigits : takeDigits 0 f.whole = (n, f.whole.length, false) := by
    rw [← h.value]
    exact takeDigits_of_lt (h.value.symm ▸ h.fits)
  unfold Figures.number?
  rw [hdigits, h.fraction, h.exponent, h.negative]
  rfl

theorem map_real_ne_int (x? : Option Decimal.Binary64) (negative : Bool) (i : Int) :
    (x?.map fun x => Number.real (x.withSign negative)) ≠ some (.int i) := by
  cases x? with
  | none => nofun
  | some x => nofun

theorem number?_ne_int {f : Figures} (h : f.fraction ≠ none ∨ f.exponent ≠ none) (i : Int) :
    f.number? ≠ some (.int i) := by
  rcases f with ⟨negative, whole, fraction, exponent⟩
  unfold Figures.number?
  dsimp only
  cases fraction with
  | none =>
      cases exponent with
      | none => simp at h
      | some e =>
          dsimp only
          split_ifs
          · nofun
          · nofun
          · exact map_real_ne_int _ negative i
  | some ds =>
      cases exponent with
      | none => exact map_real_ne_int _ negative i
      | some e =>
          dsimp only
          split_ifs
          · nofun
          · nofun
          · exact map_real_ne_int _ negative i

theorem plain_of_number? {f : Figures} {n : Nat} (h : f.number? = some (.int n)) :
    f.Plain n := by
  have hfraction : f.fraction = none := by
    by_contra hsome
    exact number?_ne_int (Or.inl hsome) n h
  have hexponent : f.exponent = none := by
    by_contra hsome
    exact number?_ne_int (Or.inr hsome) n h
  unfold Figures.number? at h
  rw [hfraction, hexponent] at h
  dsimp only at h
  by_cases hfits : Nat.ofDigitChars 10 f.whole 0 < bound64
  · rw [takeDigits_of_lt hfits] at h
    dsimp only at h
    cases hnegative : f.negative with
    | false =>
        simp only [hnegative, Bool.false_eq_true, if_false, Option.some.injEq,
          Number.int.injEq] at h
        have hvalue : Nat.ofDigitChars 10 f.whole 0 = n := Int.ofNat_inj.mp h
        exact ⟨hnegative, hfraction, hexponent, hvalue, hvalue ▸ hfits⟩
    | true =>
        -- A negative number that is an integer is below zero.
        simp only [hnegative, Bool.false_eq_true, if_false, if_true] at h
        split_ifs at h with hzero
        · cases h
        · simp only [Option.some.injEq, Number.int.injEq] at h
          omega
  · rw [left_of_bound64_le (by decide) (Nat.not_lt.mp hfits), if_pos rfl] at h
    exact absurd h (map_real_ne_int _ f.negative n)

theorem number?_eq_nat_iff {f : Figures} {n : Nat} :
    f.number? = some (.int n) ↔ f.Plain n :=
  ⟨plain_of_number?, Plain.number?⟩

end Figures

end Json
end TraceAdapter
