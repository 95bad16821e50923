import TraceAdapter.Proofs.Json.Stability
import TraceAdapter.Proofs.Text.UnsignedNumerals
import TraceAdapter.Protocol.LaunchArguments

/-!
# Numbers given as numbers or as texts

A number of 64 bits may be given as a JSON integer or as a text that writes it, in base
ten or behind `0x` in base sixteen, with blank characters around it.  All ways of giving
a number are read as that number, and nothing else is read as one.
-/

namespace TraceAdapter

namespace Numeral

/-!
## Characters of numerals
-/

theorem isBlank_of_digit? {base d : Nat} {c : Char} (h : digit? base c = some d) :
    Text.isBlank c = false := by
  have hrange : (48 ≤ c.toNat ∧ c.toNat ≤ 57) ∨ (97 ≤ c.toNat ∧ c.toNat ≤ 122) ∨
      (65 ≤ c.toNat ∧ c.toNat ≤ 90) := by
    by_contra hother
    rw [not_or, not_or] at hother
    rcases hother with ⟨hnine, hlower, hupper⟩
    have hnine' : ¬ ('0' ≤ c ∧ c ≤ '9') := hnine
    have hlower' : ¬ ('a' ≤ c ∧ c ≤ 'z') := hlower
    have hupper' : ¬ ('A' ≤ c ∧ c ≤ 'Z') := hupper
    unfold digit? at h
    simp only [if_neg hnine', if_neg hlower', if_neg hupper', Nat.lt_irrefl, if_false] at h
    cases h
  unfold Text.isBlank
  simp only [Bool.or_eq_false_iff, Bool.and_eq_false_iff, decide_eq_false_iff_not]
  omega

theorem Spells.exists_digit? {c : Char} {cs : List Char} {ds : List Nat}
    (h : Spells cs ds) (hc : c ∈ cs) : exists d, digit? 16 c = some d := by
  induction cs generalizing ds with
  | nil => cases hc
  | cons first rest ih =>
      rcases h.exists_cons with ⟨d, others, rfl⟩
      rcases spells_cons_iff.mp h with ⟨hfirst, hrest⟩
      rcases List.mem_cons.mp hc with rfl | hmem
      · exact ⟨d, hfirst⟩
      · exact ih hrest hmem

theorem isBlank_of_sign {c : Char} {sign : List Char} (hsign : sign = [] ∨ sign = ['+'])
    (hc : c ∈ sign) : Text.isBlank c = false := by
  rcases hsign with rfl | rfl
  · cases hc
  · rw [List.mem_singleton.mp hc]
    decide

theorem WritesNatural.isBlank {text : List Char} {n : Nat} (h : WritesNatural text n)
    {c : Char} (hc : c ∈ text) : Text.isBlank c = false := by
  cases h with
  | decimal hsign hdigits =>
      rcases List.mem_append.mp hc with hmem | hmem
      · exact isBlank_of_sign hsign hmem
      · exact isBlank_of_isDigit (hdigits.all c hmem)
  | hexadecimal hsign _ hdigits =>
      simp only [List.mem_cons, List.mem_append] at hc
      rcases hc with rfl | rfl | hmem | hmem
      · decide
      · decide
      · exact isBlank_of_sign hsign hmem
      · rcases hdigits.exists_digit? hmem with ⟨d, hd⟩
        exact isBlank_of_digit? hd

theorem WritesNatural.ne_nil {text : List Char} {n : Nat} (h : WritesNatural text n) :
    text ≠ [] := by
  cases h with
  | decimal _ hdigits => exact List.append_ne_nil_of_right_ne_nil _ hdigits.some
  | hexadecimal _ _ _ => exact List.cons_ne_nil _ _

theorem WritesNatural.trimmed {front text back : List Char} {n : Nat}
    (h : WritesNatural text n) (hfront : front.all Text.isBlank = true)
    (hback : back.all Text.isBlank = true) :
    Text.Trimmed (front ++ text ++ back) text where
  around := ⟨front, back, rfl, hfront, hback⟩
  first := fun _ hc => h.isBlank (List.mem_of_mem_head? hc)
  last := fun _ hc => h.isBlank (List.mem_of_getLast? hc)

theorem lt_of_natural64? {s : String} {n : Nat} (h : natural64? s = some n) :
    n < bound64 := by
  rw [← String.ofList_toList (s := s), natural64?_eq_some_iff] at h
  exact h.2

end Numeral

namespace Protocol
namespace LaunchArguments

open Json
open Numeral (WritesNatural)

/-!
## What gives a number
-/

/-- A value gives a number of 64 bits, or is null or a blank text and gives none. -/
inductive Gives : Value -> Option Nat -> Prop where
  | null : Gives .null none
  | blank {s : String} (h : s.toList.all Text.isBlank = true) : Gives (.string s) none
  | integer {n : Nat} (h : n < Numeral.bound64) : Gives (.nat n) (some n)
  | text {s : String} {front numeral back : List Char} {n : Nat}
      (htext : s.toList = front ++ numeral ++ back)
      (hfront : front.all Text.isBlank = true) (hback : back.all Text.isBlank = true)
      (hnumeral : WritesNatural numeral n) (h : n < Numeral.bound64) :
      Gives (.string s) (some n)

theorem Gives.lt {v : Value} {n : Nat} (h : Gives v (some n)) : n < Numeral.bound64 := by
  cases h with
  | integer hn => exact hn
  | text _ _ _ _ hn => exact hn

theorem trim_isEmpty_iff (s : String) :
    (Text.trim s).isEmpty = true ↔ s.toList.all Text.isBlank = true := by
  have hempty : (Text.trim s).isEmpty = true ↔ Text.trimChars s.toList = [] := by
    unfold Text.trim
    simp
  rw [hempty]
  constructor
  · intro h
    rcases (Text.trimmed_trimChars s.toList).around with ⟨front, back, hs, hfront, hback⟩
    rw [hs, h]
    simp [hfront, hback]
  · exact Text.trimChars_of_all_blank

theorem natural64?_trim_iff {s : String} {n : Nat} :
    Numeral.natural64? (Text.trim s) = some n ↔
      exists front numeral back, s.toList = front ++ numeral ++ back ∧
        front.all Text.isBlank = true ∧ back.all Text.isBlank = true ∧
        WritesNatural numeral n ∧ n < Numeral.bound64 := by
  unfold Text.trim
  rw [Numeral.natural64?_eq_some_iff]
  constructor
  · rintro ⟨hwrites, hn⟩
    rcases (Text.trimmed_trimChars s.toList).around with ⟨front, back, hs, hfront, hback⟩
    exact ⟨front, _, back, hs, hfront, hback, hwrites, hn⟩
  · rintro ⟨front, numeral, back, hs, hfront, hback, hwrites, hn⟩
    rw [hs, (hwrites.trimmed hfront hback).eq_trimChars]
    exact ⟨hwrites, hn⟩

theorem gives_none_iff {s : String} :
    Gives (.string s) none ↔ (Text.trim s).isEmpty = true := by
  rw [trim_isEmpty_iff]
  constructor
  · intro h
    cases h with
    | blank hall => exact hall
  · exact .blank

theorem gives_some_iff {s : String} {n : Nat} :
    Gives (.string s) (some n) ↔ Numeral.natural64? (Text.trim s) = some n := by
  rw [natural64?_trim_iff]
  constructor
  · intro h
    cases h with
    | text htext hfront hback hnumeral hn =>
        exact ⟨_, _, _, htext, hfront, hback, hnumeral, hn⟩
  · rintro ⟨front, numeral, back, htext, hfront, hback, hnumeral, hn⟩
    exact .text htext hfront hback hnumeral hn

/-!
## What is read
-/

theorem gives_string_iff {s : String} {n? : Option Nat} :
    ofValue numberOrText (.string s) = .ok n? ↔ Gives (.string s) n? := by
  have hvalue : Decoder.option Decoder.value .tree (Document.ofValue (.string s)) =
      .ok (some (.string s)) := rfl
  unfold ofValue numberOrText
  rw [hvalue]
  dsimp only
  by_cases hblank : (Text.trim s).isEmpty = true
  · have hnone : Numeral.natural64? (Text.trim s) = none := by
      rw [String.isEmpty_iff.mp hblank]
      rfl
    rw [if_pos hblank]
    cases n? with
    | none => simp only [gives_none_iff, hblank]
    | some n => simp only [gives_some_iff, hnone, reduceCtorEq, Except.ok.injEq]
  · rw [if_neg hblank]
    cases n? with
    | none =>
        rw [gives_none_iff]
        cases Numeral.natural64? (Text.trim s) with
        | none => simp [hblank]
        | some n => simp [hblank]
    | some n =>
        rw [gives_some_iff]
        cases Numeral.natural64? (Text.trim s) with
        | none => simp
        | some m => simp

theorem gives_number_iff {x : Number} {n? : Option Nat} :
    ofValue numberOrText (.number x) = .ok n? ↔ Gives (.number x) n? := by
  cases x with
  | real r =>
      constructor
      · intro h
        cases h
      · intro h
        cases h
  | int i =>
      have hread : ofValue numberOrText (.number (.int i)) =
          if 0 ≤ i ∧ i < Numeral.bound64 then .ok (some i.toNat)
          else .error (.notNatural (.int i)) := rfl
      rw [hread]
      constructor
      · intro h
        split_ifs at h with hrange
        cases h
        rcases Int.eq_ofNat_of_zero_le hrange.1 with ⟨n, rfl⟩
        exact .integer (by omega)
      · intro h
        cases h with
        | integer hn =>
            rw [if_pos ⟨Int.natCast_nonneg _, Int.ofNat_lt.mpr hn⟩]
            rfl

theorem numberOrText_ne_ok {v : Value}
    (h : (exists items, v = .array items) ∨ exists entries, v = .object entries)
    (n? : Option Nat) : ofValue numberOrText v ≠ .ok n? := by
  intro hread
  have hnull : v ≠ .null := by
    intro hv
    rcases h with ⟨items, rfl⟩ | ⟨entries, rfl⟩
    · cases hv
    · cases hv
  unfold ofValue numberOrText at hread
  rw [Decoder.option_of_ne_null (Decoder.ofValue_ne_null hnull)] at hread
  unfold Decoder.value at hread
  cases hvalue : (Document.ofValue v).value? Origin.tree.room with
  | none =>
      rw [hvalue] at hread
      cases hread
  | some read =>
      rw [hvalue] at hread
      rcases h with ⟨items, rfl⟩ | ⟨entries, rfl⟩
      · rw [Document.ofValue, Document.value?] at hvalue
        repeat' split at hvalue
        all_goals cases hvalue
        cases hread
      · rw [Document.ofValue, Document.value?] at hvalue
        repeat' split at hvalue
        all_goals cases hvalue
        cases hread

/-- What is read as a number, or as none, is what gives it. -/
theorem ofValue_numberOrText_iff {v : Value} {n? : Option Nat} :
    ofValue numberOrText v = .ok n? ↔ Gives v n? := by
  cases v with
  | null =>
      constructor
      · intro h
        cases h
        exact .null
      · intro h
        cases h
        rfl
  | bool b =>
      constructor
      · intro h
        cases h
      · intro h
        cases h
  | number x => exact gives_number_iff
  | string s => exact gives_string_iff
  | array items =>
      constructor
      · intro h
        exact absurd h (numberOrText_ne_ok (Or.inl ⟨items, rfl⟩) n?)
      · intro h
        cases h
  | object entries =>
      constructor
      · intro h
        exact absurd h (numberOrText_ne_ok (Or.inr ⟨entries, rfl⟩) n?)
      · intro h
        cases h

theorem lt_of_numberOrText {o : Origin} {d : Document} {n : Nat}
    (h : numberOrText o d = .ok (some n)) : n < Numeral.bound64 := by
  unfold numberOrText at h
  split at h
  · cases h
  · cases h
  · split_ifs at h with hrange
    cases h
    omega
  · cases h
  · dsimp only at h
    split at h
    · cases h
    · split at h
      · rename_i hnatural
        cases h
        exact Numeral.lt_of_natural64? hnatural
      · cases h
  · cases h

end LaunchArguments
end Protocol
end TraceAdapter
