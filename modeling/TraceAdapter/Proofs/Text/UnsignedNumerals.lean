import TraceAdapter.Proofs.Text.Hexadecimal
import TraceAdapter.Proofs.Text.Trimming

/-!
# Natural numbers of sixty-four bits

A natural number is read from digits of base ten, or from digits of base sixteen behind
`0x`.  What is read is the number that the digits write; a number that needs more bits is
not read at all.
-/

namespace TraceAdapter
namespace Numeral

/-- Characters that write a natural number: digits of base ten, or digits of base sixteen
behind `0x`.  A plus sign may stand before the digits. -/
inductive WritesNatural : List Char -> Nat -> Prop where
  | decimal {sign digits : List Char} {n : Nat} (hsign : sign = [] ∨ sign = ['+'])
      (hdigits : Digits digits n) : WritesNatural (sign ++ digits) n
  | hexadecimal {sign digits : List Char} {ds : List Nat}
      (hsign : sign = [] ∨ sign = ['+']) (hsome : ds ≠ []) (hdigits : Spells digits ds) :
      WritesNatural ('0' :: 'x' :: (sign ++ digits)) (Nat.ofDigits 16 ds.reverse)

theorem ofDigits?_sixteen_eq_some_iff {digits : List Char} {n : Nat} :
    ofDigits? 16 digits = some n ↔
      exists ds, ds ≠ [] ∧ Spells digits ds ∧ Nat.ofDigits 16 ds.reverse = n := by
  cases digits with
  | nil =>
      constructor
      · intro h
        cases h
      · rintro ⟨ds, hsome, hspells, _⟩
        exact absurd (List.map_eq_nil_iff.mp hspells.characters.symm) hsome
  | cons c cs =>
      have hfold : ofDigits? 16 (c :: cs) = foldDigits? 16 0 (c :: cs) := rfl
      rw [hfold, foldDigits?_eq_some_iff]
      constructor
      · rintro ⟨ds, hspells, rfl⟩
        rcases hspells.exists_cons with ⟨d, rest, rfl⟩
        exact ⟨d :: rest, List.cons_ne_nil d rest, hspells, by simp⟩
      · rintro ⟨ds, _, hspells, rfl⟩
        exact ⟨ds, hspells, by simp⟩

theorem not_digits_of_mark {cs : List Char} {n : Nat} : ¬ Digits ('0' :: 'x' :: cs) n := by
  intro h
  have hx := h.all 'x' (List.mem_cons_of_mem _ List.mem_cons_self)
  exact absurd hx (by decide)

theorem signed_iff {text digits : List Char} :
    (text = digits ∨ text = '+' :: digits) ↔
      exists sign, (sign = [] ∨ sign = ['+']) ∧ text = sign ++ digits := by
  constructor
  · rintro (rfl | rfl)
    · exact ⟨[], Or.inl rfl, rfl⟩
    · exact ⟨['+'], Or.inr rfl, rfl⟩
  · rintro ⟨sign, rfl | rfl, rfl⟩
    · exact Or.inl rfl
    · exact Or.inr rfl

theorem natural?_ten_iff {text : List Char} (hmark : forall cs, text ≠ '0' :: 'x' :: cs)
    {bound n : Nat} :
    natural? 10 bound (String.ofList text) = some n ↔ WritesNatural text n ∧ n < bound := by
  rw [natural?_eq_some_iff]
  constructor
  · rintro ⟨digits, htext, hdigits, hbound⟩
    rcases signed_iff.mp htext with ⟨sign, hsign, rfl⟩
    exact ⟨.decimal hsign hdigits, hbound⟩
  · rintro ⟨hwrites, hbound⟩
    cases hwrites with
    | decimal hsign hdigits => exact ⟨_, signed_iff.mpr ⟨_, hsign, rfl⟩, hdigits, hbound⟩
    | hexadecimal _ _ _ => exact absurd rfl (hmark _)

theorem natural?_sixteen_iff {bound n : Nat} {text : List Char} :
    natural? 16 bound (String.ofList text) = some n ↔
      WritesNatural ('0' :: 'x' :: text) n ∧ n < bound := by
  rw [natural?_eq_some_iff_ofDigits?]
  constructor
  · rintro ⟨digits, htext, hdigits, hbound⟩
    rcases signed_iff.mp htext with ⟨sign, hsign, rfl⟩
    rcases ofDigits?_sixteen_eq_some_iff.mp hdigits with ⟨ds, hsome, hspells, rfl⟩
    exact ⟨.hexadecimal hsign hsome hspells, hbound⟩
  · rintro ⟨hwrites, hbound⟩
    generalize htext : '0' :: 'x' :: text = whole at hwrites
    cases hwrites with
    | decimal hsign hdigits =>
        rcases hsign with rfl | rfl
        · rw [List.nil_append] at htext
          rw [← htext] at hdigits
          exact absurd hdigits not_digits_of_mark
        · cases htext
    | hexadecimal hsign hsome hspells =>
        cases htext
        exact ⟨_, signed_iff.mpr ⟨_, hsign, rfl⟩,
          ofDigits?_sixteen_eq_some_iff.mpr ⟨_, hsome, hspells, rfl⟩, hbound⟩

theorem natural64?_eq_some_iff {text : List Char} {n : Nat} :
    natural64? (String.ofList text) = some n ↔ WritesNatural text n ∧ n < bound64 := by
  have hchars : (String.ofList text).toList = text := String.toList_ofList
  unfold natural64? Text.afterStart?
  rw [hchars]
  by_cases hmark : exists cs, text = '0' :: 'x' :: cs
  · rcases hmark with ⟨cs, rfl⟩
    exact natural?_sixteen_iff
  · have hplain : forall cs, text ≠ '0' :: 'x' :: cs := fun cs htext => hmark ⟨cs, htext⟩
    rw [if_neg]
    · exact natural?_ten_iff hplain
    · intro hprefix
      rcases List.isPrefixOf_iff_prefix.mp hprefix with ⟨cs, hcs⟩
      exact hplain cs hcs.symm

end Numeral
end TraceAdapter
