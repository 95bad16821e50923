import TraceAdapter.Proofs.Text.Trimming

/-!
# Integers of sixty-four bits

An integer is read from digits behind at most one sign, and from between blank
characters; every integer in range is written so.
-/

namespace TraceAdapter

namespace Text

/-!
## Ends of texts
-/

theorem beforeEnd?_append (s ending : String) : beforeEnd? ending (s ++ ending) = some s := by
  have hend : ending.toList.isSuffixOf (s ++ ending).toList = true := by
    rw [List.isSuffixOf_iff_suffix, String.toList_append]
    exact List.suffix_append _ _
  unfold beforeEnd?
  rw [if_pos hend, String.toList_append, List.length_append, Nat.add_sub_cancel,
    List.take_left, String.ofList_toList]

theorem eq_append_of_beforeEnd? {ending s rest : String} (h : beforeEnd? ending s = some rest) :
    s = rest ++ ending := by
  unfold beforeEnd? at h
  split_ifs at h with hend
  rcases List.isSuffixOf_iff_suffix.mp hend with ⟨head, hhead⟩
  cases h
  rw [← hhead, List.length_append, Nat.add_sub_cancel, List.take_left, ← String.toList_inj,
    String.toList_append, String.toList_ofList]
  exact hhead.symm

end Text

namespace Numeral

/-!
## Signs
-/

/-- Characters that write an integer of sixty-four bits: digits, perhaps behind a
sign. -/
inductive WritesInteger : List Char -> Int -> Prop where
  | plain {digits : List Char} {n : Nat} (hdigits : Digits digits n)
      (hbound : n < signedBound64) : WritesInteger digits n
  | plus {digits : List Char} {n : Nat} (hdigits : Digits digits n)
      (hbound : n < signedBound64) : WritesInteger ('+' :: digits) n
  | minus {digits : List Char} {n : Nat} (hdigits : Digits digits n)
      (hbound : n ≤ signedBound64) : WritesInteger ('-' :: digits) (-n)

theorem WritesInteger.range {cs : List Char} {k : Int} (h : WritesInteger cs k) :
    -signedBound64 ≤ k ∧ k < signedBound64 := by
  have hpos : 0 < signedBound64 := by decide
  cases h <;> constructor <;> omega

theorem Digits.head_isDigit {c : Char} {rest : List Char} {n : Nat}
    (h : Digits (c :: rest) n) : c.isDigit = true :=
  h.all c List.mem_cons_self

theorem integer64?_eq_some_iff {s : String} {k : Int} :
    integer64? s = some k ↔ WritesInteger s.toList k := by
  unfold integer64?
  split
  · rename_i rest hsign
    rw [hsign]
    constructor
    · intro h
      split at h
      · rename_i n hread
        rcases Option.ite_none_right_eq_some.mp h with ⟨hbound, hk⟩
        cases hk
        exact .minus (ofDigits?_eq_some_iff.mp hread) hbound
      · cases h
    · intro h
      cases h with
      | plain hdigits _ => exact absurd hdigits.head_isDigit (by decide)
      | minus hdigits hbound =>
          rw [ofDigits?_eq_some_iff.mpr hdigits]
          exact if_pos hbound
  · rename_i hsign
    have hread : forall n : Nat, natural? 10 signedBound64 s = some n ↔
        exists digits, (s.toList = digits ∨ s.toList = '+' :: digits) ∧ Digits digits n ∧
          n < signedBound64 := by
      intro n
      rw [← String.ofList_toList (s := s), natural?_eq_some_iff, String.toList_ofList]
    constructor
    · intro h
      split at h
      · rename_i n hn
        cases h
        rcases (hread n).mp hn with ⟨digits, hplain | hplus, hdigits, hbound⟩
        · rw [hplain]
          exact .plain hdigits hbound
        · rw [hplus]
          exact .plus hdigits hbound
      · cases h
    · intro h
      generalize htext : s.toList = cs at h
      cases h with
      | plain hdigits hbound =>
          rw [(hread _).mpr ⟨_, Or.inl htext, hdigits, hbound⟩]
      | plus hdigits hbound =>
          rw [(hread _).mpr ⟨_, Or.inr htext, hdigits, hbound⟩]
      | minus _ _ => exact absurd htext (hsign _)

theorem writesInteger_signedDecimal {k : Int} (hleast : -signedBound64 ≤ k)
    (hmost : k < signedBound64) :
    WritesInteger (signedDecimal k).toList k := by
  cases k with
  | ofNat n =>
      have hbound : n < signedBound64 := Int.ofNat_lt.mp hmost
      exact .plain (ofDigits?_eq_some_iff.mp (ofDigits?_decimal n)) hbound
  | negSucc n =>
      have hbound : n + 1 ≤ signedBound64 := by
        have hcast : -signedBound64 ≤ -((n : Int) + 1) := hleast
        omega
      have htext : (signedDecimal (.negSucc n)).toList = '-' :: (decimal (n + 1)).toList := by
        unfold signedDecimal
        rw [String.toList_append]
        rfl
      rw [htext]
      exact .minus (ofDigits?_eq_some_iff.mp (ofDigits?_decimal (n + 1))) hbound

/-!
## Blank characters around an integer
-/

theorem ends_of_digits {digits : List Char} {n : Nat} (h : Digits digits n) :
    forall c, digits.head? = some c ∨ digits.getLast? = some c -> Text.isBlank c = false := by
  rintro c (hc | hc)
  · exact isBlank_of_isDigit (h.all c (List.mem_of_head? hc))
  · exact isBlank_of_isDigit (h.all c (List.mem_of_getLast? hc))

theorem getLast?_cons_of_digits {digits : List Char} {n : Nat} (h : Digits digits n)
    (sign : Char) : (sign :: digits).getLast? = digits.getLast? := by
  rw [List.getLast?_cons, List.getLast?_eq_some_getLast h.some]
  rfl

theorem WritesInteger.ends {cs : List Char} {k : Int} (h : WritesInteger cs k) :
    forall c, cs.head? = some c ∨ cs.getLast? = some c -> Text.isBlank c = false := by
  have hsigned : forall (sign : Char) {digits : List Char} {n : Nat}, Digits digits n ->
      Text.isBlank sign = false ->
      forall c, (sign :: digits).head? = some c ∨ (sign :: digits).getLast? = some c ->
        Text.isBlank c = false := by
    rintro sign digits n hdigits hsign c (hc | hc)
    · cases hc
      exact hsign
    · rw [getLast?_cons_of_digits hdigits] at hc
      exact ends_of_digits hdigits c (Or.inr hc)
  cases h with
  | plain hdigits _ => exact ends_of_digits hdigits
  | plus hdigits _ => exact hsigned '+' hdigits (by decide)
  | minus hdigits _ => exact hsigned '-' hdigits (by decide)

/-- A text that writes an integer of sixty-four bits between blank characters. -/
structure IndexText (s : String) (k : Int) : Prop where
  written : exists front middle back, s.toList = front ++ middle ++ back ∧
    front.all Text.isBlank = true ∧ back.all Text.isBlank = true ∧ WritesInteger middle k

theorem IndexText.range {s : String} {k : Int} (h : IndexText s k) :
    -signedBound64 ≤ k ∧ k < signedBound64 := by
  rcases h.written with ⟨_, _, _, _, _, _, hmiddle⟩
  exact hmiddle.range

theorem integer64?_trim_eq_some_iff {s : String} {k : Int} :
    integer64? (Text.trim s) = some k ↔ IndexText s k := by
  rw [integer64?_eq_some_iff]
  unfold Text.trim
  rw [String.toList_ofList]
  constructor
  · intro h
    rcases (Text.trimmed_trimChars s.toList).around with ⟨front, back, hs, hfront, hback⟩
    exact ⟨front, _, back, hs, hfront, hback, h⟩
  · rintro ⟨front, middle, back, hs, hfront, hback, h⟩
    have htrimmed : Text.Trimmed s.toList middle :=
      ⟨⟨front, back, hs, hfront, hback⟩, fun c hc => h.ends c (Or.inl hc),
        fun c hc => h.ends c (Or.inr hc)⟩
    rw [htrimmed.eq_trimChars]
    exact h

end Numeral
end TraceAdapter
