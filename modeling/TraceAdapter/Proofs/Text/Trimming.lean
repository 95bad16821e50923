import TraceAdapter.Proofs.Text.Numerals

/-!
# Trimmed texts and decimal numerals

What trimming leaves is the part of a text between blank characters that itself
neither begins nor ends with one.  A numeral is read when it is digits, which may
follow a plus sign.
-/

namespace TraceAdapter

namespace Text

/-!
## Trimming
-/

/-- A part of a text with nothing but blank characters around it, and none at its
ends. -/
structure Trimmed (whole middle : List Char) : Prop where
  around : exists front back,
    whole = front ++ middle ++ back ∧
      front.all isBlank = true ∧ back.all isBlank = true
  first : forall c, middle.head? = some c -> isBlank c = false
  last : forall c, middle.getLast? = some c -> isBlank c = false

theorem isBlank_of_head?_dropWhile {cs : List Char} {c : Char}
    (h : (cs.dropWhile isBlank).head? = some c) : isBlank c = false := by
  have hhead := List.head?_dropWhile_not isBlank cs
  rw [h] at hhead
  exact hhead

theorem trimmed_trimChars (cs : List Char) : Trimmed cs (trimChars cs) := by
  have hfront : cs = cs.takeWhile isBlank ++ cs.dropWhile isBlank :=
    List.takeWhile_append_dropWhile.symm
  have hback : cs.dropWhile isBlank =
      trimChars cs ++ ((cs.dropWhile isBlank).reverse.takeWhile isBlank).reverse := by
    unfold trimChars
    rw [← List.reverse_append, List.takeWhile_append_dropWhile, List.reverse_reverse]
  constructor
  · refine ⟨cs.takeWhile isBlank,
      ((cs.dropWhile isBlank).reverse.takeWhile isBlank).reverse, ?_, List.all_takeWhile, ?_⟩
    · rw [List.append_assoc, ← hback]
      exact hfront
    · rw [List.all_reverse]
      exact List.all_takeWhile
  · intro c hc
    have hhead : (cs.dropWhile isBlank).head? = some c := by
      rw [hback, List.head?_append, hc]
      rfl
    exact isBlank_of_head?_dropWhile hhead
  · intro c hc
    unfold trimChars at hc
    rw [List.getLast?_reverse] at hc
    exact isBlank_of_head?_dropWhile hc

theorem trimChars_of_all_blank {cs : List Char} (h : cs.all isBlank = true) :
    trimChars cs = [] := by
  have hdrop : cs.dropWhile isBlank = [] := by
    rw [← List.append_nil cs, List.dropWhile_append_of_pos (List.all_eq_true.mp h)]
    rfl
  unfold trimChars
  rw [hdrop]
  rfl

theorem Trimmed.eq_trimChars {whole middle : List Char} (h : Trimmed whole middle) :
    trimChars whole = middle := by
  rcases h.around with ⟨front, back, rfl, hfront, hback⟩
  cases middle with
  | nil =>
      apply trimChars_of_all_blank
      simp [hfront, hback]
  | cons c rest =>
      apply trimChars_eq (by simp) hfront hback
      · exact h.first c rfl
      · exact h.last _ (List.getLast?_eq_some_getLast _)

end Text

namespace Numeral

/-!
## Digits
-/

theorem isDigit_of_digit? {c : Char} {d : Nat} (h : digit? 10 c = some d) :
    c.isDigit = true := by
  rw [isDigit_iff]
  by_cases hdigit : '0' ≤ c ∧ c ≤ '9'
  · exact hdigit
  · exfalso
    unfold digit? at h
    simp only [if_neg hdigit] at h
    split_ifs at h <;> omega

theorem isDigit_of_foldDigits? {cs : List Char} {n m : Nat}
    (h : foldDigits? 10 n cs = some m) : forall c, c ∈ cs -> c.isDigit = true := by
  induction cs generalizing n with
  | nil =>
      intro c hc
      cases hc
  | cons d rest ih =>
      intro c hc
      cases hdigit : digit? 10 d with
      | none => simp [foldDigits?, hdigit] at h
      | some value =>
          rw [foldDigits?_cons_of_digit rest hdigit] at h
          rcases List.mem_cons.mp hc with rfl | hrest
          · exact isDigit_of_digit? hdigit
          · exact ih h c hrest

/-- Digits, at least one, that write a number. -/
structure Digits (digits : List Char) (n : Nat) : Prop where
  some : digits ≠ []
  all : forall c, c ∈ digits -> c.isDigit = true
  value : Nat.ofDigitChars 10 digits 0 = n

theorem ofDigits?_eq_some_iff {digits : List Char} {n : Nat} :
    ofDigits? 10 digits = some n ↔ Digits digits n := by
  unfold ofDigits?
  constructor
  · intro h
    split_ifs at h with hempty
    have hall := isDigit_of_foldDigits? h
    rw [foldDigits?_of_digits hall] at h
    cases h
    constructor
    · intro hnil
      rw [hnil] at hempty
      exact hempty rfl
    · exact hall
    · rfl
  · rintro ⟨hsome, hall, hvalue⟩
    rw [if_neg (by simpa using hsome), foldDigits?_of_digits hall, hvalue]

theorem digit?_plus (base : Nat) : digit? base '+' = none := by
  simp [digit?]

theorem ofDigits?_plus (base : Nat) (cs : List Char) : ofDigits? base ('+' :: cs) = none := by
  unfold ofDigits? foldDigits?
  rw [digit?_plus]
  rfl

theorem exists_digits (base bound : Nat) (text : List Char) :
    exists digits,
      (text = '+' :: digits ∨ text = digits ∧ forall cs, text ≠ '+' :: cs) ∧
        natural? base bound (String.ofList text) =
          (ofDigits? base digits).bind fun m => if m < bound then some m else none := by
  unfold natural?
  rw [String.toList_ofList]
  split
  · rename_i rest
    refine ⟨rest, Or.inl rfl, ?_⟩
    dsimp only
    cases ofDigits? base rest with
    | none => rfl
    | some m => rfl
  · rename_i hsign
    refine ⟨text, Or.inr ⟨rfl, hsign⟩, ?_⟩
    dsimp only
    cases ofDigits? base text with
    | none => rfl
    | some m => rfl

theorem natural?_eq_some_iff_ofDigits? {base bound : Nat} {text : List Char} {n : Nat} :
    natural? base bound (String.ofList text) = some n ↔
      exists digits, (text = digits ∨ text = '+' :: digits) ∧
        ofDigits? base digits = some n ∧ n < bound := by
  have hbounded (digits : List Char) :
      ((ofDigits? base digits).bind fun m => if m < bound then some m else none) = some n ↔
        ofDigits? base digits = some n ∧ n < bound := by
    cases ofDigits? base digits with
    | none => simp
    | some m =>
        simp only [Option.bind_some, Option.ite_none_right_eq_some, Option.some.injEq]
        constructor
        · rintro ⟨hm, rfl⟩
          exact ⟨rfl, hm⟩
        · rintro ⟨rfl, hm⟩
          exact ⟨hm, rfl⟩
  rcases exists_digits base bound text with ⟨digits, hsign, hnatural⟩
  rw [hnatural, hbounded]
  rcases hsign with rfl | ⟨rfl, hsign⟩
  · constructor
    · intro h
      exact ⟨digits, Or.inr rfl, h⟩
    · rintro ⟨other, htext | htext, h⟩
      · rw [← htext, ofDigits?_plus] at h
        cases h.1
      · cases htext
        exact h
  · constructor
    · intro h
      exact ⟨text, Or.inl rfl, h⟩
    · rintro ⟨other, rfl | htext, h⟩
      · exact h
      · exact absurd htext (hsign other)

theorem natural?_eq_some_iff {bound : Nat} {text : List Char} {n : Nat} :
    natural? 10 bound (String.ofList text) = some n ↔
      exists digits, (text = digits ∨ text = '+' :: digits) ∧ Digits digits n ∧ n < bound := by
  simp only [natural?_eq_some_iff_ofDigits?, ofDigits?_eq_some_iff]

end Numeral
end TraceAdapter
