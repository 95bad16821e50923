import Mathlib.Data.Nat.Digits.Lemmas
import Mathlib.Tactic.Ring
import TraceAdapter.Text.Numeral

/-!
# Digits of base sixteen

A character is a digit when its lower case is one of the sixteen, so characters spell
at most one list of digits.  The digits that a number is written with are the shortest
ones that make it.
-/

namespace TraceAdapter
namespace Numeral

/-!
## Characters
-/

theorem toLower_of_not_upper {c : Char} (h : ¬ ('A' ≤ c ∧ c ≤ 'Z')) : c.toLower = c :=
  dif_neg h

theorem toNat_toLower_of_upper {c : Char} (h : 'A' ≤ c ∧ c ≤ 'Z') :
    c.toLower.toNat = c.toNat + 32 := by
  have hlast : c.val.toNat ≤ 90 := h.2
  have hlower : c.toLower.val = c.val + ('a'.val - 'A'.val) :=
    congrArg Char.val (dif_pos h)
  have hdistance : ('a'.val - 'A'.val).toNat = 32 := by decide
  unfold Char.toNat
  rw [hlower, UInt32.toNat_add, hdistance]
  omega

theorem digit?_sixteen_small (i : Nat) (hi : i < 128) (d : Nat) (hd : d < 16) :
    digit? 16 (Char.ofNat i) = some d ↔ (Char.ofNat i).toLower = Nat.digitChar d := by
  revert i d
  decide +kernel

theorem toNat_digitChar_lt {d : Nat} (h : d < 16) : (Nat.digitChar d).toNat < 128 := by
  revert d
  decide

theorem toNat_lt_of_digit? {base d : Nat} {c : Char} (h : digit? base c = some d) :
    c.toNat < 128 := by
  by_contra hlarge
  have hnine : ¬ ('0' ≤ c ∧ c ≤ '9') := fun hrange => hlarge (by
    have hlast : c.toNat ≤ 57 := hrange.2
    omega)
  have hlower : ¬ ('a' ≤ c ∧ c ≤ 'z') := fun hrange => hlarge (by
    have hlast : c.toNat ≤ 122 := hrange.2
    omega)
  have hupper : ¬ ('A' ≤ c ∧ c ≤ 'Z') := fun hrange => hlarge (by
    have hlast : c.toNat ≤ 90 := hrange.2
    omega)
  unfold digit? at h
  simp only [if_neg hnine, if_neg hlower, if_neg hupper, Nat.lt_irrefl, if_false] at h
  cases h

theorem digit?_sixteen_iff {c : Char} {d : Nat} :
    digit? 16 c = some d ↔ d < 16 ∧ c.toLower = Nat.digitChar d := by
  have hmost : digit? 16 c = some d -> d < 16 := by
    intro h
    unfold digit? at h
    rcases Option.ite_none_right_eq_some.mp h with ⟨hlt, hvalue⟩
    rw [Option.some.injEq] at hvalue
    rw [hvalue] at hlt
    exact hlt
  have hsmall : c.toNat < 128 -> d < 16 ->
      (digit? 16 c = some d ↔ c.toLower = Nat.digitChar d) := by
    intro hc hd
    have hread := digit?_sixteen_small c.toNat hc d hd
    rw [Char.ofNat_toNat] at hread
    exact hread
  constructor
  · intro h
    exact ⟨hmost h, (hsmall (toNat_lt_of_digit? h) (hmost h)).mp h⟩
  · rintro ⟨hd, h⟩
    refine (hsmall ?_ hd).mpr h
    by_cases hupper : 'A' ≤ c ∧ c ≤ 'Z'
    · have hlast : c.toNat ≤ 90 := hupper.2
      omega
    · rw [toLower_of_not_upper hupper] at h
      rw [h]
      exact toNat_digitChar_lt hd

/-!
## Spelled digits
-/

/-- Characters that spell digits of base sixteen, letters in either case. -/
structure Spells (cs : List Char) (ds : List Nat) : Prop where
  characters : cs.map Char.toLower = ds.map Nat.digitChar
  small : forall d, d ∈ ds -> d < 16

theorem spells_nil : Spells [] [] := ⟨rfl, nofun⟩

theorem spells_cons_iff {c : Char} {cs : List Char} {d : Nat} {ds : List Nat} :
    Spells (c :: cs) (d :: ds) ↔ digit? 16 c = some d ∧ Spells cs ds := by
  rw [digit?_sixteen_iff]
  constructor
  · rintro ⟨hcharacters, hsmall⟩
    rw [List.map_cons, List.map_cons, List.cons.injEq] at hcharacters
    rw [List.forall_mem_cons] at hsmall
    exact ⟨⟨hsmall.1, hcharacters.1⟩, hcharacters.2, hsmall.2⟩
  · rintro ⟨⟨hd, hc⟩, hcs, hds⟩
    refine ⟨?_, List.forall_mem_cons.mpr ⟨hd, hds⟩⟩
    rw [List.map_cons, List.map_cons, hc, hcs]

theorem Spells.exists_cons {c : Char} {cs : List Char} {ds : List Nat}
    (h : Spells (c :: cs) ds) : exists d rest, ds = d :: rest := by
  cases ds with
  | nil => cases h.characters
  | cons d rest => exact ⟨d, rest, rfl⟩

theorem ofDigits_reverse_cons (base d : Nat) (ds : List Nat) :
    Nat.ofDigits base (d :: ds).reverse =
      d * base ^ ds.length + Nat.ofDigits base ds.reverse := by
  rw [List.reverse_cons, Nat.ofDigits_append, List.length_reverse, Nat.ofDigits_singleton]
  ring

theorem foldDigits?_eq_some_iff {n m : Nat} {cs : List Char} :
    foldDigits? 16 n cs = some m ↔
      exists ds, Spells cs ds ∧ m = n * 16 ^ ds.length + Nat.ofDigits 16 ds.reverse := by
  induction cs generalizing n with
  | nil =>
      rw [foldDigits?_nil, Option.some.injEq]
      constructor
      · rintro rfl
        exact ⟨[], spells_nil, by simp⟩
      · rintro ⟨ds, hds, rfl⟩
        cases ds with
        | nil => simp
        | cons d rest => cases hds.characters
  | cons c rest ih =>
      constructor
      · intro h
        cases hdigit : digit? 16 c with
        | none => simp [foldDigits?, hdigit] at h
        | some d =>
            rw [foldDigits?_cons_of_digit rest hdigit] at h
            rcases ih.mp h with ⟨ds, hds, rfl⟩
            refine ⟨d :: ds, spells_cons_iff.mpr ⟨hdigit, hds⟩, ?_⟩
            rw [ofDigits_reverse_cons, List.length_cons]
            ring
      · rintro ⟨ds, hds, rfl⟩
        rcases hds.exists_cons with ⟨d, tail, rfl⟩
        rcases spells_cons_iff.mp hds with ⟨hdigit, htail⟩
        rw [foldDigits?_cons_of_digit rest hdigit]
        refine ih.mpr ⟨tail, htail, ?_⟩
        rw [ofDigits_reverse_cons, List.length_cons]
        ring

theorem le_of_foldDigits? {n m : Nat} {cs : List Char} (h : foldDigits? 16 n cs = some m) :
    n ≤ m := by
  rcases foldDigits?_eq_some_iff.mp h with ⟨ds, _, rfl⟩
  exact Nat.le_add_right_of_le (Nat.le_mul_of_pos_right n (Nat.pow_pos (by decide)))

/-!
## Written digits
-/

/-- The digits of a number in a base without a zero in front; zero has one digit. -/
structure Shortest (base : Nat) (ds : List Nat) (n : Nat) : Prop where
  ne_nil : ds ≠ []
  small : forall d, d ∈ ds -> d < base
  value : Nat.ofDigits base ds.reverse = n
  noZero : ds.head? = some 0 -> ds = [0]

theorem Shortest.eq_digits {base n : Nat} {ds : List Nat} (hbase : 1 < base)
    (h : Shortest base ds n) (hpos : 0 < n) : ds.reverse = Nat.digits base n := by
  rw [← h.value, Nat.digits_ofDigits base hbase]
  · intro d hd
    exact h.small d (List.mem_reverse.mp hd)
  · intro hsome hlast
    rw [List.getLast_reverse] at hlast
    have hhead : ds.head? = some 0 := by
      rw [← hlast]
      exact List.head?_eq_some_head h.ne_nil
    have hvalue := h.value
    rw [h.noZero hhead] at hvalue
    exact hpos.ne hvalue

theorem Shortest.eq_zero {base : Nat} {ds : List Nat} (hbase : 1 < base)
    (h : Shortest base ds 0) : ds = [0] := by
  apply h.noZero
  rw [List.head?_eq_some_head h.ne_nil]
  congr 1
  have hdigits : forall d, d ∈ ds.reverse -> d = 0 :=
    Nat.digits_zero_of_eq_zero (Nat.zero_lt_of_lt hbase).ne' h.value
  exact hdigits _ (List.mem_reverse.mpr (List.head_mem h.ne_nil))

theorem Shortest.unique {base n : Nat} {ds es : List Nat} (hbase : 1 < base)
    (hds : Shortest base ds n) (hes : Shortest base es n) : ds = es := by
  cases n with
  | zero => rw [hds.eq_zero hbase, hes.eq_zero hbase]
  | succ n =>
      apply List.reverse_injective
      rw [hds.eq_digits hbase n.succ_pos, hes.eq_digits hbase n.succ_pos]

theorem toDigits_eq_map_digits {base n : Nat} (hbase : 1 < base) (hpos : 0 < n) :
    Nat.toDigits base n = (Nat.digits base n).reverse.map Nat.digitChar := by
  induction n using Nat.strong_induction_on with
  | _ n ih =>
      by_cases hsmall : n < base
      · rw [Nat.toDigits_of_lt_base hsmall, Nat.digits_of_lt base n hpos.ne' hsmall]
        rfl
      · have hquotient : 0 < n / base := Nat.div_pos (Nat.le_of_not_lt hsmall) (by omega)
        rw [Nat.toDigits_of_base_le hbase (Nat.le_of_not_lt hsmall),
          ih (n / base) (Nat.div_lt_self hpos hbase) hquotient, Nat.digits_def' hbase hpos,
          List.reverse_cons, List.map_append, List.map_singleton]

theorem exists_shortest {base : Nat} (hbase : 1 < base) (n : Nat) :
    exists ds, Nat.toDigits base n = ds.map Nat.digitChar ∧ Shortest base ds n := by
  by_cases hzero : n = 0
  · subst hzero
    refine ⟨[0], Nat.toDigits_of_lt_base (by omega), ?_⟩
    exact ⟨by simp, by simp; omega, by simp, fun _ => rfl⟩
  · have hpos := Nat.pos_of_ne_zero hzero
    refine ⟨(Nat.digits base n).reverse, toDigits_eq_map_digits hbase hpos, ?_⟩
    constructor
    · intro hnil
      exact Nat.digits_ne_nil_iff_ne_zero.mpr hzero (List.reverse_eq_nil_iff.mp hnil)
    · intro d hd
      exact Nat.digits_lt_base hbase (List.mem_reverse.mp hd)
    · rw [List.reverse_reverse, Nat.ofDigits_digits]
    · intro hhead
      have hsome : Nat.digits base n ≠ [] := Nat.digits_ne_nil_iff_ne_zero.mpr hzero
      rw [List.head?_reverse, List.getLast?_eq_some_getLast hsome] at hhead
      exact absurd (Option.some.inj hhead) (Nat.getLast_digit_ne_zero base hzero)

theorem toLower_digitChar {d : Nat} (h : d < 16) :
    (Nat.digitChar d).toLower = Nat.digitChar d := by
  revert d
  decide

theorem spells_map_digitChar {ds : List Nat} (h : forall d, d ∈ ds -> d < 16) :
    Spells (ds.map Nat.digitChar) ds := by
  refine ⟨?_, h⟩
  rw [List.map_map]
  apply List.map_congr_left
  intro d hd
  exact toLower_digitChar (h d hd)

end Numeral
end TraceAdapter
