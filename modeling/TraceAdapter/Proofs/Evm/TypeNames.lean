import TraceAdapter.Evm.TypeName
import TraceAdapter.Proofs.Text.Trimming

/-!
# What type names say

A name is of an integer family or of a number of bytes by what follows its
beginning, and the names of the other types are single texts.
-/

namespace TraceAdapter

namespace Text

theorem afterStart?_append (start rest : String) :
    afterStart? start (start ++ rest) = some rest := by
  have hstart : start.toList.isPrefixOf (start ++ rest).toList = true := by
    rw [List.isPrefixOf_iff_prefix, String.toList_append]
    exact List.prefix_append _ _
  unfold afterStart?
  rw [if_pos hstart, String.toList_append, List.drop_left, String.ofList_toList]

theorem eq_append_of_afterStart? {start s rest : String} (h : afterStart? start s = some rest) :
    s = start ++ rest := by
  unfold afterStart? at h
  split_ifs at h with hstart
  rcases List.isPrefixOf_iff_prefix.mp hstart with ⟨tail, htail⟩
  cases h
  rw [← htail, List.drop_left, ← String.toList_inj, String.toList_append, String.toList_ofList]
  exact htail.symm

end Text

namespace Evm
namespace TypeName

/-!
## Numbers behind a beginning
-/

/-- A number stands behind a beginning, in digits that may follow a plus sign. -/
def Numbered (start name : String) (n : Nat) : Prop :=
  exists rest digits, name = start ++ String.ofList rest ∧
    (rest = digits ∨ rest = '+' :: digits) ∧ Numeral.Digits digits n

theorem numbered_iff {start name : String} {n : Nat} (hbound : n < Numeral.bound64) :
    Numbered start name n ↔
      exists rest, Text.afterStart? start name = some rest ∧
        Numeral.natural? 10 Numeral.bound64 rest = some n := by
  constructor
  · rintro ⟨rest, digits, rfl, hsign, hdigits⟩
    exact ⟨String.ofList rest, Text.afterStart?_append start _,
      Numeral.natural?_eq_some_iff.mpr ⟨digits, hsign, hdigits, hbound⟩⟩
  · rintro ⟨rest, hrest, hread⟩
    rw [← String.ofList_toList (s := rest)] at hread
    rcases Numeral.natural?_eq_some_iff.mp hread with ⟨digits, hsign, hdigits, _⟩
    refine ⟨rest.toList, digits, ?_, hsign, hdigits⟩
    rw [String.ofList_toList]
    exact Text.eq_append_of_afterStart? hrest

theorem Numbered.ne_start {start name : String} {n : Nat} (h : Numbered start name n) :
    name ≠ start := by
  rcases h with ⟨rest, digits, rfl, hsign, hdigits⟩
  intro hsame
  have hrest : rest = [] := by
    have htext := congrArg String.toList hsame
    rw [String.toList_append, String.toList_ofList] at htext
    exact List.append_right_eq_self.mp htext
  rcases hsign with rfl | rfl
  · exact hdigits.some hrest
  · cases hrest

/-!
## Integer families
-/

/-- The width that a name of an integer family says: 256 where nothing follows the
family, else a number of whole bytes. -/
inductive OfWidth (family name : String) : Nat -> Prop where
  | full (hname : name = family) : OfWidth family name 256
  | numbered {bits : Nat} (hname : Numbered family name bits) (hpos : 0 < bits)
      (hmost : bits ≤ 256) (hbytes : bits % 8 = 0) : OfWidth family name bits

theorem OfWidth.pos {family name : String} {bits : Nat} (h : OfWidth family name bits) :
    0 < bits := by
  cases h with
  | full _ => decide
  | numbered _ hpos _ _ => exact hpos

theorem OfWidth.atMost {family name : String} {bits : Nat} (h : OfWidth family name bits) :
    bits ≤ 256 := by
  cases h with
  | full _ => decide
  | numbered _ _ hmost _ => exact hmost

theorem width?_self (family : String) : width? family family = some 256 := by
  have hrest := Text.afterStart?_append family ""
  rw [String.append_empty] at hrest
  unfold width?
  rw [hrest]
  rfl

theorem width?_eq_some_iff {family name : String} {bits : Nat} :
    width? family name = some bits ↔ OfWidth family name bits := by
  constructor
  · intro h
    unfold width? at h
    split at h
    · cases h
    · rename_i rest hrest
      split_ifs at h with hempty
      · cases h
        have hname := Text.eq_append_of_afterStart? hrest
        rw [String.isEmpty_iff.mp hempty, String.append_empty] at hname
        exact .full hname
      · split at h
        · rename_i n hread
          rcases Option.ite_none_right_eq_some.mp h with ⟨⟨hpos, hmost, hbytes⟩, hn⟩
          cases hn
          have hbound : bits < Numeral.bound64 := Nat.lt_of_le_of_lt hmost (by decide)
          exact .numbered ((numbered_iff hbound).mpr ⟨rest, hrest, hread⟩) hpos hmost hbytes
        · cases h
  · intro h
    cases h with
    | full hname => rw [hname, width?_self]
    | numbered hname hpos hmost hbytes =>
        have hbound : bits < Numeral.bound64 := Nat.lt_of_le_of_lt hmost (by decide)
        rcases (numbered_iff hbound).mp hname with ⟨rest, hrest, hread⟩
        have hsome : rest.isEmpty = false := by
          rw [Bool.eq_false_iff, Ne, String.isEmpty_iff]
          rintro rfl
          have hsame := Text.eq_append_of_afterStart? hrest
          rw [String.append_empty] at hsame
          exact hname.ne_start hsame
        unfold width?
        simp only [hrest, hsome, hread, Bool.false_eq_true, if_false, hpos, hmost, hbytes,
          and_self, if_true]

theorem width?_decimal {bits : Nat} (family : String) (hpos : 0 < bits) (hmost : bits ≤ 256)
    (hbytes : bits % 8 = 0) :
    width? family (family ++ Numeral.decimal bits) = some bits := by
  have hsome : (Numeral.decimal bits).isEmpty = false := by
    rw [Bool.eq_false_iff, Ne, String.isEmpty_iff, ← String.toList_eq_nil_iff]
    exact Numeral.toList_decimal_ne_nil bits
  have hbound : bits < Numeral.bound64 := Nat.lt_of_le_of_lt hmost (by decide)
  unfold width?
  simp only [Text.afterStart?_append, hsome, Numeral.natural?_decimal hbound,
    Bool.false_eq_true, if_false, hpos, hmost, hbytes, and_self, if_true]

theorem width?_eq_none {family name : String} {c d : Char}
    (hfamily : family.toList.head? = some c) (hname : name.toList.head? = some d)
    (h : d ≠ c) : width? family name = none := by
  unfold width?
  cases hrest : Text.afterStart? family name with
  | none => rfl
  | some rest =>
      exfalso
      apply h
      rw [Text.eq_append_of_afterStart? hrest, String.toList_append, List.head?_append,
        hfamily] at hname
      exact (Option.some.inj hname).symm

theorem ofName_unsigned {bits : Nat} (hpos : 0 < bits) (hmost : bits ≤ 256)
    (hbytes : bits % 8 = 0) : ofName ("uint" ++ Numeral.decimal bits) = .unsigned bits := by
  unfold ofName
  rw [width?_decimal "uint" hpos hmost hbytes]

theorem ofName_signed {bits : Nat} (hpos : 0 < bits) (hmost : bits ≤ 256)
    (hbytes : bits % 8 = 0) : ofName ("int" ++ Numeral.decimal bits) = .signed bits := by
  have hhead : ("int" ++ Numeral.decimal bits).toList.head? = some 'i' := by
    rw [String.toList_append]
    rfl
  unfold ofName
  rw [width?_eq_none rfl hhead (by decide), width?_decimal "int" hpos hmost hbytes]

/-!
## Numbers of bytes
-/

/-- The number of bytes stands behind `bytes` in digits, which may follow a plus
sign. -/
structure OfBytes (name : String) (n : Nat) : Prop where
  written : exists rest digits, name = "bytes" ++ String.ofList rest ∧
    (rest = digits ∨ rest = '+' :: digits) ∧ Numeral.Digits digits n
  positive : 1 ≤ n
  atMost : n ≤ 32

theorem byteCount?_eq_some_iff {name : String} {n : Nat} :
    byteCount? name = some n ↔ OfBytes name n := by
  constructor
  · intro h
    unfold byteCount? at h
    split at h
    · cases h
    · rename_i rest hrest
      split at h
      · rename_i m hread
        rcases Option.ite_none_right_eq_some.mp h with ⟨⟨hpositive, hmost⟩, hm⟩
        cases hm
        have hbound : n < Numeral.bound64 := Nat.lt_of_le_of_lt hmost (by decide)
        exact ⟨(numbered_iff hbound).mpr ⟨rest, hrest, hread⟩, hpositive, hmost⟩
      · cases h
  · rintro ⟨hwritten, hpositive, hmost⟩
    have hbound : n < Numeral.bound64 := Nat.lt_of_le_of_lt hmost (by decide)
    rcases (numbered_iff hbound).mp hwritten with ⟨rest, hrest, hread⟩
    unfold byteCount?
    simp only [hrest, hread]
    exact if_pos ⟨hpositive, hmost⟩

/-!
## Inversion
-/

/-- What a name says, by the rule that says it. -/
inductive Says (name : String) : TypeName -> Prop where
  | unsigned {bits : Nat} : width? "uint" name = some bits -> Says name (.unsigned bits)
  | signed {bits : Nat} : width? "int" name = some bits -> Says name (.signed bits)
  | address : name = "address" ∨ name = "address payable" -> Says name .address
  | bool : name = "bool" -> Says name .bool
  | string : name = "string" -> Says name .string
  | bytes : name = "bytes" ∨ name = "bytes[]" -> Says name .bytes
  | fixedBytes {n : Nat} : byteCount? name = some n -> Says name (.fixedBytes n)
  | other : byteCount? name = none -> Says name .other

theorem says_ofName (name : String) : Says name (ofName name) := by
  unfold ofName
  split
  · rename_i hunsigned
    exact .unsigned hunsigned
  · split
    · rename_i hsigned
      exact .signed hsigned
    · split_ifs with haddress hbool hstring hbytes
      · exact .address haddress
      · exact .bool hbool
      · exact .string hstring
      · exact .bytes hbytes
      · split
        · rename_i hcount
          exact .fixedBytes hcount
        · rename_i hcount
          exact .other hcount

theorem ofName_eq_string_iff {name : String} : ofName name = .string ↔ name = "string" := by
  constructor
  · intro h
    have hsays := says_ofName name
    rw [h] at hsays
    cases hsays with
    | string hname => exact hname
  · rintro rfl
    decide

theorem ofName_eq_bytes_iff {name : String} :
    ofName name = .bytes ↔ name = "bytes" ∨ name = "bytes[]" := by
  constructor
  · intro h
    have hsays := says_ofName name
    rw [h] at hsays
    cases hsays with
    | bytes hname => exact hname
  · rintro (rfl | rfl) <;> decide

theorem ofName_eq_fixedBytes_iff {name : String} {n : Nat} :
    ofName name = .fixedBytes n ↔ OfBytes name n := by
  rw [← byteCount?_eq_some_iff]
  have hsays := says_ofName name
  constructor
  · intro h
    rw [h] at hsays
    cases hsays with
    | fixedBytes hcount => exact hcount
  · intro h
    have hhead : name.toList.head? = some 'b' := by
      rcases (byteCount?_eq_some_iff.mp h).written with ⟨rest, _, rfl, _⟩
      rw [String.toList_append]
      rfl
    have hcounted : (byteCount? name).isSome = true := by
      rw [h]
      rfl
    generalize ofName name = t at hsays
    cases hsays with
    | unsigned hwidth =>
        rw [width?_eq_none rfl hhead (by decide)] at hwidth
        cases hwidth
    | signed hwidth =>
        rw [width?_eq_none rfl hhead (by decide)] at hwidth
        cases hwidth
    | address hname => rcases hname with rfl | rfl <;> exact absurd hcounted (by decide)
    | bool hname =>
        subst hname
        exact absurd hcounted (by decide)
    | string hname =>
        subst hname
        exact absurd hcounted (by decide)
    | bytes hname => rcases hname with rfl | rfl <;> exact absurd hcounted (by decide)
    | fixedBytes hcount =>
        rw [h] at hcount
        cases hcount
        rfl
    | other hcount =>
        rw [h] at hcount
        cases hcount

theorem OfWidth.head? {family name : String} {bits : Nat} {c : Char}
    (h : OfWidth family name bits) (hfamily : family.toList.head? = some c) :
    name.toList.head? = some c := by
  cases h with
  | full hname =>
      rw [hname]
      exact hfamily
  | numbered hname _ _ _ =>
      rcases hname with ⟨rest, _, rfl, _⟩
      rw [String.toList_append, List.head?_append, hfamily]
      rfl

theorem ofName_eq_unsigned_iff {name : String} {bits : Nat} :
    ofName name = .unsigned bits ↔ OfWidth "uint" name bits := by
  rw [← width?_eq_some_iff]
  constructor
  · intro h
    have hsays := says_ofName name
    rw [h] at hsays
    cases hsays with
    | unsigned hwidth => exact hwidth
  · intro h
    unfold ofName
    rw [h]

theorem ofName_eq_signed_iff {name : String} {bits : Nat} :
    ofName name = .signed bits ↔ OfWidth "int" name bits := by
  rw [← width?_eq_some_iff]
  constructor
  · intro h
    have hsays := says_ofName name
    rw [h] at hsays
    cases hsays with
    | signed hwidth => exact hwidth
  · intro h
    have hhead := (width?_eq_some_iff.mp h).head? rfl
    unfold ofName
    rw [width?_eq_none rfl hhead (by decide), h]

theorem ofName_eq_address_iff {name : String} :
    ofName name = .address ↔ name = "address" ∨ name = "address payable" := by
  constructor
  · intro h
    have hsays := says_ofName name
    rw [h] at hsays
    cases hsays with
    | address hname => exact hname
  · rintro (rfl | rfl) <;> decide

theorem ofName_eq_bool_iff {name : String} : ofName name = .bool ↔ name = "bool" := by
  constructor
  · intro h
    have hsays := says_ofName name
    rw [h] at hsays
    cases hsays with
    | bool hname => exact hname
  · rintro rfl
    decide

/-- A name under which a word has no rule of its own. -/
structure Unruled (name : String) : Prop where
  noWidth : forall bits, ¬ OfWidth "uint" name bits ∧ ¬ OfWidth "int" name bits
  noAddress : name ≠ "address" ∧ name ≠ "address payable"
  noBool : name ≠ "bool"
  noString : name ≠ "string"
  noCount : forall n, ¬ OfBytes name n

theorem unruled_iff {name : String} :
    Unruled name ↔ ofName name = .bytes ∨ ofName name = .other := by
  constructor
  · rintro ⟨hwidth, haddress, hbool, hstring, hcount⟩
    cases hname : ofName name with
    | unsigned bits => exact absurd (ofName_eq_unsigned_iff.mp hname) (hwidth bits).1
    | signed bits => exact absurd (ofName_eq_signed_iff.mp hname) (hwidth bits).2
    | address => exact absurd (ofName_eq_address_iff.mp hname) (not_or.mpr haddress)
    | bool => exact absurd (ofName_eq_bool_iff.mp hname) hbool
    | string => exact absurd (ofName_eq_string_iff.mp hname) hstring
    | fixedBytes n => exact absurd (ofName_eq_fixedBytes_iff.mp hname) (hcount n)
    | bytes => exact Or.inl rfl
    | other => exact Or.inr rfl
  · intro h
    have hsame : forall t, ofName name = t -> t = .bytes ∨ t = .other := by
      rintro t rfl
      exact h
    refine ⟨fun bits => ⟨?_, ?_⟩, ⟨?_, ?_⟩, ?_, ?_, fun n => ?_⟩ <;> intro hname
    · simpa using hsame _ (ofName_eq_unsigned_iff.mpr hname)
    · simpa using hsame _ (ofName_eq_signed_iff.mpr hname)
    · simpa using hsame _ (ofName_eq_address_iff.mpr (Or.inl hname))
    · simpa using hsame _ (ofName_eq_address_iff.mpr (Or.inr hname))
    · simpa using hsame _ (ofName_eq_bool_iff.mpr hname)
    · simpa using hsame _ (ofName_eq_string_iff.mpr hname)
    · simpa using hsame _ (ofName_eq_fixedBytes_iff.mpr hname)

end TypeName
end Evm
end TraceAdapter
