import TraceAdapter.Proofs.Text.Hexadecimal
import TraceAdapter.Proofs.Trace.WireTypes

/-!
# The canonical text of a word

A text stands for a word when it writes a number of 256 bits in base sixteen.  All
texts of one number are shown alike, by the one text without a zero in front, and every
other text is shown as it is; so what is shown tells words apart, and reading it again
changes nothing.
-/

namespace TraceAdapter
namespace Evm
namespace Word

open Numeral (Spells Shortest)

/-!
## What texts denote
-/

/-- Characters that write a number in base sixteen, with letters in either case;
underscores are passed over. -/
structure WritesHex (cs : List Char) (n : Nat) : Prop where
  ne_nil : cs ≠ []
  digits : exists ds, Spells (cs.filter (· != '_')) ds ∧ Nat.ofDigits 16 ds.reverse = n

/-- A text that writes a number, perhaps behind `0x`. -/
structure Denotes (s : String) (n : Nat) : Prop where
  written : exists cs, (s = String.ofList cs ∨ s = "0x" ++ String.ofList cs) ∧ WritesHex cs n

theorem WritesHex.unique {cs : List Char} {m n : Nat} (hm : WritesHex cs m)
    (hn : WritesHex cs n) : m = n := by
  rcases hm.digits with ⟨ds, hds, rfl⟩
  rcases hn.digits with ⟨es, hes, rfl⟩
  have hvalue := (Numeral.foldDigits?_eq_some_iff (n := 0)).mpr ⟨ds, hds, rfl⟩
  have hother := (Numeral.foldDigits?_eq_some_iff (n := 0)).mpr ⟨es, hes, rfl⟩
  simpa using hvalue.symm.trans hother

theorem WritesHex.second_ne_x {c d : Char} {cs : List Char} {n : Nat}
    (h : WritesHex (c :: d :: cs) n) : d ≠ 'x' := by
  rintro rfl
  rcases h.digits with ⟨ds, hds, _⟩
  have hx : 'x' ∈ (c :: 'x' :: cs).filter (· != '_') := by simp
  have hlower : Char.toLower 'x' ∈ ds.map Nat.digitChar := by
    rw [← hds.characters]
    exact List.mem_map_of_mem hx
  rcases List.mem_map.mp hlower with ⟨d, hd, hchar⟩
  have hdigit := Numeral.digit?_sixteen_iff.mpr ⟨hds.small d hd, hchar.symm⟩
  exact absurd hdigit (by simp [Numeral.digit?])

theorem hexDigits_ofList {cs : List Char} {n : Nat} (h : WritesHex cs n) :
    hexDigits (String.ofList cs) = cs := by
  unfold hexDigits
  rw [String.toList_ofList]
  split
  · exact absurd rfl h.second_ne_x
  · rfl

theorem hexDigits_marked (cs : List Char) : hexDigits ("0x" ++ String.ofList cs) = cs := by
  unfold hexDigits
  simp only [String.toList_append, String.toList_ofList]
  rfl

theorem ofList_hexDigits (s : String) :
    s = String.ofList (hexDigits s) ∨ s = "0x" ++ String.ofList (hexDigits s) := by
  unfold hexDigits
  split
  · rename_i cs hmark
    right
    rw [← String.toList_inj, hmark]
    simp only [String.toList_append, String.toList_ofList]
    rfl
  · left
    rw [String.ofList_toList]

theorem denotes_iff {s : String} {n : Nat} : Denotes s n ↔ WritesHex (hexDigits s) n := by
  constructor
  · rintro ⟨cs, rfl | rfl, hcs⟩
    · rw [hexDigits_ofList hcs]
      exact hcs
    · rw [hexDigits_marked]
      exact hcs
  · intro h
    exact ⟨hexDigits s, ofList_hexDigits s, h⟩

theorem Denotes.unique {s : String} {m n : Nat} (hm : Denotes s m) (hn : Denotes s n) :
    m = n :=
  (denotes_iff.mp hm).unique (denotes_iff.mp hn)

/-!
## What is read
-/

theorem foldHex?_eq {n : Nat} (hn : n < Numeral.bound256) (cs : List Char) :
    foldHex? n cs =
      (Numeral.foldDigits? 16 n (cs.filter (· != '_'))).bind fun m =>
        if m < Numeral.bound256 then some (BitVec.ofNat 256 m) else none := by
  induction cs generalizing n with
  | nil =>
      rw [foldHex?, List.filter_nil, Numeral.foldDigits?_nil, Option.bind_some, if_pos hn]
  | cons c rest ih =>
      by_cases hline : c = '_'
      · subst hline
        rw [foldHex?, ih hn]
        rfl
      · have hkept : (c :: rest).filter (· != '_') = c :: rest.filter (· != '_') :=
          List.filter_cons_of_pos (by simpa using hline)
        rw [foldHex?, hkept]
        · cases hdigit : Numeral.digit? 16 c with
          | none => simp only [Numeral.foldDigits?, hdigit, Option.bind_none]
          | some d =>
              rw [Numeral.foldDigits?_cons_of_digit _ hdigit]
              dsimp only
              split_ifs with hfits
              · exact ih hfits
              · -- A number that is too large stays so with the digits that follow.
                cases hrest : Numeral.foldDigits? 16 (n * 16 + d) (rest.filter (· != '_')) with
                | none => rfl
                | some m =>
                    have hle := Numeral.le_of_foldDigits? hrest
                    rw [Option.bind_some, if_neg (by omega)]
        · exact hline

theorem foldHex?_eq_some_iff {cs : List Char} {v : BitVec 256} :
    foldHex? 0 cs = some v ↔
      exists ds, Spells (cs.filter (· != '_')) ds ∧ Nat.ofDigits 16 ds.reverse = v.toNat := by
  rw [foldHex?_eq (by decide), Option.bind_eq_some_iff]
  constructor
  · rintro ⟨m, hread, hfits⟩
    rcases Numeral.foldDigits?_eq_some_iff.mp hread with ⟨ds, hds, rfl⟩
    rw [Nat.zero_mul, Nat.zero_add, Option.ite_none_right_eq_some, Option.some.injEq] at hfits
    rcases hfits with ⟨hbound, rfl⟩
    have hword : Nat.ofDigits 16 ds.reverse < 2 ^ 256 := hbound
    refine ⟨ds, hds, ?_⟩
    rw [BitVec.toNat_ofNat, Nat.mod_eq_of_lt hword]
  · rintro ⟨ds, hds, hvalue⟩
    refine ⟨v.toNat, Numeral.foldDigits?_eq_some_iff.mpr ⟨ds, hds, ?_⟩, ?_⟩
    · rw [hvalue, Nat.zero_mul, Nat.zero_add]
    · have hbound : v.toNat < Numeral.bound256 := v.isLt
      rw [if_pos hbound, BitVec.ofNat_toNat, BitVec.setWidth_eq]

theorem number?_eq_some_iff {s : String} {v : BitVec 256} :
    number? s = some v ↔ Denotes s v.toNat := by
  rw [denotes_iff]
  unfold number?
  by_cases hempty : hexDigits s = []
  · rw [hempty]
    constructor
    · intro h
      cases h
    · intro h
      exact absurd rfl h.ne_nil
  · rw [if_neg (by simpa using hempty), foldHex?_eq_some_iff]
    constructor
    · intro h
      exact ⟨hempty, h⟩
    · intro h
      exact h.digits

theorem ofHex_eq_int_iff {s : String} {v : BitVec 256} :
    ofHex s = .int v ↔ Denotes s v.toNat := by
  rw [← number?_eq_some_iff]
  unfold ofHex
  cases number? s with
  | none => simp
  | some w => simp

theorem ofHex_eq_text {s : String} (h : forall v : BitVec 256, ¬ Denotes s v.toNat) :
    ofHex s = .text s := by
  unfold ofHex
  cases hnumber : number? s with
  | none => rfl
  | some v => exact absurd (number?_eq_some_iff.mp hnumber) (h v)

theorem Denotes.ofHex_of_large {s : String} {n : Nat} (h : Denotes s n) (hn : 2 ^ 256 ≤ n) :
    ofHex s = .text s := by
  apply ofHex_eq_text
  intro v hv
  have hvalue := h.unique hv
  have hbound := v.isLt
  omega

theorem ofHex_of_small {s : String} {n : Nat} (h : Denotes s n) (hn : n < 2 ^ 256) :
    ofHex s = .int (BitVec.ofNat 256 n) := by
  rw [ofHex_eq_int_iff, BitVec.toNat_ofNat, Nat.mod_eq_of_lt hn]
  exact h

/-!
## What is shown
-/

/-- The text of a number: behind `0x` its digits in lower case, with no zero in front
unless zero is all that is written. -/
structure Canonical (text : String) (n : Nat) : Prop where
  written : exists ds,
    text = "0x" ++ String.ofList (ds.map Nat.digitChar) ∧ Shortest 16 ds n

theorem canonical_hexText (v : BitVec 256) : Canonical (hexText v) v.toNat := by
  rcases Numeral.exists_shortest (show 1 < 16 by decide) v.toNat with ⟨ds, htext, hds⟩
  refine ⟨ds, ?_, hds⟩
  unfold hexText Numeral.hex
  rw [htext]

theorem Canonical.unique {s t : String} {n : Nat} (hs : Canonical s n) (ht : Canonical t n) :
    s = t := by
  rcases hs.written with ⟨ds, rfl, hds⟩
  rcases ht.written with ⟨es, rfl, hes⟩
  rw [hds.unique (by decide) hes]

theorem digitChar_ne_underscore {d : Nat} (h : d < 16) : Nat.digitChar d ≠ '_' := by
  revert d
  decide

theorem writesHex_map_digitChar {ds : List Nat} (hsome : ds ≠ [])
    (hsmall : forall d, d ∈ ds -> d < 16) :
    WritesHex (ds.map Nat.digitChar) (Nat.ofDigits 16 ds.reverse) := by
  have hkept : (ds.map Nat.digitChar).filter (· != '_') = ds.map Nat.digitChar := by
    rw [List.filter_eq_self]
    intro c hc
    rcases List.mem_map.mp hc with ⟨d, hd, rfl⟩
    exact bne_iff_ne.mpr (digitChar_ne_underscore (hsmall d hd))
  refine ⟨?_, ds, ?_, rfl⟩
  · intro hnil
    exact hsome (List.map_eq_nil_iff.mp hnil)
  · rw [hkept]
    exact Numeral.spells_map_digitChar hsmall

theorem writesHex_toDigits (n : Nat) : WritesHex (Nat.toDigits 16 n) n := by
  rcases Numeral.exists_shortest (show 1 < 16 by decide) n with ⟨ds, htext, hds⟩
  have hwrites := writesHex_map_digitChar hds.ne_nil hds.small
  rw [hds.value] at hwrites
  rw [htext]
  exact hwrites

/-- What is shown tells words apart, since it is read as the word again. -/
theorem display_inj {s t : String} :
    (ofHex s).display = (ofHex t).display ↔ ofHex s = ofHex t := by
  constructor
  · intro h
    rw [← ofHex_display_ofHex s, h, ofHex_display_ofHex]
  · intro h
    rw [h]

/-!
## Spellings
-/

theorem toLower_eq_underscore_iff {c : Char} : c.toLower = '_' ↔ c = '_' := by
  constructor
  · intro h
    by_cases hupper : 'A' ≤ c ∧ c ≤ 'Z'
    · have hfirst : 65 ≤ c.toNat := hupper.1
      have hshifted := Numeral.toNat_toLower_of_upper hupper
      have hline : ('_').toNat = 95 := rfl
      rw [h] at hshifted
      omega
    · rw [Numeral.toLower_of_not_upper hupper] at h
      exact h
  · rintro rfl
    rfl

theorem map_toLower_filter (cs : List Char) :
    (cs.filter (· != '_')).map Char.toLower = (cs.map Char.toLower).filter (· != '_') := by
  have hsame : (fun c : Char => c != '_') ∘ Char.toLower = (· != '_') := by
    funext c
    show (c.toLower != '_') = (c != '_')
    rw [Bool.eq_iff_iff, bne_iff_ne, bne_iff_ne, ne_eq, ne_eq, toLower_eq_underscore_iff]
  rw [List.filter_map, hsame]

theorem WritesHex.of_map_toLower_eq {cs other : List Char} {n : Nat} (h : WritesHex cs n)
    (hcase : other.map Char.toLower = cs.map Char.toLower) : WritesHex other n := by
  rcases h.digits with ⟨ds, ⟨hcharacters, hsmall⟩, hvalue⟩
  refine ⟨?_, ds, ⟨?_, hsmall⟩, hvalue⟩
  · rintro rfl
    exact h.ne_nil (List.map_eq_nil_iff.mp hcase.symm)
  · rw [map_toLower_filter, hcase, ← map_toLower_filter]
    exact hcharacters

theorem WritesHex.zeros {cs : List Char} {n : Nat} (h : WritesHex cs n) (zeros : Nat) :
    WritesHex (List.replicate zeros '0' ++ cs) n := by
  rcases h.digits with ⟨ds, hds, hvalue⟩
  have hkept : (List.replicate zeros '0').filter (· != '_') = List.replicate zeros '0' :=
    List.filter_replicate_of_pos (by decide)
  refine ⟨List.append_ne_nil_of_right_ne_nil _ h.ne_nil, List.replicate zeros 0 ++ ds, ?_, ?_⟩
  · constructor
    · rw [List.filter_append, hkept, List.map_append, List.map_append, hds.characters,
        List.map_replicate, List.map_replicate]
      rfl
    · intro d hd
      rcases List.mem_append.mp hd with hzero | hdigit
      · rw [List.eq_of_mem_replicate hzero]
        decide
      · exact hds.small d hdigit
  · rw [List.reverse_append, List.reverse_replicate, Nat.ofDigits_append_replicate_zero, hvalue]

theorem denotes_marked_hex (n : Nat) : Denotes ("0x" ++ Numeral.hex n) n :=
  ⟨_, Or.inr rfl, writesHex_toDigits n⟩

theorem denotes_padded (width n : Nat) : Denotes (Numeral.paddedHex width n) n :=
  ⟨_, Or.inl rfl, (writesHex_toDigits n).zeros _⟩

theorem denotes_marked_padded (width n : Nat) :
    Denotes ("0x" ++ Numeral.paddedHex width n) n :=
  ⟨_, Or.inr rfl, (writesHex_toDigits n).zeros _⟩

/-- Words and their texts: a word is read again of what it is shown as, numbers are
shown in their canonical text whatever they were written like, and all other texts are
shown as they are, those of numbers with more than 256 bits among them. -/
theorem display_canonical :
    (forall v, ofHex (Word.int v).display = .int v) ∧
      (forall s, ofHex (ofHex s).display = ofHex s) ∧
      (forall s, (forall n, Denotes s n -> 2 ^ 256 ≤ n) ->
        ofHex s = .text s ∧ (ofHex s).display = s) ∧
      (forall s n, Denotes s n -> 2 ^ 256 ≤ n -> ofHex s = .text s) ∧
      (forall s n, Denotes s n -> n < 2 ^ 256 ->
        ofHex s = .int (BitVec.ofNat 256 n) ∧
          forall text, text = (ofHex s).display ↔ Canonical text n) ∧
      (forall s t m n, Denotes s m -> m < 2 ^ 256 -> Denotes t n -> n < 2 ^ 256 ->
        ((ofHex s).display = (ofHex t).display ↔ m = n)) ∧
      (forall s t, (ofHex s).display = (ofHex t).display ↔ ofHex s = ofHex t) ∧
      (forall cs other zeros n, WritesHex cs n ->
        other.map Char.toLower = cs.map Char.toLower ->
        Denotes (String.ofList (List.replicate zeros '0' ++ other)) n ∧
          Denotes ("0x" ++ String.ofList (List.replicate zeros '0' ++ other)) n) := by
  refine ⟨ofHex_hexText, ofHex_display_ofHex, ?_, fun s n => Denotes.ofHex_of_large, ?_, ?_,
    fun s t => display_inj, ?_⟩
  · intro s hlarge
    have htext : ofHex s = .text s := by
      apply ofHex_eq_text
      intro v hv
      exact absurd v.isLt (Nat.not_lt.mpr (hlarge _ hv))
    rw [htext]
    exact ⟨rfl, rfl⟩
  · intro s n hs hn
    rw [ofHex_of_small hs hn]
    have hcanonical := canonical_hexText (BitVec.ofNat 256 n)
    rw [BitVec.toNat_ofNat, Nat.mod_eq_of_lt hn] at hcanonical
    refine ⟨rfl, fun text => ⟨?_, fun h => h.unique hcanonical⟩⟩
    rintro rfl
    exact hcanonical
  · intro s t m n hs hm ht hn
    rw [display_inj, ofHex_of_small hs hm, ofHex_of_small ht hn, Word.int.injEq,
      ← BitVec.toNat_inj, BitVec.toNat_ofNat, BitVec.toNat_ofNat, Nat.mod_eq_of_lt hm,
      Nat.mod_eq_of_lt hn]
  · intro cs other zeros n hcs hcase
    have hother := (hcs.of_map_toLower_eq hcase).zeros zeros
    exact ⟨⟨_, Or.inl rfl, hother⟩, ⟨_, Or.inr rfl, hother⟩⟩

theorem display_canonical_ff :
    (ofHex "0x00_FF").display = (ofHex "ff").display ∧ Canonical (ofHex "ff").display 255 ∧
      (ofHex "0XFF").display = "0XFF" := by
  have hmarked : Denotes "0x00_FF" 255 :=
    ofHex_eq_int_iff.mp (show ofHex "0x00_FF" = .int 255#256 by decide)
  have hplain : Denotes "ff" 255 := ofHex_eq_int_iff.mp (show ofHex "ff" = .int 255#256 by decide)
  rcases display_canonical with ⟨_, _, hother, _, hsmall, hsame, _⟩
  refine ⟨(hsame _ _ _ _ hmarked (by decide) hplain (by decide)).mpr rfl,
    ((hsmall _ _ hplain (by decide)).2 _).mp rfl, (hother _ ?_).2⟩
  intro n hn
  by_contra hless
  have hread := ofHex_of_small hn (Nat.lt_of_not_le hless)
  have htext : ofHex "0XFF" = .text "0XFF" := by decide
  rw [htext] at hread
  cases hread

end Word
end Evm
end TraceAdapter
