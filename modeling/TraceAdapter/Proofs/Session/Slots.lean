import TraceAdapter.Proofs.Evm.WordTexts
import TraceAdapter.Session.View

/-!
# Slots of storage

A variable in storage is read under one of four keys of its slot.  Three of them write
the slot in base sixteen, as all keys of a storage do; the fourth writes it in base ten,
and from ten on it is the key of a later slot.
-/

namespace TraceAdapter

namespace Evm

open Word (Denotes WritesHex)

/-!
## Keys of a slot
-/

/-- The entry that is read for a slot: that of the first of its keys that is recorded. -/
structure ReadFor (storage : List (String × String)) (slot : Nat) (key raw : String) :
    Prop where
  recorded : storage.find? (fun e => e.1 == key) = some (key, raw)
  first : exists before after, slotKeys slot = before ++ key :: after ∧
    forall other, other ∈ before -> forall e, e ∈ storage -> e.1 ≠ other

theorem find?_key_eq_some_iff {storage : List (String × String)} {key raw : String} :
    (storage.find? fun e => e.1 == key).map Prod.snd = some raw ↔
      storage.find? (fun e => e.1 == key) = some (key, raw) := by
  rw [Option.map_eq_some_iff]
  constructor
  · rintro ⟨⟨other, value⟩, hfind, rfl⟩
    have hkey := List.find?_some hfind
    rw [beq_iff_eq] at hkey
    rw [hfind, ← hkey]
  · intro hfind
    exact ⟨_, hfind, rfl⟩

theorem find?_key_eq_none_iff {storage : List (String × String)} {key : String} :
    (storage.find? fun e => e.1 == key).map Prod.snd = none ↔
      forall e, e ∈ storage -> e.1 ≠ key := by
  rw [Option.map_eq_none_iff, List.find?_eq_none]
  simp

theorem slotText?_eq_some_iff {storage : List (String × String)} {slot : Nat} {raw : String} :
    slotText? storage slot = some raw ↔ exists key, ReadFor storage slot key raw := by
  unfold slotText?
  rw [List.findSome?_eq_some_iff]
  constructor
  · rintro ⟨before, key, after, hkeys, hfind, hbefore⟩
    refine ⟨key, find?_key_eq_some_iff.mp hfind, before, after, hkeys, ?_⟩
    intro other hother
    exact find?_key_eq_none_iff.mp (hbefore other hother)
  · rintro ⟨key, hfind, before, after, hkeys, hbefore⟩
    refine ⟨before, key, after, hkeys, find?_key_eq_some_iff.mpr hfind, ?_⟩
    intro other hother
    exact find?_key_eq_none_iff.mpr (hbefore other hother)

theorem ReadFor.mem {storage : List (String × String)} {slot : Nat} {key raw : String}
    (h : ReadFor storage slot key raw) : (key, raw) ∈ storage :=
  List.mem_of_find?_eq_some h.recorded

theorem ReadFor.mem_slotKeys {storage : List (String × String)} {slot : Nat}
    {key raw : String} (h : ReadFor storage slot key raw) : key ∈ slotKeys slot := by
  rcases h.first with ⟨before, after, hkeys, _⟩
  rw [hkeys]
  exact List.mem_append_right before List.mem_cons_self

/-!
## Slots that keys denote
-/

theorem denotes_decimal_of_lt_ten {n : Nat} (h : n < 10) : Denotes (Numeral.decimal n) n := by
  have hwrites := Word.writesHex_toDigits n
  rw [Nat.toDigits_of_lt_base (by omega), ← Nat.toDigits_of_lt_base h] at hwrites
  exact ⟨_, Or.inl rfl, hwrites⟩

/-- Digits of base ten make a greater number in base sixteen, unless there is but one. -/
theorem lt_ofDigits_sixteen {ds : List Nat} (hsmall : forall d, d ∈ ds -> d < 10)
    (hten : 10 ≤ Nat.ofDigits 10 ds) : Nat.ofDigits 10 ds < Nat.ofDigits 16 ds := by
  cases ds with
  | nil => exact absurd hten (by decide)
  | cons d rest =>
      have hd := hsmall d List.mem_cons_self
      have hrest : Nat.ofDigits 10 rest ≤ Nat.ofDigits 16 rest :=
        Nat.ofDigits_monotone rest (by decide)
      rw [Nat.ofDigits_cons] at hten ⊢
      rw [Nat.ofDigits_cons]
      omega

theorem denotes_decimal_of_ten_le {n : Nat} (h : 10 ≤ n) (hbound : n < Numeral.bound64) :
    exists m, n < m ∧ m < 2 ^ 256 ∧ Denotes (Numeral.decimal n) m := by
  rcases Numeral.exists_shortest (show 1 < 10 by decide) n with ⟨ds, htext, hds⟩
  have hsmall : forall d, d ∈ ds -> d < 16 := by
    intro d hd
    have hdigit := hds.small d hd
    omega
  refine ⟨Nat.ofDigits 16 ds.reverse, ?_, ?_, ?_⟩
  · have hgreater : Nat.ofDigits 10 ds.reverse < Nat.ofDigits 16 ds.reverse := by
      apply lt_ofDigits_sixteen
      · intro d hd
        exact hds.small d (List.mem_reverse.mp hd)
      · rw [hds.value]
        exact h
    rw [hds.value] at hgreater
    exact hgreater
  · have hdigits : ds.length ≤ 20 := by
      have hlength := Nat.toDigits_length 10 n 20 (by decide)
        (Nat.lt_trans hbound (by decide))
      rw [htext, List.length_map] at hlength
      exact hlength
    have hvalue : Nat.ofDigits 16 ds.reverse < 16 ^ ds.reverse.length := by
      apply Nat.ofDigits_lt_base_pow_length (by decide)
      intro d hd
      exact hsmall d (List.mem_reverse.mp hd)
    rw [List.length_reverse] at hvalue
    calc Nat.ofDigits 16 ds.reverse < 16 ^ ds.length := hvalue
      _ ≤ 16 ^ 20 := Nat.pow_le_pow_right (by decide) hdigits
      _ < 2 ^ 256 := by decide
  · have hwrites := Word.writesHex_map_digitChar hds.ne_nil hsmall
    rw [← htext] at hwrites
    exact ⟨_, Or.inl rfl, hwrites⟩

/-- A key of a slot denotes the slot, but in base ten from ten on a later one. -/
theorem exists_denotes_of_mem_slotKeys {slot : Nat} {key : String}
    (hslot : slot < Numeral.bound64) (h : key ∈ slotKeys slot) :
    exists n, Denotes key n ∧ n < 2 ^ 256 ∧
      (key = Numeral.decimal slot ∧ 10 ≤ slot -> slot < n) ∧
      (¬ (key = Numeral.decimal slot ∧ 10 ≤ slot) -> n = slot) := by
  have hword : slot < 2 ^ 256 := Nat.lt_trans hslot (by decide)
  by_cases hdecimal : key = Numeral.decimal slot ∧ 10 ≤ slot
  · rcases denotes_decimal_of_ten_le hdecimal.2 hslot with ⟨m, hless, hfits, hdenotes⟩
    rw [← hdecimal.1] at hdenotes
    exact ⟨m, hdenotes, hfits, fun _ => hless, fun hother => absurd hdecimal hother⟩
  · refine ⟨slot, ?_, hword, fun hother => absurd hother hdecimal, fun _ => rfl⟩
    simp only [slotKeys, List.mem_cons, List.not_mem_nil, or_false] at h
    rcases h with rfl | rfl | rfl | rfl
    · exact Word.denotes_marked_hex slot
    · have hless : slot < 10 := Nat.lt_of_not_le fun hten => hdecimal ⟨rfl, hten⟩
      exact denotes_decimal_of_lt_ten hless
    · exact Word.denotes_padded 64 slot
    · exact Word.denotes_marked_padded 64 slot

end Evm

namespace Session

open Evm (ReadFor showStorage showWord Word)

/-!
## Variables and the storage scope
-/

theorem mem_storageVariables {step : Step} {storage : List (String × String)}
    (hstep : step.storage = some storage) {key raw : String} (h : (key, raw) ∈ storage) :
    machineVariable key (Word.ofHex raw).display ∈ storageVariables step := by
  unfold storageVariables sortSlots
  rw [hstep]
  exact List.mem_map.mpr ⟨_, List.mem_mergeSort.mpr h, rfl⟩

/-- A variable in storage shows an entry that the storage scope lists.  There the key
of the entry is the slot of the variable, unless it is the slot in base ten and at least
ten: then it is a later slot. -/
theorem showStorage_slot {step : Step} {storage : List (String × String)} {slot : Nat}
    {name shown : String} (hslot : slot < Numeral.bound64)
    (hstep : step.storage = some storage)
    (hshown : showStorage (.ofName name) storage slot = some shown) :
    exists key raw number, ReadFor storage slot key raw ∧
      shown = showWord (.ofName name) (.ofHex raw) ∧
      machineVariable key (Word.ofHex raw).display ∈ storageVariables step ∧
      (Word.ofHex key).value? = some number ∧
      (number.toNat = slot ↔ ¬ (key = Numeral.decimal slot ∧ 10 ≤ slot)) ∧
      slot ≤ number.toNat := by
  unfold showStorage at hshown
  rcases Option.map_eq_some_iff.mp hshown with ⟨raw, hraw, hvalue⟩
  rcases Evm.slotText?_eq_some_iff.mp hraw with ⟨key, hread⟩
  rcases Evm.exists_denotes_of_mem_slotKeys hslot hread.mem_slotKeys with
    ⟨n, hdenotes, hfits, hlater, hsame⟩
  have hnumber : (BitVec.ofNat 256 n).toNat = n := by
    rw [BitVec.toNat_ofNat, Nat.mod_eq_of_lt hfits]
  refine ⟨key, raw, BitVec.ofNat 256 n, hread, hvalue.symm,
    mem_storageVariables hstep hread.mem, ?_, ?_, ?_⟩
  · rw [Word.ofHex_of_small hdenotes hfits]
    rfl
  · rw [hnumber]
    constructor
    · rintro rfl hdecimal
      exact Nat.lt_irrefl _ (hlater hdecimal)
    · exact hsame
  · rw [hnumber]
    by_cases hdecimal : key = Numeral.decimal slot ∧ 10 ≤ slot
    · exact (hlater hdecimal).le
    · exact (hsame hdecimal).ge

theorem showStorage_slot_ten :
    10 < Numeral.bound64 ∧
      showStorage (.ofName "uint256") [("0xa", "0x7"), ("10", "0x5")] 10 = some "7" ∧
      exists key raw number, ReadFor [("0xa", "0x7"), ("10", "0x5")] 10 key raw ∧
        "7" = showWord (.ofName "uint256") (.ofHex raw) ∧
        (Word.ofHex key).value? = some number ∧
        (number.toNat = 10 ↔ ¬ (key = Numeral.decimal 10 ∧ 10 ≤ 10)) := by
  have hshown : showStorage (.ofName "uint256") [("0xa", "0x7"), ("10", "0x5")] 10 = some "7" := by
    decide
  have hentry := @showStorage_slot
    ⟨0, "SLOAD", [], none, some [("0xa", "0x7"), ("10", "0x5")], none, none, none⟩
    [("0xa", "0x7"), ("10", "0x5")] 10 "uint256" "7" (by decide) rfl hshown
  rcases hentry with ⟨key, raw, number, hread, hvalue, _, hnumber, hslot, _⟩
  exact ⟨by decide, hshown, key, raw, number, hread, hvalue, hnumber, hslot⟩

/-- A variable in slot ten shows what is recorded for slot sixteen. -/
theorem showStorage_other_slot :
    showStorage (.ofName "uint256") [("10", "0x5")] 10 = some "5" ∧
      ReadFor [("10", "0x5")] 10 "10" "0x5" ∧
      (Word.ofHex "10").value? = some 16#256 ∧ (16#256).toNat ≠ 10 := by
  refine ⟨by decide, ⟨by decide, ["0xa"], _, rfl, ?_⟩, by decide, by decide⟩
  decide

end Session
end TraceAdapter
