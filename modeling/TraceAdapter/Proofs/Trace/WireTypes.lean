import TraceAdapter.Proofs.Json.Records
import TraceAdapter.Trace.Json

/-!
# Words, steps and invocations are read again

A word is written as text.  The text of a number is hexadecimal, so the same number is
made of it, and the text of a word that is no number stays what it is.
-/

namespace TraceAdapter

open Json (Decoder Value)

namespace Evm
namespace Word

/-!
## Hexadecimal digits
-/

theorem digit?_digitChar {d : Nat} (h : d < 16) :
    Numeral.digit? 16 (Nat.digitChar d) = some d := by
  revert h
  revert d
  decide

theorem foldHex?_cons_of_digit {n d : Nat} {c : Char} (hdigit : Numeral.digit? 16 c = some d)
    (hfits : n * 16 + d < Numeral.bound256) (cs : List Char) :
    foldHex? n (c :: cs) = foldHex? (n * 16 + d) cs := by
  have hline : c ≠ '_' := by
    rintro rfl
    cases hdigit
  rw [foldHex?, hdigit]
  · dsimp only
    rw [if_pos hfits]
  · exact hline

theorem foldHex?_toDigits {n : Nat} (h : n < Numeral.bound256) (cs : List Char) :
    foldHex? 0 (Nat.toDigits 16 n ++ cs) = foldHex? n cs := by
  -- The last digit is what remains of the number by its base, and the ones before
  -- it are those of the quotient.
  induction n using Nat.strong_induction_on generalizing cs with
  | _ n ih =>
      by_cases hsmall : n < 16
      · rw [Nat.toDigits_of_lt_base hsmall, List.singleton_append,
          foldHex?_cons_of_digit (digit?_digitChar hsmall) (by omega), Nat.zero_mul,
          Nat.zero_add]
      · have hlast : n % 16 < 16 := Nat.mod_lt n (by decide)
        have hwhole : n / 16 * 16 + n % 16 = n := Nat.div_add_mod' n 16
        rw [Nat.toDigits_of_base_le (by decide) (by omega), List.append_assoc,
          ih (n / 16) (by omega) (by omega), List.singleton_append,
          foldHex?_cons_of_digit (digit?_digitChar hlast) (by omega), hwhole]

theorem ofHex_hexText (v : BitVec 256) : ofHex (hexText v) = .int v := by
  have hdigits : hexDigits (hexText v) = Nat.toDigits 16 v.toNat := by
    unfold hexDigits hexText Numeral.hex
    simp only [String.toList_append, String.toList_ofList]
    rfl
  have hsome : (Nat.toDigits 16 v.toNat).isEmpty = false := by
    rw [List.isEmpty_eq_false_iff]
    exact Nat.toDigits_ne_nil
  have hfold := foldHex?_toDigits v.isLt []
  rw [List.append_nil] at hfold
  unfold ofHex number?
  rw [hdigits, hsome, hfold]
  show Word.int (BitVec.ofNat 256 v.toNat) = _
  rw [BitVec.ofNat_toNat, BitVec.setWidth_eq]

theorem ofHex_display_ofHex (s : String) : ofHex (ofHex s).display = ofHex s := by
  unfold ofHex
  cases hnumber : number? s with
  | none =>
      show ofHex s = _
      unfold ofHex
      rw [hnumber]
  | some v => exact ofHex_hexText v

theorem ofHex_display_of_decode {o : Json.Origin} {d : Json.Document} {w : Word}
    (h : decode o d = .ok w) : ofHex w.display = w := by
  unfold decode at h
  split at h
  · cases h
  · split at h
    · cases h
      exact ofHex_hexText _
    · cases h
  · cases h
    exact ofHex_display_ofHex _
  · cases h

theorem stable_decode : decode.Stable toJson := by
  intro o d w h o' _
  show Except.ok (ofHex w.display) = _
  rw [ofHex_display_of_decode h]

end Word
end Evm

namespace Step

/-!
## Steps
-/

def storageToJson (slots : List (String × String)) : Value :=
  .object (slots.map fun e => (e.1, .string e.2))

theorem entries_slots (slots : List (String × String)) (o : Json.Origin) :
    Decoder.entries Decoder.textKey Decoder.text o
      (Json.entriesOfValues (slots.map fun e => (e.1, Value.string e.2))) = .ok slots := by
  induction slots with
  | nil => rfl
  | cons e rest ih =>
      show (Decoder.entries Decoder.textKey Decoder.text o
        (Json.entriesOfValues (rest.map fun e => (e.1, Value.string e.2)))).map _ = _
      rw [ih]
      rfl

/-- A storage that was read stands in the order of its keys, each key once. -/
theorem ordered_of_storageDecoder {o : Json.Origin} {d : Json.Document}
    {slots : List (String × String)} (h : storageDecoder o d = .ok slots) :
    Json.Ordered slots := by
  unfold storageDecoder at h
  cases hmap : Decoder.map Decoder.textKey Decoder.text o d with
  | error e =>
      rw [hmap] at h
      cases h
  | ok given =>
      rw [hmap] at h
      cases h
      exact Json.ordered_sortEntries given

theorem stable_storage : storageDecoder.Stable storageToJson := by
  intro o d slots h o' ho'
  have hordered := ordered_of_storageDecoder h
  unfold storageDecoder storageToJson
  rw [Json.Document.ofValue, Decoder.map, Json.Origin.enter_of_room ho']
  dsimp only
  rw [entries_slots]
  show Except.ok (Json.sortEntries slots) = _
  rw [hordered.sortEntries_eq]

open Json.Schema in
theorem stable_decode : decode.Stable toJson := by
  have hkeeps := (keeps_required "pc" Decoder.stable_nat64).map Step.mk
    |>.seq (keeps_required "op" Decoder.stable_text)
    |>.seq (keeps_always "stack" [] Evm.Word.stable_decode.list (Decoder.reads_nil _))
    |>.seq (keeps_optional "memory" Decoder.stable_text nofun)
    |>.seq (keeps_optional "storage" stable_storage nofun)
    |>.seq (keeps_optional "gas" Decoder.stable_nat64 nofun)
    |>.seq (keeps_optional "depth" Decoder.stable_nat32 nofun)
    |>.seq (keeps_optional "error" Decoder.stable_text nofun)
  exact hkeeps.stable (by decide) (fun _ => List.Perm.refl _) "Step"

open Json.Schema in
theorem ordered_storage_of_decode {o : Json.Origin} {d : Json.Document} {step : Step}
    {storage : List (String × String)} (h : decode o d = .ok step)
    (hstorage : step.storage = some storage) : Json.Ordered storage := by
  rcases exists_build_of_decode h with ⟨fields, hfields⟩
  -- The storage is the fifth of eight fields, and the last three stand around it.
  rcases seq_build_eq_ok hfields with ⟨_, _, hdepth, _, rfl⟩
  rcases seq_build_eq_ok hdepth with ⟨_, _, hgas, _, rfl⟩
  rcases seq_build_eq_ok hgas with ⟨_, _, hbefore, _, rfl⟩
  rcases seq_build_eq_ok hbefore with ⟨_, storage?, hmemory, hread, rfl⟩
  rcases seq_build_eq_ok hmemory with ⟨_, _, hstack, _, rfl⟩
  rcases seq_build_eq_ok hstack with ⟨_, _, hop, _, rfl⟩
  rcases seq_build_eq_ok hop with ⟨_, _, hpc, _, rfl⟩
  rcases map_build_eq_ok hpc with ⟨_, _, rfl⟩
  cases hstorage
  rcases optional_build_eq_some hread with ⟨d, hd⟩
  exact ordered_of_storageDecoder hd

end Step

namespace Invocation

/-!
## Invocations
-/

open Json.Schema in
theorem stable_decode : decode.Stable toJson := by
  have hkeeps := (keeps_required "name" Decoder.stable_text).map Invocation.mk
    |>.seq (keeps_required "entryStep" Decoder.stable_size)
    |>.seq (keeps_always "exitStep" none (Decoder.stable_size.orNull nofun)
      (Decoder.reads_null _))
  exact hkeeps.stable (by decide) (fun _ => List.Perm.refl _) "FunctionInvocation"

end Invocation

end TraceAdapter
