import TraceAdapter.Debugger.Scripted
import TraceAdapter.Proofs.Evm.WordTexts
import TraceAdapter.Session.View

/-!
# The storage scope

The storage scope lists a storage by the slots that its keys write.  Keys that write no
word come first, all others in the order of the numbers they write.  The sort is stable
and a storage that was read stands in the order of its keys
(`Step.ordered_storage_of_decode`), so among keys of one slot, and among those of none,
the order of texts decides.
-/

namespace TraceAdapter

namespace Evm
namespace Word

/-!
## Words that texts write
-/

/-- A text that writes a number of 256 bits. -/
structure Writes (s : String) (n : Nat) : Prop where
  denotes : Denotes s n
  fits : n < 2 ^ 256

theorem writes_iff {s : String} {n : Nat} :
    Writes s n ↔ exists v, number? s = some v ∧ v.toNat = n := by
  constructor
  · intro h
    have hvalue : (BitVec.ofNat 256 n).toNat = n := by
      rw [BitVec.toNat_ofNat, Nat.mod_eq_of_lt h.fits]
    refine ⟨BitVec.ofNat 256 n, ?_, hvalue⟩
    rw [number?_eq_some_iff, hvalue]
    exact h.denotes
  · rintro ⟨v, hread, rfl⟩
    exact ⟨number?_eq_some_iff.mp hread, v.isLt⟩

theorem number?_eq_none_iff {s : String} : number? s = none ↔ forall n, ¬ Writes s n := by
  rw [Option.eq_none_iff_forall_ne_some]
  constructor
  · intro hnone n hn
    rcases writes_iff.mp hn with ⟨v, hread, _⟩
    exact hnone v hread
  · intro hnone v hread
    exact hnone v.toNat (writes_iff.mpr ⟨v, hread, rfl⟩)

theorem value?_ofHex (s : String) : (ofHex s).value? = number? s := by
  unfold ofHex
  cases number? s with
  | none => rfl
  | some v => rfl

/-- What a text is shown as: the canonical text of the word it writes, or the text
itself when it writes none. -/
structure Shows (raw text : String) : Prop where
  word : forall n, Writes raw n -> Canonical text n
  other : (forall n, ¬ Writes raw n) -> text = raw

theorem shows_display (raw : String) : Shows raw (ofHex raw).display := by
  constructor
  · intro n hn
    have hcanonical := canonical_hexText (BitVec.ofNat 256 n)
    rw [BitVec.toNat_ofNat, Nat.mod_eq_of_lt hn.fits] at hcanonical
    rw [ofHex_of_small hn.denotes hn.fits]
    exact hcanonical
  · intro hnone
    rw [ofHex_eq_text fun v hv => hnone v.toNat ⟨hv, v.isLt⟩]
    rfl

end Word
end Evm

namespace Session

open Evm (Word)

/-!
## The order of keys
-/

/-- The order of keys in the storage scope: those of no slot come first, the others in the
order of their slots, and the order of texts decides among the keys of one slot or of none. -/
inductive KeyBefore : String -> String -> Prop where
  | others {k l : String} : (forall n, ¬ Word.Writes k n) -> (forall n, ¬ Word.Writes l n) ->
      k < l -> KeyBefore k l
  | first {k l : String} {n : Nat} : (forall m, ¬ Word.Writes k m) -> Word.Writes l n ->
      KeyBefore k l
  | slots {k l : String} {m n : Nat} : Word.Writes k m -> Word.Writes l n -> m < n ->
      KeyBefore k l
  | spellings {k l : String} {n : Nat} : Word.Writes k n -> Word.Writes l n -> k < l ->
      KeyBefore k l

theorem slotBefore_some {v w : BitVec 256} :
    slotBefore (some v) (some w) = true ↔ v.toNat ≤ w.toNat := by
  unfold slotBefore
  rw [decide_eq_true_iff, BitVec.le_def]

theorem slotBefore_trans {a b c : Option (BitVec 256)} (hab : slotBefore a b = true)
    (hbc : slotBefore b c = true) : slotBefore a c = true := by
  cases a with
  | none => rfl
  | some x =>
      cases b with
      | none => cases hab
      | some y =>
          cases c with
          | none => cases hbc
          | some z =>
              rw [slotBefore_some] at hab hbc ⊢
              exact hab.trans hbc

theorem slotBefore_total (a b : Option (BitVec 256)) :
    (slotBefore a b || slotBefore b a) = true := by
  cases a with
  | none => rfl
  | some x =>
      cases b with
      | none => rfl
      | some y =>
          rw [Bool.or_eq_true, slotBefore_some, slotBefore_some]
          exact Nat.le_total x.toNat y.toNat

theorem slotBefore_refl (a : Option (BitVec 256)) : slotBefore a a = true := by
  simpa using slotBefore_total a a

theorem slotBefore_antisymm {a b : Option (BitVec 256)} (hab : slotBefore a b = true)
    (hba : slotBefore b a = true) : a = b := by
  cases a with
  | none =>
      cases b with
      | none => rfl
      | some y => cases hba
  | some x =>
      cases b with
      | none => cases hab
      | some y =>
          rw [slotBefore_some] at hab hba
          rw [BitVec.eq_of_toNat_eq (Nat.le_antisymm hab hba)]

theorem KeyBefore.slotBefore {k l : String} (h : KeyBefore k l) :
    slotBefore (Word.number? k) (Word.number? l) = true ∧
      (Word.number? k = Word.number? l -> k < l) := by
  cases h with
  | others hk hl hlt =>
      rw [Word.number?_eq_none_iff.mpr hk, Word.number?_eq_none_iff.mpr hl]
      exact ⟨rfl, fun _ => hlt⟩
  | first hk hl =>
      rcases Word.writes_iff.mp hl with ⟨w, hw, _⟩
      rw [Word.number?_eq_none_iff.mpr hk, hw]
      exact ⟨rfl, nofun⟩
  | slots hk hl hlt =>
      rcases Word.writes_iff.mp hk with ⟨v, hv, rfl⟩
      rcases Word.writes_iff.mp hl with ⟨w, hw, rfl⟩
      rw [hv, hw, slotBefore_some]
      refine ⟨hlt.le, ?_⟩
      intro heq
      cases heq
      exact absurd hlt (Nat.lt_irrefl _)
  | spellings hk hl hlt =>
      rcases Word.writes_iff.mp hk with ⟨v, hv, rfl⟩
      rcases Word.writes_iff.mp hl with ⟨w, hw, hvalue⟩
      rw [hv, hw, slotBefore_some]
      exact ⟨hvalue.ge, fun _ => hlt⟩

theorem keyBefore_of_slotBefore {k l : String}
    (hslots : slotBefore (Word.number? k) (Word.number? l) = true)
    (hsame : Word.number? k = Word.number? l -> k < l) : KeyBefore k l := by
  cases hk : Word.number? k with
  | none =>
      have hother := Word.number?_eq_none_iff.mp hk
      cases hl : Word.number? l with
      | none => exact .others hother (Word.number?_eq_none_iff.mp hl) (hsame (hk.trans hl.symm))
      | some w => exact .first hother (Word.writes_iff.mpr ⟨w, hl, rfl⟩)
  | some v =>
      cases hl : Word.number? l with
      | none =>
          rw [hk, hl] at hslots
          cases hslots
      | some w =>
          have hleft := Word.writes_iff.mpr ⟨v, hk, rfl⟩
          have hright := Word.writes_iff.mpr ⟨w, hl, rfl⟩
          rw [hk, hl, slotBefore_some] at hslots
          rcases Nat.lt_or_eq_of_le hslots with hlt | heq
          · exact .slots hleft hright hlt
          · have hnumber : v = w := BitVec.eq_of_toNat_eq heq
            exact .spellings hleft (heq ▸ hright) (hsame (by rw [hk, hl, hnumber]))

theorem keyBefore_iff {k l : String} :
    KeyBefore k l ↔ slotBefore (Word.number? k) (Word.number? l) = true ∧
      (Word.number? k = Word.number? l -> k < l) :=
  ⟨KeyBefore.slotBefore, fun h => keyBefore_of_slotBefore h.1 h.2⟩

instance (k l : String) : Decidable (KeyBefore k l) :=
  decidable_of_iff _ keyBefore_iff.symm

theorem KeyBefore.asymm {k l : String} (h : KeyBefore k l) : ¬ KeyBefore l k := by
  intro hother
  have hsame := slotBefore_antisymm h.slotBefore.1 hother.slotBefore.1
  exact String.lt_asymm (h.slotBefore.2 hsame) (hother.slotBefore.2 hsame.symm)

theorem eq_of_keyBefore {entries other : List (String × String)} (hperm : entries.Perm other)
    (h : entries.Pairwise fun a b => KeyBefore a.1 b.1)
    (hother : other.Pairwise fun a b => KeyBefore a.1 b.1) : entries = other :=
  hperm.eq_of_pairwise (fun _ _ _ _ hab hba => absurd hba hab.asymm) h hother

/-!
## Entries sorted by slots
-/

/-- Whether the key of one entry does not come after that of another, spellings apart. -/
def entryBefore (a b : String × String) : Bool :=
  slotBefore (Word.number? a.1) (Word.number? b.1)

theorem sortSlots_eq (storage : List (String × String)) :
    sortSlots storage = storage.mergeSort entryBefore := by
  unfold sortSlots entryBefore
  simp only [Word.value?_ofHex]

theorem entryBefore_trans (a b c : String × String) (hab : entryBefore a b = true)
    (hbc : entryBefore b c = true) : entryBefore a c = true :=
  slotBefore_trans hab hbc

theorem entryBefore_total (a b : String × String) :
    (entryBefore a b || entryBefore b a) = true :=
  slotBefore_total _ _

theorem perm_sortSlots (storage : List (String × String)) :
    (sortSlots storage).Perm storage :=
  List.mergeSort_perm storage _

theorem pairwise_sortSlots (storage : List (String × String)) :
    (sortSlots storage).Pairwise fun a b => entryBefore a b = true := by
  rw [sortSlots_eq]
  exact List.pairwise_mergeSort entryBefore_trans entryBefore_total storage

theorem filter_sortSlots (storage : List (String × String)) (slot : Option (BitVec 256)) :
    (sortSlots storage).filter (fun e => Word.number? e.1 == slot) =
      storage.filter fun e => Word.number? e.1 == slot := by
  have hsame : (storage.filter fun e => Word.number? e.1 == slot).Pairwise fun a b =>
      entryBefore a b = true := by
    apply List.pairwise_of_forall_mem_list
    intro a ha b hb
    unfold entryBefore
    rw [eq_of_beq (List.mem_filter.mp ha).2, eq_of_beq (List.mem_filter.mp hb).2]
    exact slotBefore_refl slot
  have hkept : (storage.filter fun e => Word.number? e.1 == slot).Sublist
      (sortSlots storage) := by
    rw [sortSlots_eq]
    exact List.sublist_mergeSort entryBefore_trans entryBefore_total hsame List.filter_sublist
  -- The entries of the slot are as many before as after, so no other one joins them.
  have hwithin := hkept.filter fun e => Word.number? e.1 == slot
  rw [List.filter_filter] at hwithin
  simp only [Bool.and_self] at hwithin
  exact (hwithin.eq_of_length ((perm_sortSlots storage).filter _).length_eq.symm).symm

theorem keyBefore_sortSlots {storage : List (String × String)} (h : Json.Ordered storage) :
    (sortSlots storage).Pairwise fun a b => KeyBefore a.1 b.1 := by
  rw [List.pairwise_iff_forall_sublist]
  intro a b hab
  apply keyBefore_of_slotBefore
  · exact List.pairwise_iff_forall_sublist.mp (pairwise_sortSlots storage) hab
  · intro hslot
    have hboth := hab.filter fun e => Word.number? e.1 == Word.number? b.1
    rw [filter_sortSlots, List.filter_eq_self.mpr] at hboth
    · exact List.pairwise_iff_forall_sublist.mp h (hboth.trans List.filter_sublist)
    · intro e he
      rw [beq_iff_eq]
      rcases List.mem_pair.mp he with rfl | rfl
      · exact hslot
      · rfl

theorem variablesBehind_storage {σ : Type} [Debugger σ] {s : Session σ}
    {debugger : σ} {step : Step} (hdebugger : s.debugger? = some debugger)
    (hstep : s.step? = some step) :
    s.variablesBehind 1003 = storageVariables step := by
  unfold variablesBehind
  rw [hstep, hdebugger]
  rfl

/-- The storage scope, whose reference is 1003, lists the entries of the storage, each once,
under their keys and in the order of these, and shows the words they hold in canonical text.
An entry has no type and no parts. -/
theorem storage_scope {σ : Type} [Debugger σ] {s : Session σ} {debugger : σ} {step : Step}
    {storage : List (String × String)} (hdebugger : s.debugger? = some debugger)
    (hstep : s.step? = some step) (hstorage : step.storage = some storage)
    (hordered : Json.Ordered storage) :
    exists entries : List (String × String), entries.Perm storage ∧
      s.variablesBehind 1003 =
        entries.map (fun e =>
          { name := e.1, value := (Word.ofHex e.2).display, typeName := none
            variablesReference := 0 }) ∧
      (forall e, e ∈ entries -> Word.Shows e.2 (Word.ofHex e.2).display) ∧
      (entries.map Prod.fst).Nodup ∧ (entries.map Prod.fst).Pairwise KeyBefore := by
  have hperm := perm_sortSlots storage
  have hkeys : (storage.map Prod.fst).Nodup :=
    List.pairwise_map.mpr (hordered.imp fun hlt => ne_of_lt hlt)
  refine ⟨sortSlots storage, hperm, ?_, fun e _ => Word.shows_display e.2,
    (hperm.map Prod.fst).nodup_iff.mpr hkeys,
    List.pairwise_map.mpr (keyBefore_sortSlots hordered)⟩
  rw [variablesBehind_storage hdebugger hstep]
  unfold storageVariables
  rw [hstorage]
  rfl

def spelledSlots : List (String × String) :=
  [("0x0A", "0x2a"), ("10", "x"), ("9", "FF"), ("a", "0"), ("zz", "")]

def atSpelledSlots : Session Scripted where
  debugger? := some {}
  trace? := some [⟨0, "SLOAD", [], none, some spelledSlots, none, none, none⟩]

theorem storage_scope_spelled :
    (exists step, atSpelledSlots.step? = some step ∧ step.storage = some spelledSlots) ∧
      Json.Ordered spelledSlots ∧
      atSpelledSlots.variablesBehind 1003 =
        [⟨"zz", "", none, 0⟩, ⟨"9", "0xff", none, 0⟩, ⟨"0x0A", "0x2a", none, 0⟩,
          ⟨"a", "0x0", none, 0⟩, ⟨"10", "x", none, 0⟩] := by
  have hordered : Json.Ordered spelledSlots := by
    unfold Json.Ordered
    decide
  refine ⟨⟨_, rfl, rfl⟩, hordered, ?_⟩
  rcases storage_scope (s := atSpelledSlots) rfl rfl rfl hordered with
    ⟨entries, hperm, hshown, _, _, hsorted⟩
  have hlisted :
      entries = [("zz", ""), ("9", "FF"), ("0x0A", "0x2a"), ("a", "0"), ("10", "x")] :=
    eq_of_keyBefore (hperm.trans (by decide)) (List.pairwise_map.mp hsorted) (by decide)
  rw [hshown, hlisted]
  decide

end Session
end TraceAdapter
