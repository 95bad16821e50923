import Mathlib.Data.List.Induction
import Mathlib.Data.String.Basic
import TraceAdapter.Json.Document

/-!
# Values that are read

The entries of an object that was read stand in the order of their keys, each key
once.  A value is sound when this holds of all objects in it.  Reading makes sound
values only, and these are read again as they are.
-/

namespace TraceAdapter
namespace Json

/-!
## Entries in order
-/

section Entries

variable {α : Type}

/-- Entries in the order of their keys, each key once. -/
def Ordered (entries : List (String × α)) : Prop :=
  entries.Pairwise fun e e' => e.1 < e'.1

theorem putSorted_last {key : String} {entries : List (String × α)}
    (h : forall e, e ∈ entries -> e.1 < key) (value : α) :
    putSorted key value entries = entries ++ [(key, value)] := by
  induction entries with
  | nil => rfl
  | cons e rest ih =>
      have hlt : e.1 < key := h e List.mem_cons_self
      rw [putSorted, if_neg (String.lt_asymm hlt), if_neg (ne_of_gt hlt),
        ih fun e' he' => h e' (List.mem_cons_of_mem e he')]
      rfl

theorem mem_putSorted {key : String} {value : α} {entries : List (String × α)}
    {e : String × α} (h : e ∈ putSorted key value entries) :
    e = (key, value) ∨ e ∈ entries := by
  induction entries with
  | nil => exact Or.inl (List.mem_singleton.mp h)
  | cons e' rest ih =>
      rw [putSorted] at h
      split at h
      · rcases List.mem_cons.mp h with heq | hmem
        · exact Or.inl heq
        · exact Or.inr hmem
      · split at h
        · rcases List.mem_cons.mp h with heq | hmem
          · exact Or.inl heq
          · exact Or.inr (List.mem_cons_of_mem e' hmem)
        · rcases List.mem_cons.mp h with heq | hmem
          · exact Or.inr (heq ▸ List.mem_cons_self)
          · rcases ih hmem with heq | hmem
            · exact Or.inl heq
            · exact Or.inr (List.mem_cons_of_mem e' hmem)

theorem Ordered.putSorted {entries : List (String × α)} (h : Ordered entries)
    (key : String) (value : α) : Ordered (putSorted key value entries) := by
  induction entries with
  | nil => exact List.pairwise_singleton _ _
  | cons e rest ih =>
      rcases List.pairwise_cons.mp h with ⟨hfirst, hrest⟩
      rw [Json.putSorted]
      by_cases hbefore : key < e.1
      · rw [if_pos hbefore]
        refine List.pairwise_cons.mpr ⟨?_, h⟩
        intro e' he'
        rcases List.mem_cons.mp he' with rfl | hmem
        · exact hbefore
        · exact String.lt_trans hbefore (hfirst e' hmem)
      · rw [if_neg hbefore]
        by_cases hsame : key = e.1
        · rw [if_pos hsame]
          exact List.pairwise_cons.mpr ⟨hsame ▸ hfirst, hrest⟩
        · rw [if_neg hsame]
          refine List.pairwise_cons.mpr ⟨?_, ih hrest⟩
          intro e' he'
          rcases mem_putSorted he' with rfl | hmem
          · exact lt_of_le_of_ne (not_lt.mp hbefore) (Ne.symm hsame)
          · exact hfirst e' hmem

theorem sortEntries_snoc (entries : List (String × α)) (e : String × α) :
    sortEntries (entries ++ [e]) = putSorted e.1 e.2 (sortEntries entries) := by
  unfold sortEntries
  rw [List.foldl_append]
  rfl

theorem ordered_sortEntries (entries : List (String × α)) :
    Ordered (sortEntries entries) := by
  induction entries using List.reverseRecOn with
  | nil => exact List.Pairwise.nil
  | append_singleton rest e ih =>
      rw [sortEntries_snoc]
      exact ih.putSorted e.1 e.2

theorem mem_of_mem_sortEntries {entries : List (String × α)} {e : String × α}
    (h : e ∈ sortEntries entries) : e ∈ entries := by
  induction entries using List.reverseRecOn with
  | nil => cases h
  | append_singleton rest last ih =>
      rw [sortEntries_snoc] at h
      rcases mem_putSorted h with rfl | hmem
      · exact List.mem_append_right rest List.mem_cons_self
      · exact List.mem_append_left _ (ih hmem)

theorem Ordered.sortEntries_eq {entries : List (String × α)} (h : Ordered entries) :
    sortEntries entries = entries := by
  -- Entries are put in from the first on, so the induction takes off the last one,
  -- which goes behind all others.
  induction entries using List.reverseRecOn with
  | nil => rfl
  | append_singleton rest e ih =>
      rcases List.pairwise_append.mp h with ⟨hrest, _, hlast⟩
      rw [sortEntries_snoc, ih hrest]
      exact putSorted_last (fun e' he' => hlast e' he' e List.mem_cons_self) e.2

theorem ordered_of_keys {entries : List (String × α)} {keys : List String}
    (hkeys : keys.Pairwise (· < ·)) (h : (entries.map Prod.fst).Sublist keys) :
    Ordered entries :=
  List.pairwise_map.mp (hkeys.sublist h)

theorem keys_entry (key : String) (f : α -> Value) (a? : Option α) :
    (List.map Prod.fst <| entry? key f a?).Sublist [key] := by
  cases a? with
  | none => exact List.nil_sublist [key]
  | some a => exact List.Sublist.refl [key]

end Entries

/-!
## Readable values
-/

mutual

theorem isSome_value? : (v : Value) -> ((Document.ofValue v).value? none).isSome = true
  | .null => rfl
  | .bool _ => rfl
  | .number _ => rfl
  | .string _ => rfl
  | .array items => by
      rcases Option.isSome_iff_exists.mp (isSome_itemValues? items) with ⟨values, h⟩
      rw [Document.ofValue, Document.value?, if_neg nofun, Option.map_none, h]
      rfl
  | .object entries => by
      rcases Option.isSome_iff_exists.mp (isSome_entryValues? entries) with ⟨values, h⟩
      rw [Document.ofValue, Document.value?, if_neg nofun, Option.map_none, h]
      rfl

theorem isSome_itemValues? :
    (items : List Value) -> (itemValues? none (itemsOfValues items)).isSome = true
  | [] => rfl
  | v :: rest => by
      rcases Option.isSome_iff_exists.mp (isSome_value? v) with ⟨first, hfirst⟩
      rcases Option.isSome_iff_exists.mp (isSome_itemValues? rest) with ⟨others, hothers⟩
      rw [itemsOfValues, itemValues?, hfirst, hothers]
      rfl

theorem isSome_entryValues? :
    (entries : List (String × Value)) ->
      (entryValues? none (entriesOfValues entries)).isSome = true
  | [] => rfl
  | (key, v) :: rest => by
      rcases Option.isSome_iff_exists.mp (isSome_value? v) with ⟨first, hfirst⟩
      rcases Option.isSome_iff_exists.mp (isSome_entryValues? rest) with ⟨others, hothers⟩
      rw [entriesOfValues, entryValues?, hfirst, hothers]
      rfl

end

/-!
## Sound values
-/

/-- A value that is read as it is. -/
def Value.Sound (v : Value) : Prop := (Document.ofValue v).value? none = some v

theorem itemValues?_ofValues {items : List Value} (h : forall v, v ∈ items -> v.Sound) :
    itemValues? none (itemsOfValues items) = some items := by
  induction items with
  | nil => rfl
  | cons v rest ih =>
      have hv : (Document.ofValue v).value? none = some v := h v List.mem_cons_self
      rw [itemsOfValues, itemValues?, hv, ih fun v' hv' => h v' (List.mem_cons_of_mem v hv')]

theorem entryValues?_ofValues {entries : List (String × Value)}
    (h : forall e, e ∈ entries -> e.2.Sound) :
    entryValues? none (entriesOfValues entries) = some entries := by
  induction entries with
  | nil => rfl
  | cons e rest ih =>
      have hv : (Document.ofValue e.2).value? none = some e.2 := h e List.mem_cons_self
      rw [entriesOfValues, entryValues?, hv,
        ih fun e' he' => h e' (List.mem_cons_of_mem e he')]
      rfl

theorem Value.Sound.array {items : List Value} (h : forall v, v ∈ items -> v.Sound) :
    (Value.array items).Sound := by
  have hitems := itemValues?_ofValues h
  unfold Value.Sound
  rw [Document.ofValue, Document.value?, if_neg nofun, Option.map_none,
    hitems]
  rfl

theorem Value.Sound.object {entries : List (String × Value)} (hkeys : Ordered entries)
    (h : forall e, e ∈ entries -> e.2.Sound) : (Value.object entries).Sound := by
  have hentries := entryValues?_ofValues h
  unfold Value.Sound
  rw [Document.ofValue, Document.value?, if_neg nofun, Option.map_none,
    hentries]
  show some (Value.object (sortEntries entries)) = _
  rw [hkeys.sortEntries_eq]

/-- Entries with sound values and with some keys of a list, in its order. -/
structure SoundEntries (keys : List String) (entries : List (String × Value)) : Prop where
  sublist : (entries.map Prod.fst).Sublist keys
  sound : forall e, e ∈ entries -> e.2.Sound

theorem soundEntries_nil : SoundEntries [] [] := ⟨List.Sublist.refl [], nofun⟩

theorem SoundEntries.cons {keys : List String} {entries : List (String × Value)}
    {v : Value} (hv : v.Sound) (key : String) (h : SoundEntries keys entries) :
    SoundEntries (key :: keys) ((key, v) :: entries) where
  sublist := h.sublist.cons_cons key
  sound := by
    intro e he
    rcases List.mem_cons.mp he with rfl | hmem
    · exact hv
    · exact h.sound e hmem

theorem SoundEntries.append {keys keys' : List String}
    {entries entries' : List (String × Value)} (h : SoundEntries keys entries)
    (h' : SoundEntries keys' entries') : SoundEntries (keys ++ keys') (entries ++ entries')
    where
  sublist := by
    rw [List.map_append]
    exact h.sublist.append h'.sublist
  sound := by
    intro e he
    rcases List.mem_append.mp he with hmem | hmem
    · exact h.sound e hmem
    · exact h'.sound e hmem

theorem soundEntries_entry {α : Type} (key : String) {f : α -> Value}
    (h : forall a, (f a).Sound) (a? : Option α) : SoundEntries [key] <| entry? key f a? := by
  cases a? with
  | none => exact ⟨List.nil_sublist [key], nofun⟩
  | some a => exact soundEntries_nil.cons (h a) key

theorem SoundEntries.object {keys : List String} {entries : List (String × Value)}
    (h : SoundEntries keys entries) (hkeys : keys.Pairwise (· < ·)) :
    (Value.object entries).Sound :=
  Value.Sound.object (ordered_of_keys hkeys h.sublist) h.sound

theorem Value.Sound.pair {key key' : String} {v v' : Value} (h : v.Sound) (h' : v'.Sound)
    (hkeys : key < key') : (Value.object [(key, v), (key', v')]).Sound :=
  ((soundEntries_nil.cons h' key').cons h key).object (List.pairwise_pair.mpr hkeys)

mutual

theorem sound_of_value? {room : Option Nat} {v : Value} :
    (d : Document) -> d.value? room = some v -> v.Sound
  | .broken, h => by cases h
  | .null, h => by
      cases h
      rfl
  | .bool b, h => by
      cases h
      rfl
  | .number n, h => by
      rcases Option.map_eq_some_iff.mp h with ⟨n, _, rfl⟩
      rfl
  | .string s, h => by
      rcases Option.map_eq_some_iff.mp h with ⟨text, _, rfl⟩
      rfl
  | .array items closed, h => by
      rw [Document.value?] at h
      split at h
      · cases h
      · split at h
        · rename_i values hvalues
          split at h
          · cases h
            exact Value.Sound.array (sound_of_itemValues? items hvalues)
          · cases h
        · cases h
  | .object entries closed, h => by
      rw [Document.value?] at h
      split at h
      · cases h
      · split at h
        · rename_i values hvalues
          split at h
          · cases h
            refine Value.Sound.object (ordered_sortEntries values) ?_
            intro e he
            exact sound_of_entryValues? entries hvalues e (mem_of_mem_sortEntries he)
          · cases h
        · cases h

theorem sound_of_itemValues? {room : Option Nat} {values : List Value} :
    (items : List Document) -> itemValues? room items = some values ->
      forall v, v ∈ values -> v.Sound
  | [], h => by
      cases h
      intro v hv
      cases hv
  | d :: rest, h => by
      rw [itemValues?] at h
      split at h
      · rename_i first others hfirst hothers
        cases h
        intro v hv
        rcases List.mem_cons.mp hv with rfl | hmem
        · exact sound_of_value? d hfirst
        · exact sound_of_itemValues? rest hothers v hmem
      · cases h

theorem sound_of_entryValues? {room : Option Nat} {values : List (String × Value)} :
    (entries : List (Literal × Document)) -> entryValues? room entries = some values ->
      forall e, e ∈ values -> e.2.Sound
  | [], h => by
      cases h
      intro e he
      cases he
  | (key, d) :: rest, h => by
      rw [entryValues?] at h
      split at h
      · rename_i text first others _ hfirst hothers
        cases h
        intro e he
        rcases List.mem_cons.mp he with rfl | hmem
        · exact sound_of_value? d hfirst
        · exact sound_of_entryValues? rest hothers e hmem
      · cases h

end

end Json
end TraceAdapter
