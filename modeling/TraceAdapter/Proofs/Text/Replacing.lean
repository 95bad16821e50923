import Mathlib.Data.List.Infix
import TraceAdapter.Proofs.Text.Utf8Reading

/-!
# Bytes that are shown as text

Bytes are shown as the characters that they write, with one replacement character
for each part that writes none.  Such a part is the longest beginning of a character
that stands there, or one byte where no character begins.
-/

namespace TraceAdapter
namespace Utf8

/-!
## Parts that write no character
-/

/-- Bytes with which the bytes of some character begin. -/
def Begins (part : List UInt8) : Prop := exists c, part <+: String.utf8EncodeChar c

/-- A part before other bytes that is shown as one replacement character: it is no
character, and with the byte behind it not the beginning of one. -/
structure Faulty (part rest : List UInt8) : Prop where
  shape : Begins part ∧ part ≠ [] ∨ exists b, part = [b]
  not_char : forall c, part ≠ String.utf8EncodeChar c
  longest : forall b, rest.head? = some b -> ¬ Begins (part ++ [b])

/-- The characters that bytes are shown as. -/
inductive Shows : List UInt8 -> List Char -> Prop where
  | nil : Shows [] []
  | char {c : Char} {rest : List UInt8} {cs : List Char} :
      Shows rest cs -> Shows (String.utf8EncodeChar c ++ rest) (c :: cs)
  | fault {part rest : List UInt8} {cs : List Char} :
      Faulty part rest -> Shows rest cs -> Shows (part ++ rest) ('\uFFFD' :: cs)

theorem Begins.of_prefix {first part : List UInt8} (hfirst : first <+: part)
    (h : Begins part) : Begins first := by
  rcases h with ⟨c, hc⟩
  exact ⟨c, hfirst.trans hc⟩

theorem not_begins {part : List UInt8}
    (h : forall tail, exists fault, decodeFrom 0 none (part ++ tail) = .error fault) :
    ¬ Begins part := by
  intro hbegins
  rcases hbegins with ⟨c, tail, hc⟩
  rcases h tail with ⟨fault, hfault⟩
  have hread := decodeFrom_encodeChar c 0 []
  rw [List.append_nil, ← hc, hfault] at hread
  cases hread

theorem eq_of_encodeChar {c d : Char} (h : String.utf8EncodeChar c = String.utf8EncodeChar d) :
    c = d := by
  have hread := decodeFrom_encodeChar c 0 []
  rw [h, decodeFrom_encodeChar] at hread
  cases hread
  rfl

theorem eq_nil_of_encodeChar_append {c d : Char} {tail : List UInt8}
    (h : String.utf8EncodeChar c ++ tail = String.utf8EncodeChar d) : tail = [] := by
  have hread := decodeFrom_encodeChar d 0 []
  rw [List.append_nil, ← h, decodeFrom_encodeChar] at hread
  rcases exists_of_map_ok hread with ⟨read, htail, hcs⟩
  cases hcs
  exact eq_of_decodeFrom htail

/-!
## Bytes that the reader has taken
-/

/-- The reader has taken the bytes of a part and owes more of a character. -/
inductive Reached : List UInt8 -> Partial -> Prop where
  | first {b : UInt8} {p : Partial} : lead b = .more p -> Reached [b] p
  | next {part : List UInt8} {b : UInt8} {p q : Partial} :
      Reached part p -> p.push b = .more q -> Reached (part ++ [b]) q

theorem Reached.ne_nil {part : List UInt8} {p : Partial} (h : Reached part p) : part ≠ [] := by
  cases h with
  | first hlead => exact List.cons_ne_nil _ _
  | next hpart hpush => exact List.append_ne_nil_of_right_ne_nil _ (List.cons_ne_nil _ _)

theorem Reached.decodeFrom {part : List UInt8} {p : Partial} (h : Reached part p)
    (offset : Nat) (tail : List UInt8) :
    decodeFrom offset none (part ++ tail) = decodeFrom offset (some p) tail := by
  induction h generalizing tail with
  | first hlead => exact decodeFrom_begun hlead offset tail
  | next hpart hpush ih =>
      rw [List.append_assoc, ih]
      exact decodeFrom_more hpush offset tail

theorem Reached.lossyFrom {part : List UInt8} {p : Partial} (h : Reached part p)
    (tail : List UInt8) : lossyFrom none (part ++ tail) = lossyFrom (some p) tail := by
  induction h generalizing tail with
  | first hlead =>
      rw [List.singleton_append, Utf8.lossyFrom, hlead]
  | next hpart hpush ih =>
      rw [List.append_assoc, ih, List.singleton_append, Utf8.lossyFrom, hpush]

theorem Reached.encodeChar {part : List UInt8} {p : Partial} (h : Reached part p) {b : UInt8}
    {c : Char} (hpush : p.push b = .done c) : part ++ [b] = String.utf8EncodeChar c := by
  have hread : Utf8.decodeFrom 0 none (part ++ [b]) = .ok [c] := by
    rw [h.decodeFrom, decodeFrom_done hpush]
    rfl
  rw [eq_of_decodeFrom hread, List.flatMap_cons, List.flatMap_nil, List.append_nil]

theorem encodeChar_of_single {b : UInt8} {c : Char} (h : lead b = .single c) :
    String.utf8EncodeChar c = [b] := by
  have hsound := sound_lead b
  rw [h] at hsound
  exact hsound

theorem Reached.not_char {part : List UInt8} {p : Partial} (h : Reached part p) (c : Char) :
    part ≠ String.utf8EncodeChar c := by
  intro hpart
  have hread := h.decodeFrom 0 []
  rw [hpart, decodeFrom_encodeChar] at hread
  cases hread

theorem Reached.not_begins_append {part : List UInt8} {p : Partial} (h : Reached part p)
    {b : UInt8} (hpush : p.push b = .fault) : ¬ Begins (part ++ [b]) := by
  apply not_begins
  intro tail
  refine ⟨⟨0, some p.size⟩, ?_⟩
  rw [List.append_assoc, h.decodeFrom, List.singleton_append, Utf8.decodeFrom, hpush]

theorem not_begins_of_never {b : UInt8} (h : lead b = .never) : ¬ Begins [b] := by
  apply not_begins
  intro tail
  refine ⟨⟨0, some 1⟩, ?_⟩
  rw [List.singleton_append, decodeFrom, h]

/-!
## Characters that can be finished
-/

structure Partial.Open (p : Partial) : Prop where
  range : p.low ≤ p.high
  bytes : p.high < 0x100
  owes : 1 ≤ p.owed

theorem open_of_lead {b : UInt8} {p : Partial} (h : lead b = .more p) : p.Open := by
  unfold lead at h
  dsimp only at h
  split_ifs at h <;> cases h <;> exact ⟨by simp, by simp, by simp⟩

theorem push_low {p : Partial} (h : p.Open) :
    p.push (UInt8.ofNat p.low) =
      if p.owed ≤ 1 then .done (Char.ofNat (p.code * 64 + (p.low - 0x80)))
      else .more ⟨p.owed - 1, 0x80, 0xBF, p.code * 64 + (p.low - 0x80), p.size + 1⟩ := by
  unfold Partial.push
  rw [toNat_byte (Nat.lt_of_le_of_lt h.range h.bytes)]
  dsimp only
  rw [if_pos ⟨Nat.le_refl _, h.range⟩]

theorem Partial.Open.exists_char {p : Partial} (h : p.Open) (offset : Nat) :
    exists tail c, decodeFrom offset (some p) tail = .ok [c] := by
  -- The least byte in the range is taken until none is owed.
  induction howed : p.owed generalizing p with
  | zero => exact absurd h.owes (by omega)
  | succ n ih =>
      have hpush := push_low h
      rw [howed] at hpush
      by_cases hlast : n + 1 ≤ 1
      · rw [if_pos hlast] at hpush
        refine ⟨[UInt8.ofNat p.low], Char.ofNat (p.code * 64 + (p.low - 0x80)), ?_⟩
        rw [decodeFrom_done hpush]
        rfl
      · rw [if_neg hlast, Nat.add_sub_cancel] at hpush
        have hnext :
            Partial.Open ⟨n, 0x80, 0xBF, p.code * 64 + (p.low - 0x80), p.size + 1⟩ :=
          ⟨by simp, by simp, by dsimp only; omega⟩
        rcases ih hnext rfl with ⟨tail, c, hread⟩
        refine ⟨UInt8.ofNat p.low :: tail, c, ?_⟩
        rw [decodeFrom_more hpush]
        exact hread

theorem Partial.Open.push {p q : Partial} {b : UInt8} (h : p.Open) (hpush : p.push b = .more q) :
    q.Open := by
  have howes := h.owes
  unfold Partial.push at hpush
  dsimp only at hpush
  split_ifs at hpush with hrange hlast
  cases hpush
  exact ⟨by simp, by simp, by dsimp only; omega⟩

theorem Reached.isOpen {part : List UInt8} {p : Partial} (h : Reached part p) : p.Open := by
  induction h with
  | first hlead => exact open_of_lead hlead
  | next hpart hpush ih => exact ih.push hpush

theorem Reached.begins {part : List UInt8} {p : Partial} (h : Reached part p) : Begins part := by
  rcases h.isOpen.exists_char 0 with ⟨tail, c, hread⟩
  rw [← h.decodeFrom] at hread
  have hbytes := eq_of_decodeFrom hread
  rw [List.flatMap_cons, List.flatMap_nil, List.append_nil] at hbytes
  exact ⟨c, tail, hbytes⟩

theorem exists_reached {part : List UInt8} (h : Begins part) (hnil : part ≠ [])
    (hchar : forall c, part ≠ String.utf8EncodeChar c) : exists p, Reached part p := by
  induction part using List.reverseRecOn with
  | nil => exact absurd rfl hnil
  | append_singleton init b ih =>
      by_cases hinit : init = []
      · subst hinit
        cases hlead : lead b with
        | single c => exact absurd (encodeChar_of_single hlead).symm (hchar c)
        | more p => exact ⟨p, Reached.first hlead⟩
        | never => exact absurd h (not_begins_of_never hlead)
      · have hother : forall c, init ≠ String.utf8EncodeChar c := by
          intro c hc
          rcases h with ⟨d, tail, hd⟩
          rw [hc, List.append_assoc] at hd
          exact List.append_ne_nil_of_left_ne_nil (List.cons_ne_nil b _) tail
            (eq_nil_of_encodeChar_append hd)
        rcases ih (h.of_prefix (List.prefix_append _ _)) hinit hother with ⟨p, hp⟩
        cases hpush : p.push b with
        | done c => exact absurd (hp.encodeChar hpush) (hchar c)
        | more q => exact ⟨q, hp.next hpush⟩
        | fault => exact absurd h (hp.not_begins_append hpush)

/-!
## Characters and faulty parts
-/

theorem encodeChar_cases (c : Char) :
    (exists b, String.utf8EncodeChar c = [b] ∧ lead b = .single c) ∨
      exists part p b,
        String.utf8EncodeChar c = part ++ [b] ∧ Reached part p ∧ p.push b = .done c := by
  rcases List.eq_nil_or_concat' (String.utf8EncodeChar c) with hnil | ⟨part, b, hc⟩
  · exact absurd hnil String.utf8EncodeChar_ne_nil
  · have hbegins : Begins (part ++ [b]) := hc ▸ ⟨c, List.prefix_refl _⟩
    by_cases hpart : part = []
    · left
      subst hpart
      refine ⟨b, hc, ?_⟩
      cases hlead : lead b with
      | single d =>
          rw [eq_of_encodeChar ((encodeChar_of_single hlead).trans hc.symm)]
      | more p => exact absurd hc.symm ((Reached.first hlead).not_char c)
      | never => exact absurd hbegins (not_begins_of_never hlead)
    · right
      have hother : forall d, part ≠ String.utf8EncodeChar d := by
        intro d hd
        rw [hd] at hc
        exact List.cons_ne_nil b [] (eq_nil_of_encodeChar_append hc.symm)
      rcases exists_reached ⟨c, [b], hc.symm⟩ hpart hother with ⟨p, hp⟩
      refine ⟨part, p, b, hc, hp, ?_⟩
      cases hpush : p.push b with
      | done d => rw [eq_of_encodeChar ((hp.encodeChar hpush).symm.trans hc.symm)]
      | more q => exact absurd hc.symm ((hp.next hpush).not_char c)
      | fault => exact absurd hbegins (hp.not_begins_append hpush)

theorem lossyFrom_encodeChar (c : Char) (rest : List UInt8) :
    lossyFrom none (String.utf8EncodeChar c ++ rest) = c :: lossyFrom none rest := by
  rcases encodeChar_cases c with ⟨b, hc, hlead⟩ | ⟨part, p, b, hc, hp, hpush⟩
  · rw [hc, List.singleton_append, lossyFrom, hlead]
  · rw [hc, List.append_assoc, hp.lossyFrom, List.singleton_append, lossyFrom, hpush]

/-- A byte at which a character cannot go on is read again, behind the replacement. -/
theorem lossyFrom_fault {p : Partial} {b : UInt8} (h : p.push b = .fault) (rest : List UInt8) :
    lossyFrom (some p) (b :: rest) = '\uFFFD' :: lossyFrom none (b :: rest) := by
  simp only [lossyFrom, h]
  cases lead b with
  | single c => rfl
  | more q => rfl
  | never => rfl

theorem lossyFrom_faulty {part rest : List UInt8} (h : Faulty part rest) :
    lossyFrom none (part ++ rest) = '\uFFFD' :: lossyFrom none rest := by
  by_cases hbegins : Begins part
  · have hnil : part ≠ [] := by
      rcases h.shape with ⟨_, hnil⟩ | ⟨b, rfl⟩
      · exact hnil
      · exact List.cons_ne_nil b []
    rcases exists_reached hbegins hnil h.not_char with ⟨p, hp⟩
    rw [hp.lossyFrom]
    cases rest with
    | nil => rfl
    | cons b rest =>
        cases hpush : p.push b with
        | done c =>
            exact absurd ⟨c, (hp.encodeChar hpush).symm ▸ List.prefix_refl _⟩ (h.longest b rfl)
        | more q => exact absurd (hp.next hpush).begins (h.longest b rfl)
        | fault => exact lossyFrom_fault hpush rest
  · rcases h.shape with ⟨hbegun, _⟩ | ⟨b, rfl⟩
    · exact absurd hbegun hbegins
    · cases hlead : lead b with
      | single c => exact absurd (encodeChar_of_single hlead).symm (h.not_char c)
      | more p => exact absurd (Reached.first hlead).begins hbegins
      | never =>
          rw [List.singleton_append, lossyFrom, hlead]
          rfl

/-!
## What is shown
-/

theorem Reached.faulty {part rest : List UInt8} {p : Partial} (hp : Reached part p)
    (h : forall b, rest.head? = some b -> p.push b = .fault) : Faulty part rest :=
  ⟨Or.inl ⟨hp.begins, hp.ne_nil⟩, hp.not_char, fun b hb => hp.not_begins_append (h b hb)⟩

theorem faulty_of_never {b : UInt8} (h : lead b = .never) (rest : List UInt8) :
    Faulty [b] rest := by
  have hbegins := not_begins_of_never h
  refine ⟨Or.inr ⟨b, rfl⟩, ?_, ?_⟩
  · intro c hc
    exact hbegins ⟨c, hc ▸ List.prefix_refl _⟩
  · intro next hnext hlonger
    exact hbegins (hlonger.of_prefix (List.prefix_append _ _))

/-- The forgiving reader shows bytes, between two characters as well as behind the bytes
of a part. -/
theorem shows_lossyFrom (bytes : List UInt8) :
    Shows bytes (lossyFrom none bytes) ∧
      forall part p, Reached part p -> Shows (part ++ bytes) (lossyFrom (some p) bytes) := by
  induction bytes with
  | nil =>
      refine ⟨Shows.nil, ?_⟩
      intro part p hp
      exact Shows.fault (hp.faulty nofun) Shows.nil
  | cons b rest ih =>
      have hbetween : Shows (b :: rest) (lossyFrom none (b :: rest)) := by
        rw [lossyFrom]
        cases hlead : lead b with
        | single c =>
            have hchar := ih.1.char (c := c)
            rw [encodeChar_of_single hlead] at hchar
            exact hchar
        | more p => exact ih.2 [b] p (Reached.first hlead)
        | never => exact Shows.fault (faulty_of_never hlead rest) ih.1
      refine ⟨hbetween, ?_⟩
      intro part p hp
      cases hpush : p.push b with
      | done c =>
          have hchar := ih.1.char (c := c)
          rw [← hp.encodeChar hpush, List.append_assoc] at hchar
          simp only [lossyFrom, hpush]
          exact hchar
      | more q =>
          have hlater := ih.2 (part ++ [b]) q (hp.next hpush)
          rw [List.append_assoc] at hlater
          simp only [lossyFrom, hpush]
          exact hlater
      | fault =>
          have hfaulty : Faulty part (b :: rest) := by
            apply hp.faulty
            intro first hfirst
            cases hfirst
            exact hpush
          rw [lossyFrom_fault hpush]
          exact Shows.fault hfaulty hbetween

/-- Bytes are shown as one text, which the forgiving reader finds. -/
theorem shows_iff {bytes : List UInt8} {text : String} :
    Shows bytes text.toList ↔ text = lossy bytes := by
  have honly : forall {cs : List Char}, Shows bytes cs -> cs = lossyFrom none bytes := by
    intro cs h
    induction h with
    | nil => rfl
    | char hrest ih => rw [lossyFrom_encodeChar, ih]
    | fault hfaulty hrest ih => rw [lossyFrom_faulty hfaulty, ih]
  unfold lossy
  constructor
  · intro h
    rw [← honly h, String.ofList_toList]
  · intro h
    rw [h, String.toList_ofList]
    exact (shows_lossyFrom bytes).1

end Utf8
end TraceAdapter
