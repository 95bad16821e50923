import Mathlib.Logic.Basic
import TraceAdapter.Diagnostics.Channel

/-!
# How the queued writes are divided

At every moment the writes that were queued fall into three runs: those that were dropped
because no client was there, those whose lines went out whole, and those behind them.  An
event moves the borders between them, and once there is a client the first border stays
where it is.
-/

namespace TraceAdapter
namespace Diagnostics

def Phase.line? : Phase -> Option String
  | .sending line => some line
  | _ => none

def Phase.hasClient : Phase -> Bool
  | .serving => true
  | .sending _ => true
  | _ => false

/-- There is a listener, and it stands between two lines. -/
def Phase.Idle (phase : Phase) : Prop := phase ≠ .gone ∧ phase.line? = none

theorem Phase.idle_unbound : Phase.unbound.Idle := ⟨nofun, rfl⟩

theorem Phase.idle_waiting : Phase.waiting.Idle := ⟨nofun, rfl⟩

theorem Phase.idle_serving : Phase.serving.Idle := ⟨nofun, rfl⟩

def firstBytes : List (List UInt8) -> List UInt8
  | [] => []
  | bytes :: _ => Utf8.encode (Utf8.lossy bytes)

theorem prefix_firstBytes_append {begun : List UInt8} {writes : List (List UInt8)}
    (h : begun <+: firstBytes writes) (more : List (List UInt8)) :
    begun <+: firstBytes (writes ++ more) := by
  cases writes with
  | nil =>
      rw [List.prefix_nil.mp h]
      exact List.nil_prefix
  | cons bytes rest => exact h

namespace Channel

def unsent (c : Channel) : List String := c.phase.line?.toList ++ c.queue

def queues? (c : Channel) : Event -> Option (List UInt8)
  | .write bytes => if c.sinks = 0 ∨ c.phase = .gone then none else some bytes
  | _ => none

theorem queues?_eq_some_iff {c : Channel} {event : Event} {bytes : List UInt8} :
    c.queues? event = some bytes ↔
      event = .write bytes ∧ c.sinks ≠ 0 ∧ c.phase ≠ .gone := by
  cases event with
  | write other =>
      simp only [queues?, Event.write.injEq]
      split
      case isTrue hnone =>
          simp only [reduceCtorEq, false_iff]
          rintro ⟨-, hsinks, hthere⟩
          exact hnone.elim hsinks hthere
      case isFalse hsome =>
          rw [not_or] at hsome
          rw [Option.some_inj, and_iff_left hsome]
  | _ => simp [queues?]

/-- The writes that were queued are those `before` the lines sent whole, the `block` of
those lines, and those `behind` it, of which the first may have gone out in part. -/
structure Divided (c : Channel) (writes before block behind : List (List UInt8)) : Prop where
  writes_eq : writes = before ++ block ++ behind
  sent_eq : c.sent = block.map Utf8.lossy
  unsent_eq : c.phase ≠ .gone -> c.unsent = behind.map Utf8.lossy
  begun_prefix : c.begun <+: firstBytes behind
  begun_eq_nil : c.phase.Idle -> c.begun = []
  unconnected : c.connected = false -> block = [] ∧ c.begun = []
  connected_eq : c.phase ≠ .gone -> c.connected = c.phase.hasClient

namespace Divided

variable {c : Channel} {writes before block behind : List (List UInt8)}

theorem initial : Divided {} [] [] [] [] where
  writes_eq := rfl
  sent_eq := rfl
  unsent_eq := fun _ => rfl
  begun_prefix := List.prefix_rfl
  begun_eq_nil := fun _ => rfl
  unconnected := fun _ => ⟨rfl, rfl⟩
  connected_eq := fun _ => rfl

/-!
## The lines behind the block
-/

theorem queue_eq (h : c.Divided writes before block behind) (hidle : c.phase.Idle) :
    c.queue = behind.map Utf8.lossy := by
  have hunsent := h.unsent_eq hidle.1
  unfold unsent at hunsent
  rwa [hidle.2] at hunsent

theorem behind_of_sending (h : c.Divided writes before block behind) {line : String}
    (hphase : c.phase = .sending line) :
    exists bytes rest, behind = bytes :: rest ∧ Utf8.lossy bytes = line ∧
      rest.map Utf8.lossy = c.queue := by
  have hunsent := h.unsent_eq (by simp [hphase])
  unfold unsent at hunsent
  rw [hphase] at hunsent
  exact List.map_eq_cons_iff.mp hunsent.symm

theorem begun_prefix_of_sending (h : c.Divided writes before block behind) {line : String}
    (hphase : c.phase = .sending line) : c.begun <+: Utf8.encode line := by
  rcases h.behind_of_sending hphase with ⟨bytes, rest, rfl, rfl, -⟩
  exact h.begun_prefix

theorem connected_of_sending (h : c.Divided writes before block behind) {line : String}
    (hphase : c.phase = .sending line) : c.connected = true := by
  rw [h.connected_eq (by simp [hphase]), hphase]
  rfl

/-!
## Events that leave the borders where they are
-/

theorem withSinks (h : c.Divided writes before block behind) (sinks : Nat) :
    Divided { c with sinks } writes before block behind :=
  ⟨h.writes_eq, h.sent_eq, h.unsent_eq, h.begun_prefix, h.begun_eq_nil, h.unconnected,
    h.connected_eq⟩

theorem close (h : c.Divided writes before block behind) :
    c.close.Divided writes before block behind where
  writes_eq := h.writes_eq
  sent_eq := h.sent_eq
  unsent_eq := fun hthere => absurd rfl hthere
  begun_prefix := h.begun_prefix
  begun_eq_nil := fun hidle => absurd rfl hidle.1
  unconnected := h.unconnected
  connected_eq := fun hthere => absurd rfl hthere

theorem send (h : c.Divided writes before block behind) (hthere : c.phase ≠ .gone)
    (bytes : List UInt8) :
    Divided { c with queue := c.queue ++ [Utf8.lossy bytes] } (writes ++ [bytes]) before block
      (behind ++ [bytes]) where
  writes_eq := by rw [h.writes_eq, List.append_assoc _ behind]
  sent_eq := h.sent_eq
  unsent_eq := by
    intro _
    have hunsent := h.unsent_eq hthere
    unfold unsent at hunsent ⊢
    rw [← List.append_assoc, hunsent, List.map_append]
    rfl
  begun_prefix := prefix_firstBytes_append h.begun_prefix [bytes]
  begun_eq_nil := h.begun_eq_nil
  unconnected := h.unconnected
  connected_eq := h.connected_eq

theorem turn (h : c.Divided writes before block behind) {phase : Phase} {connected : Bool}
    (hfrom : c.phase.Idle) (hto : phase.Idle)
    (hclient : connected = false -> c.connected = false)
    (hconnected : connected = phase.hasClient) :
    Divided { c with phase, connected } writes before block behind where
  writes_eq := h.writes_eq
  sent_eq := h.sent_eq
  unsent_eq := by
    intro _
    unfold unsent
    rw [hto.2]
    exact h.queue_eq hfrom
  begun_prefix := h.begun_prefix
  begun_eq_nil := fun _ => h.begun_eq_nil hfrom
  unconnected := fun hfalse => h.unconnected (hclient hfalse)
  connected_eq := fun _ => hconnected

theorem serve (h : c.Divided writes before block behind) (network : Network) :
    (c.serve network).Divided writes before block behind := by
  cases network with
  | reachable =>
      simp only [Channel.serve]
      split
      case isTrue hphase =>
          have hidle : c.phase.Idle := hphase ▸ Phase.idle_unbound
          have hconnected : c.connected = false := by rw [h.connected_eq hidle.1, hphase]; rfl
          exact h.turn hidle Phase.idle_waiting id hconnected
      case isFalse => exact h
  | unreachable =>
      simp only [Channel.serve]
      split
      case isTrue => exact h.close
      case isFalse => exact h

theorem accept (h : c.Divided writes before block behind) :
    c.accept.Divided writes before block behind := by
  unfold Channel.accept
  split
  case isTrue hphase =>
      exact h.turn (hphase ▸ Phase.idle_waiting) Phase.idle_serving (by simp) rfl
  case isFalse => exact h

theorem take (h : c.Divided writes before block behind) (hphase : c.phase = .serving)
    {line : String} {rest : List String} (hqueue : c.queue = line :: rest) :
    Divided { c with phase := .sending line, queue := rest } writes before block behind := by
  have hidle : c.phase.Idle := hphase ▸ Phase.idle_serving
  refine ⟨h.writes_eq, h.sent_eq, ?_, h.begun_prefix, ?_, h.unconnected, ?_⟩
  · intro _
    exact hqueue.symm.trans (h.queue_eq hidle)
  · exact fun _ => h.begun_eq_nil hidle
  · intro _
    rw [h.connected_eq hidle.1, hphase]
    rfl

theorem advance (h : c.Divided writes before block behind) {line : String}
    (hphase : c.phase = .sending line) {begun : List UInt8} (hbegun : begun <+: Utf8.encode line) :
    Divided { c with begun } writes before block behind where
  writes_eq := h.writes_eq
  sent_eq := h.sent_eq
  unsent_eq := h.unsent_eq
  begun_prefix := by
    rcases h.behind_of_sending hphase with ⟨bytes, rest, rfl, rfl, -⟩
    exact hbegun
  begun_eq_nil := by
    intro hidle
    rw [hphase] at hidle
    cases hidle.2
  unconnected := by
    intro hfalse
    rw [h.connected_of_sending hphase] at hfalse
    cases hfalse
  connected_eq := h.connected_eq

theorem fail (h : c.Divided writes before block behind) :
    c.fail.Divided writes before block behind := by
  unfold Channel.fail
  split
  case h_1 => exact h.close
  case h_2 => exact h

/-!
## Events that move a border
-/

theorem discard (h : c.Divided writes before block behind) (hphase : c.phase = .waiting)
    {line : String} {rest : List String} (hqueue : c.queue = line :: rest) :
    exists dropped behind',
      Divided { c with queue := rest } writes (before ++ [dropped]) block behind' := by
  have hidle : c.phase.Idle := hphase ▸ Phase.idle_waiting
  have hconnected : c.connected = false := by rw [h.connected_eq hidle.1, hphase]; rfl
  rcases List.map_eq_cons_iff.mp ((h.queue_eq hidle).symm.trans hqueue) with
    ⟨dropped, behind', rfl, -, hrest⟩
  -- The block is empty, so the dropped write stands right behind those before it.
  rcases h.unconnected hconnected with ⟨rfl, hbegun⟩
  refine ⟨dropped, behind', ?_, h.sent_eq, ?_, ?_, h.begun_eq_nil, h.unconnected,
    h.connected_eq⟩
  · rw [h.writes_eq]
    simp
  · intro _
    unfold unsent
    rw [hidle.2, hrest]
    rfl
  · rw [hbegun]
    exact List.nil_prefix

theorem receive (h : c.Divided writes before block behind) :
    exists before' behind', c.receive.Divided writes before' block behind' ∧
      (c.connected = true -> before' = before) := by
  unfold Channel.receive
  split
  case h_1 line rest hphase hqueue =>
      rcases h.discard hphase hqueue with ⟨dropped, behind', hdivided⟩
      refine ⟨before ++ [dropped], behind', hdivided, ?_⟩
      intro hconnected
      rw [h.connected_eq (by simp [hphase]), hphase] at hconnected
      cases hconnected
  case h_2 line rest hphase hqueue =>
      exact ⟨before, behind, h.take hphase hqueue, fun _ => rfl⟩
  case h_3 | h_4 =>
      refine ⟨before, behind, ?_, fun _ => rfl⟩
      split
      case isTrue => exact h.close
      case isFalse => exact h
  case h_5 => exact ⟨before, behind, h, fun _ => rfl⟩

theorem finish (h : c.Divided writes before block behind) {line : String}
    (hphase : c.phase = .sending line) :
    exists bytes behind',
      Divided { c with phase := .serving, sent := c.sent ++ [line], begun := [] } writes before
        (block ++ [bytes]) behind' := by
  have hconnected := h.connected_of_sending hphase
  rcases h.behind_of_sending hphase with ⟨bytes, behind', rfl, rfl, hqueue⟩
  refine ⟨bytes, behind', ?_, ?_, fun _ => hqueue.symm, List.nil_prefix, fun _ => rfl, ?_,
    fun _ => hconnected⟩
  · rw [h.writes_eq]
    simp
  · rw [h.sent_eq, List.map_append]
    rfl
  · intro hfalse
    rw [hconnected] at hfalse
    cases hfalse

theorem transfer (h : c.Divided writes before block behind) (count : Nat) :
    exists block' behind', (c.transfer count).Divided writes before block' behind' := by
  unfold Channel.transfer
  split
  case h_1 line hphase =>
      dsimp only
      split
      case isTrue =>
          rcases h.finish hphase with ⟨bytes, behind', hdivided⟩
          exact ⟨block ++ [bytes], behind', hdivided⟩
      case isFalse => exact ⟨block, behind, h.advance hphase (List.take_prefix _ _)⟩
  case h_2 => exact ⟨block, behind, h⟩

/-!
## Any event
-/

theorem step_of_queues (h : c.Divided writes before block behind) {event : Event}
    {bytes : List UInt8} (hqueues : c.queues? event = some bytes) :
    (c.step event).Divided (writes ++ [bytes]) before block (behind ++ [bytes]) := by
  rcases queues?_eq_some_iff.mp hqueues with ⟨rfl, hsinks, hthere⟩
  show Divided (if c.sinks = 0 then c else (c.write bytes).2) _ _ _ _
  rw [if_neg hsinks, write, send?, if_neg hthere]
  exact h.send hthere bytes

theorem step_of_queues_none (h : c.Divided writes before block behind) {event : Event}
    (hqueues : c.queues? event = none) :
    exists before' block' behind', (c.step event).Divided writes before' block' behind' ∧
      (c.connected = true -> before' = before) := by
  cases event with
  | clone =>
      refine ⟨before, block, behind, ?_, fun _ => rfl⟩
      simp only [Channel.step]
      split
      case isTrue => exact h
      case isFalse => exact h.withSinks (c.sinks + 1)
  | release => exact ⟨before, block, behind, h.withSinks (c.sinks - 1), fun _ => rfl⟩
  | write bytes =>
      have hsame : c.step (.write bytes) = c := by
        simp only [queues?, ite_eq_left_iff, reduceCtorEq, imp_false, not_not] at hqueues
        rcases hqueues with hsinks | hgone
        · simp [Channel.step, hsinks]
        · simp [Channel.step, write, send?, hgone]
      exact ⟨before, block, behind, hsame.symm ▸ h, fun _ => rfl⟩
  | serve network => exact ⟨before, block, behind, h.serve network, fun _ => rfl⟩
  | accept => exact ⟨before, block, behind, h.accept, fun _ => rfl⟩
  | refuse => exact ⟨before, block, behind, h, fun _ => rfl⟩
  | receive =>
      rcases h.receive with ⟨before', behind', hdivided, hsame⟩
      exact ⟨before', block, behind', hdivided, hsame⟩
  | transfer count =>
      rcases h.transfer count with ⟨block', behind', hdivided⟩
      exact ⟨before, block', behind', hdivided, fun _ => rfl⟩
  | fail => exact ⟨before, block, behind, h.fail, fun _ => rfl⟩
  | drop => exact ⟨before, block, behind, h.close, fun _ => rfl⟩

/-- Whatever happens, the writes stay divided, and one that is queued comes to their end.
Once there is a client, nothing more is dropped before the block. -/
theorem step (h : c.Divided writes before block behind) (event : Event) :
    exists before' block' behind',
      (c.step event).Divided (writes ++ (c.queues? event).toList) before' block' behind' ∧
        (c.connected = true -> before' = before) := by
  cases hqueues : c.queues? event with
  | none =>
      rw [Option.toList_none, List.append_nil]
      exact h.step_of_queues_none hqueues
  | some bytes =>
      rw [Option.toList_some]
      exact ⟨before, block, behind ++ [bytes], h.step_of_queues hqueues, fun _ => rfl⟩

end Divided
end Channel
end Diagnostics
end TraceAdapter
