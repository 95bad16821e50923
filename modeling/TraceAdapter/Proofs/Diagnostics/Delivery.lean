import Mathlib.Data.List.Induction
import Mathlib.Data.List.Infix
import TraceAdapter.Proofs.Diagnostics.Division
import TraceAdapter.Proofs.Text.Utf8

/-!
# What the client of the diagnostics channel gets

Sinks, the listener and its socket may take turns in any order.  At every moment the
client has got the lines of writes that were queued one right after the other, and at most
a part of the line behind them.  No line that was queued after the client was accepted is
passed over, and writing goes on without an error when there is no listener any more.
-/

namespace TraceAdapter
namespace Diagnostics

namespace Channel

/-- The writes that events add to the queue, in their order. -/
def queuedBy (c : Channel) : List Event -> List (List UInt8)
  | [] => []
  | event :: events => (c.queues? event).toList ++ (c.step event).queuedBy events

theorem run_append (c : Channel) (first second : List Event) :
    c.run (first ++ second) = (c.run first).run second :=
  List.foldl_append

theorem queuedBy_append (c : Channel) (first second : List Event) :
    c.queuedBy (first ++ second) = c.queuedBy first ++ (c.run first).queuedBy second := by
  induction first generalizing c with
  | nil => rfl
  | cons event first ih =>
      show (c.queues? event).toList ++ (c.step event).queuedBy (first ++ second) = _
      rw [ih, ← List.append_assoc]
      rfl

end Channel

def after (events : List Event) : Channel := ({} : Channel).run events

def queued (events : List Event) : List (List UInt8) := ({} : Channel).queuedBy events

theorem after_append (first second : List Event) :
    after (first ++ second) = (after first).run second :=
  Channel.run_append {} first second

theorem after_snoc (events : List Event) (event : Event) :
    after (events ++ [event]) = (after events).step event :=
  after_append events [event]

theorem queued_snoc (events : List Event) (event : Event) :
    queued (events ++ [event]) = queued events ++ ((after events).queues? event).toList := by
  unfold queued
  rw [Channel.queuedBy_append]
  show _ ++ (_ ++ []) = _
  rw [List.append_nil]
  rfl

/-!
## What an event does to the client
-/

namespace Channel

/-- The client stays, and with it what it has got. -/
structure SameClient (c c' : Channel) : Prop where
  connected_eq : c'.connected = c.connected
  received_eq : c'.received = c.received

namespace SameClient

theorem refl (c : Channel) : SameClient c c := ⟨rfl, rfl⟩

theorem close (c : Channel) : SameClient c c.close := ⟨rfl, rfl⟩

theorem write (c : Channel) (bytes : List UInt8) : SameClient c (c.write bytes).2 := by
  unfold Channel.write send?
  split
  case isTrue => exact refl c
  case isFalse => exact ⟨rfl, rfl⟩

theorem serve (c : Channel) (network : Network) : SameClient c (c.serve network) := by
  cases network with
  | reachable => simp only [Channel.serve]; split <;> exact ⟨rfl, rfl⟩
  | unreachable => simp only [Channel.serve]; split <;> exact ⟨rfl, rfl⟩

theorem receive (c : Channel) : SameClient c c.receive := by
  unfold Channel.receive
  split
  case h_1 | h_2 | h_5 => exact ⟨rfl, rfl⟩
  case h_3 | h_4 => split <;> exact ⟨rfl, rfl⟩

theorem fail (c : Channel) : SameClient c c.fail := by
  unfold Channel.fail
  split <;> exact ⟨rfl, rfl⟩

theorem step (c : Channel) {event : Event} (haccept : event ≠ .accept)
    (htransfer : forall count, event ≠ .transfer count) : SameClient c (c.step event) := by
  cases event with
  | clone => simp only [Channel.step]; split <;> exact ⟨rfl, rfl⟩
  | release => exact ⟨rfl, rfl⟩
  | write bytes =>
      simp only [Channel.step]
      split
      case isTrue => exact refl c
      case isFalse => exact write c bytes
  | serve network => exact serve c network
  | accept => exact absurd rfl haccept
  | refuse => exact refl c
  | receive => exact receive c
  | transfer count => exact absurd rfl (htransfer count)
  | fail => exact fail c
  | drop => exact close c

end SameClient

theorem connected_accept (c : Channel) :
    c.accept.connected = true ↔ c.connected = true ∨ c.phase = .waiting := by
  unfold accept
  split
  case isTrue hphase => simp [hphase]
  case isFalse hphase => simp [hphase]

theorem connected_transfer (c : Channel) (count : Nat) :
    (c.transfer count).connected = c.connected := by
  unfold transfer
  split
  case h_1 => dsimp only; split <;> rfl
  case h_2 => rfl

theorem connected_step (c : Channel) (event : Event) :
    (c.step event).connected = true ↔
      c.connected = true ∨ (event = .accept ∧ c.phase = .waiting) := by
  by_cases haccept : event = .accept
  · subst haccept
    exact (connected_accept c).trans (by simp)
  have hsame : (c.step event).connected = c.connected := by
    by_cases htransfer : exists count, event = .transfer count
    · rcases htransfer with ⟨count, rfl⟩
      exact connected_transfer c count
    · exact (SameClient.step c haccept (not_exists.mp htransfer)).connected_eq
  rw [hsame]
  simp [haccept]

theorem received_accept (c : Channel) : c.accept.received = c.received := by
  unfold accept
  split <;> rfl

theorem received_transfer (c : Channel) (count : Nat)
    (hbegun : forall line, c.phase = .sending line -> c.begun <+: Utf8.encode line) :
    c.received <+: (c.transfer count).received := by
  unfold transfer
  split
  case h_1 line hphase =>
      have hstart := hbegun line hphase
      dsimp only
      split
      case isTrue =>
          show Utf8.encode c.text ++ c.begun <+:
            Utf8.encode (String.join (c.sent ++ [line])) ++ []
          rw [List.append_nil, String.join_append, Utf8.encode_append, String.join_cons,
            String.join_nil, String.append_empty]
          exact (List.prefix_append_right_inj _).mpr hstart
      case isFalse =>
          show Utf8.encode c.text ++ c.begun <+:
            Utf8.encode c.text ++ (Utf8.encode line).take (c.begun.length + count)
          apply (List.prefix_append_right_inj _).mpr
          exact List.prefix_take_iff.mpr ⟨hstart, Nat.le_add_right _ _⟩
  case h_2 => exact List.prefix_rfl

theorem Divided.received_prefix_step {c : Channel} {writes before block behind : List (List UInt8)}
    (h : c.Divided writes before block behind) (event : Event) :
    c.received <+: (c.step event).received := by
  by_cases haccept : event = .accept
  · subst haccept
    show c.received <+: c.accept.received
    rw [received_accept]
  by_cases htransfer : exists count, event = .transfer count
  · rcases htransfer with ⟨count, rfl⟩
    exact received_transfer c count fun line hphase => h.begun_prefix_of_sending hphase
  · rw [(SameClient.step c haccept (not_exists.mp htransfer)).received_eq]

end Channel

/-!
## When the client was accepted
-/

/-- The client was accepted when `earlier` had happened. -/
def AcceptedAfter (events earlier : List Event) : Prop :=
  earlier ++ [.accept] <+: events ∧ (after earlier).phase = .waiting

theorem acceptedAfter_snoc {events earlier : List Event} {event : Event} :
    AcceptedAfter (events ++ [event]) earlier ↔
      AcceptedAfter events earlier ∨
        (earlier = events ∧ event = .accept ∧ (after events).phase = .waiting) := by
  unfold AcceptedAfter
  rw [List.prefix_concat_iff]
  constructor
  · rintro ⟨hlast | hbefore, hphase⟩
    · rcases List.append_inj' hlast rfl with ⟨rfl, hevent⟩
      cases hevent
      exact Or.inr ⟨rfl, rfl, hphase⟩
    · exact Or.inl ⟨hbefore, hphase⟩
  · rintro (⟨hbefore, hphase⟩ | ⟨rfl, rfl, hphase⟩)
    · exact ⟨Or.inr hbefore, hphase⟩
    · exact ⟨Or.inl rfl, hphase⟩

theorem connected_after_iff (events : List Event) :
    (after events).connected = true ↔ exists earlier, AcceptedAfter events earlier := by
  induction events using List.reverseRecOn with
  | nil =>
      refine iff_of_false nofun ?_
      rintro ⟨earlier, hprefix, -⟩
      exact List.concat_ne_nil _ _ (List.prefix_nil.mp hprefix)
  | append_singleton events event ih =>
      simp only [after_snoc, Channel.connected_step, acceptedAfter_snoc, ih, exists_or,
        exists_eq_left]

/-- The writes that were queued are divided at every moment, and none that was queued after
the client was accepted stands before the block. -/
theorem exists_divided_after (events : List Event) :
    exists before block behind, (after events).Divided (queued events) before block behind ∧
      forall earlier, AcceptedAfter events earlier -> before <+: queued earlier := by
  induction events using List.reverseRecOn with
  | nil =>
      refine ⟨[], [], [], .initial, ?_⟩
      exact fun earlier _ => List.nil_prefix
  | append_singleton events event ih =>
      rcases ih with ⟨before, block, behind, hdivided, hearlier⟩
      rcases hdivided.step event with ⟨before', block', behind', hdivided', hsame⟩
      rw [← queued_snoc, ← after_snoc] at hdivided'
      refine ⟨before', block', behind', hdivided', ?_⟩
      intro earlier haccepted
      rcases acceptedAfter_snoc.mp haccepted with hbefore | ⟨rfl, rfl, -⟩
      -- The client was there already, so this event did not move the first border.
      · rw [hsame ((connected_after_iff events).mpr ⟨earlier, hbefore⟩)]
        exact hearlier earlier hbefore
      -- It comes now, and nothing was queued later.
      · have hqueued : queued (earlier ++ [.accept]) = queued earlier := by
          rw [queued_snoc]
          exact List.append_nil _
        rw [← hqueued, hdivided'.writes_eq, List.append_assoc]
        exact List.prefix_append _ _

/-!
## What the listener can still send
-/

/-- The listener takes a line, or its socket takes bytes of one. -/
def Event.Sends : Event -> Prop
  | .receive => True
  | .transfer _ => True
  | _ => False

theorem Event.sends_of_mem_forward {line : String} {event : Event}
    (h : event ∈ Event.forward line) : event.Sends := by
  rcases List.mem_pair.mp h with rfl | rfl
  · trivial
  · trivial

namespace Channel

theorem transfer_all {c : Channel} {line : String} (hphase : c.phase = .sending line) :
    c.transfer (Utf8.encode line).length =
      { c with phase := .serving, sent := c.sent ++ [line], begun := [] } := by
  have htake : (Utf8.encode line).take (c.begun.length + (Utf8.encode line).length) =
      Utf8.encode line := List.take_of_length_le (Nat.le_add_left _ _)
  unfold transfer
  rw [hphase]
  dsimp only
  rw [htake, if_pos rfl]

theorem run_forward {c : Channel} (hphase : c.phase = .serving) (hbegun : c.begun = [])
    {line : String} {rest : List String} (hqueue : c.queue = line :: rest) :
    c.run (Event.forward line) = { c with queue := rest, sent := c.sent ++ [line] } := by
  have hreceive : c.receive = { c with phase := .sending line, queue := rest } := by
    unfold receive
    rw [hphase, hqueue]
  show c.receive.transfer _ = _
  rw [hreceive, transfer_all rfl]
  simp [hphase, hbegun]

theorem run_forwards {c : Channel} (hphase : c.phase = .serving) (hbegun : c.begun = []) :
    c.run (c.queue.flatMap Event.forward) =
      { c with queue := [], sent := c.sent ++ c.queue } := by
  generalize hqueue : c.queue = lines
  induction lines generalizing c with
  | nil =>
      cases c
      cases hqueue
      simp [run]
  | cons line rest ih =>
      rw [List.flatMap_cons, run_append, run_forward hphase hbegun hqueue,
        ih (c := { c with queue := rest, sent := c.sent ++ [line] }) hphase hbegun rfl,
        List.append_assoc]
      rfl

theorem Divided.exists_all_sent {c : Channel} {writes before block behind : List (List UInt8)}
    (h : c.Divided writes before block behind) (hclient : c.phase.hasClient = true) :
    exists more, (forall event, event ∈ more -> event.Sends) ∧
      (c.run more).text = String.join ((block ++ behind).map Utf8.lossy) := by
  have hsends : forall event, event ∈ c.queue.flatMap Event.forward -> event.Sends := by
    intro event hevent
    rcases List.mem_flatMap.mp hevent with ⟨line, -, hline⟩
    exact Event.sends_of_mem_forward hline
  cases hphase : c.phase with
  | unbound | waiting | gone =>
      rw [hphase] at hclient
      cases hclient
  | serving =>
      have hidle : c.phase.Idle := hphase ▸ Phase.idle_serving
      refine ⟨c.queue.flatMap Event.forward, hsends, ?_⟩
      rw [run_forwards hphase (h.begun_eq_nil hidle), text, h.sent_eq, h.queue_eq hidle,
        List.map_append]
  | sending line =>
      -- The rest of this line goes out first, then those that wait.
      rcases h.behind_of_sending hphase with ⟨bytes, rest, rfl, rfl, hqueue⟩
      let next : Channel :=
        { c with phase := .serving, sent := c.sent ++ [Utf8.lossy bytes], begun := [] }
      refine ⟨.transfer (Utf8.encode (Utf8.lossy bytes)).length ::
        c.queue.flatMap Event.forward, ?_, ?_⟩
      · intro event hevent
        rcases List.mem_cons.mp hevent with rfl | hrest
        · trivial
        · exact hsends event hrest
      · show ((c.transfer _).run _).text = _
        rw [transfer_all hphase, run_forwards (c := next) rfl rfl]
        show String.join (c.sent ++ [Utf8.lossy bytes] ++ c.queue) = _
        rw [h.sent_eq, ← hqueue]
        simp

end Channel

/-!
## The whole of a history
-/

theorem received_prefix_after (earlier later : List Event) :
    (after earlier).received <+: (after (earlier ++ later)).received := by
  induction later using List.reverseRecOn with
  | nil => rw [List.append_nil]
  | append_singleton later event ih =>
      rcases exists_divided_after (earlier ++ later) with ⟨before, block, behind, hdivided, -⟩
      rw [← List.append_assoc, after_snoc]
      exact ih.trans (hdivided.received_prefix_step event)

theorem received_eq_nil_of_not_accepted {events : List Event}
    (h : forall earlier, ¬ AcceptedAfter events earlier) : (after events).received = [] := by
  rcases exists_divided_after events with ⟨before, block, behind, hdivided, -⟩
  have hconnected : (after events).connected = false := by
    rw [← Bool.not_eq_true, connected_after_iff]
    exact not_exists.mpr h
  rcases hdivided.unconnected hconnected with ⟨rfl, hbegun⟩
  unfold Channel.received Channel.text
  rw [hdivided.sent_eq, hbegun]
  rfl

/-- The lines that went out whole are those of a block of writes that were queued one after
the other, and start at the latest with the first one queued after the client was accepted.
At every moment the client has got their text and at most a start of the line behind it.
As long as there is a listener the lines behind the block wait for it in their order, and
with a client it can still send them all.  What the client has got stays.  A write never
fails, and without a listener it changes nothing. -/
theorem delivered_in_order (events : List Event) :
    (exists before block behind,
      queued events = before ++ block ++ behind ∧
        (after events).text = String.join (block.map Utf8.lossy) ∧
        (after events).received =
          Utf8.encode (String.join (block.map Utf8.lossy)) ++ (after events).begun ∧
        (after events).begun <+: firstBytes behind ∧
        ((after events).phase.Idle -> (after events).begun = []) ∧
        (forall earlier, AcceptedAfter events earlier -> before <+: queued earlier) ∧
        ((after events).phase ≠ .gone ->
          (after events).unsent = behind.map Utf8.lossy) ∧
        ((after events).phase.hasClient = true ->
          exists more, (forall event, event ∈ more -> event.Sends) ∧
            (after (events ++ more)).text = String.join ((block ++ behind).map Utf8.lossy))) ∧
      ((forall earlier, ¬ AcceptedAfter events earlier) -> (after events).received = []) ∧
      (forall earlier, earlier <+: events ->
        (after earlier).received <+: (after events).received) ∧
      (forall bytes, ((after events).write bytes).1 = .ok bytes.length ∧
        ((after events).phase = .gone -> ((after events).write bytes).2 = after events)) := by
  refine ⟨?_, received_eq_nil_of_not_accepted, ?_, ?_⟩
  · rcases exists_divided_after events with ⟨before, block, behind, hdivided, hearlier⟩
    have htext : (after events).text = String.join (block.map Utf8.lossy) := by
      rw [← hdivided.sent_eq]
      rfl
    refine ⟨before, block, behind, hdivided.writes_eq, htext, ?_, hdivided.begun_prefix,
      hdivided.begun_eq_nil, hearlier, hdivided.unsent_eq, ?_⟩
    · rw [← htext]
      rfl
    · intro hclient
      rcases hdivided.exists_all_sent hclient with ⟨more, hsends, hall⟩
      refine ⟨more, hsends, ?_⟩
      rw [after_append]
      exact hall
  · rintro earlier ⟨later, rfl⟩
    exact received_prefix_after earlier later
  · intro bytes
    refine ⟨rfl, ?_⟩
    intro hgone
    simp [Channel.write, Channel.send?, hgone]

/-- An invalid byte is shown as the replacement character, of which the client gets two
bytes before its socket fails.  One line was dropped before the client came. -/
theorem delivered_in_order_cut_off :
    exists events earlier : List Event,
      AcceptedAfter events earlier ∧ queued earlier = [[97], [98]] ∧
        queued events = [[97], [98], [0xFF], [99]] ∧ (after events).text = "b" ∧
        (after events).received = [98, 0xEF, 0xBF] ∧
        (exists before block behind,
          queued events = before ++ block ++ behind ∧
            (after events).text = String.join (block.map Utf8.lossy) ∧
            before <+: queued earlier) ∧
        ((after events).write [100]).1 = .ok 1 := by
  let earlier : List Event := [.write [97], .serve .reachable, .clone, .receive, .write [98]]
  let later : List Event :=
    [.write [0xFF], .receive, .transfer 1, .receive, .release, .transfer 1, .transfer 1,
      .write [99], .fail, .write [100]]
  let events := earlier ++ .accept :: later
  have haccepted : AcceptedAfter events earlier := by
    refine ⟨⟨later, ?_⟩, by decide⟩
    exact List.append_assoc earlier [.accept] later
  rcases delivered_in_order events with
    ⟨⟨before, block, behind, hqueued, htext, -, -, -, hearlier, -, -⟩, -, -, hwrite⟩
  refine ⟨events, earlier, haccepted, by decide, by decide, by decide, by decide, ?_, ?_⟩
  · exact ⟨before, block, behind, hqueued, htext, hearlier earlier haccepted⟩
  · exact (hwrite [100]).1

end Diagnostics
end TraceAdapter
