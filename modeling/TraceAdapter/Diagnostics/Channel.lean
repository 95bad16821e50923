import TraceAdapter.Host.OsError

/-!
# The diagnostics channel

Lines for diagnosis come from sinks, of which any number share one queue, and wait for a
listener.  The listener drops them until it has a client and from then on sends them in
their order, until no sink is left, its socket fails or it is dropped itself.  Writing to
a sink never fails and never waits.
-/

namespace TraceAdapter
namespace Diagnostics

inductive Network where
  | reachable
  | unreachable
  deriving DecidableEq, Repr

inductive Phase where
  | unbound
  | waiting
  | serving
  | sending (line : String)
  | gone
  deriving DecidableEq, Repr

/-- The channel.  Lines in the queue stand with the oldest first; `sent` are the lines that
the socket of the client took whole, `begun` the bytes it took of the next one. -/
structure Channel where
  sinks : Nat := 1
  phase : Phase := .unbound
  connected : Bool := false
  queue : List String := []
  sent : List String := []
  begun : List UInt8 := []
  deriving DecidableEq, Repr

inductive Event where
  | clone
  | release
  | write (bytes : List UInt8)
  | serve (network : Network)
  | accept
  | refuse
  | receive
  | transfer (count : Nat)
  | fail
  | drop
  deriving DecidableEq, Repr

namespace Channel

def written (bytes : List UInt8) : Nat := bytes.length

/-- Put a line into the queue, which no longer takes any when the listener is gone. -/
def send? (c : Channel) (line : String) : Option Channel :=
  if c.phase = .gone then none else some { c with queue := c.queue ++ [line] }

/-- Write to a sink: what the writer is told, and the channel afterwards.  A line that the
queue does not take is dropped, and the writer is told the same. -/
def write (c : Channel) (bytes : List UInt8) : Except OsError Nat × Channel :=
  (.ok (written bytes), (c.send? (Utf8.lossy bytes)).getD c)

def close (c : Channel) : Channel := { c with phase := .gone, queue := [] }

/-- Bind the listener to its address.  A channel that cannot be served is dropped. -/
def serve (c : Channel) : Network -> Channel
  | .reachable => if c.phase = .unbound then { c with phase := .waiting } else c
  | .unreachable => if c.phase = .unbound then c.close else c

def accept (c : Channel) : Channel :=
  if c.phase = .waiting then { c with phase := .serving, connected := true } else c

/-- The next line is dropped when there is no client and else begun to be sent.  Without a
line the listener waits, as long as there is a sink that one could come from. -/
def receive (c : Channel) : Channel :=
  match c.phase, c.queue with
  | .waiting, _ :: rest => { c with queue := rest }
  | .serving, line :: rest => { c with phase := .sending line, queue := rest }
  | .waiting, [] => if c.sinks = 0 then c.close else c
  | .serving, [] => if c.sinks = 0 then c.close else c
  | _, _ => c

/-- So many more bytes of a line go out.  With its last byte the line is sent. -/
def transfer (c : Channel) (count : Nat) : Channel :=
  match c.phase with
  | .sending line =>
      let begun := (Utf8.encode line).take (c.begun.length + count)
      if begun = Utf8.encode line then
        { c with phase := .serving, sent := c.sent ++ [line], begun := [] }
      else { c with begun }
  | _ => c

def fail (c : Channel) : Channel :=
  match c.phase with
  | .sending _ => c.close
  | _ => c

/-- What an event makes of the channel.  Without a sink none is cloned or written to. -/
def step (c : Channel) : Event -> Channel
  | .clone => if c.sinks = 0 then c else { c with sinks := c.sinks + 1 }
  | .release => { c with sinks := c.sinks - 1 }
  | .write bytes => if c.sinks = 0 then c else (c.write bytes).2
  | .serve network => c.serve network
  | .accept => c.accept
  | .refuse => c
  | .receive => c.receive
  | .transfer count => c.transfer count
  | .fail => c.fail
  | .drop => c.close

def run (c : Channel) (events : List Event) : Channel := events.foldl step c

def text (c : Channel) : String := String.join c.sent

def received (c : Channel) : List UInt8 := Utf8.encode c.text ++ c.begun

end Channel

def Event.forward (line : String) : List Event :=
  [.receive, .transfer (Utf8.encode line).length]

structure Delivery where
  counts : List Nat
  early : Bool
  connected : Bool
  received : String
  deriving DecidableEq, Repr

/-- Serve a client, write to the only sink, drop it and let the client read to the
end. -/
def deliver (network : Network) (writes : List (List UInt8)) :
    Except OsError Delivery :=
  match network with
  | .unreachable => .error .networkUnreachable
  | .reachable =>
      let waiting := ({} : Channel).step (.serve .reachable)
      let connected := waiting.step .accept
      let forwards := writes.flatMap fun bytes => Event.forward (Utf8.lossy bytes)
      let ended :=
        connected.run (writes.map .write ++ .release :: forwards ++ [.receive])
      .ok
        { counts := writes.map Channel.written
          early := waiting.connected
          connected := connected.connected
          received := ended.text }

end Diagnostics
end TraceAdapter
