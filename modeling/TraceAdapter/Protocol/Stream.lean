import TraceAdapter.Protocol.Framing

/-!
# Streams of messages

A stream is read message by message until it ends or cannot be read on.  Each
message takes at least one byte, so this comes to an end.
-/

namespace TraceAdapter
namespace Protocol
namespace Framing

theorem length_readBody {length : Option Nat} {bytes rest : List UInt8}
    {body : String} (h : readBody length bytes = .ok (body, rest)) :
    rest.length ≤ bytes.length := by
  unfold readBody at h
  split at h
  · cases h
  · split at h
    · cases h
    · split at h
      · cases h
      · split at h
        · cases h
        · cases h
          simp

theorem length_readFrom {started : Bool} {length : Option Nat}
    {bytes rest : List UInt8} {body : String}
    (h : readFrom started length bytes = .ok (some (body, rest))) :
    rest.length < bytes.length := by
  fun_induction readFrom started length bytes with
  | case1 => cases h
  | case2 => cases h
  | case3 length b tail hline =>
      have hlt := length_splitLine_snd_lt b tail
      cases hbody : readBody length (splitLine (b :: tail)).2 with
      | error e =>
          rw [hbody] at h
          cases h
      | ok r =>
          rw [hbody] at h
          cases h
          have := length_readBody hbody
          omega
  | case4 started length b tail hline hstarted ih =>
      have := ih h
      have := length_splitLine_snd_lt b tail
      omega
  | case5 started length b tail n hline ih =>
      have := ih h
      have := length_splitLine_snd_lt b tail
      omega
  | case6 started length b tail hline ih =>
      have := ih h
      have := length_splitLine_snd_lt b tail
      omega
  | case7 => cases h

theorem length_readMessage {bytes rest : List UInt8} {body : String}
    (h : readMessage bytes = .ok (some (body, rest))) :
    rest.length < bytes.length :=
  length_readFrom h

/-- The bodies in a stream, and what ended it when that was not its end. -/
def readAll (bytes : List UInt8) : List String × Option FrameError :=
  match _hread : readMessage bytes with
  | .error e => ([], some e)
  | .ok none => ([], none)
  | .ok (some (body, rest)) =>
      let (bodies, ending) := readAll rest
      (body :: bodies, ending)
  termination_by bytes.length
  decreasing_by exact length_readMessage _hread

end Framing
end Protocol
end TraceAdapter
