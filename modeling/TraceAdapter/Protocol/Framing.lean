import TraceAdapter.Text.Numeral
import TraceAdapter.Text.Utf8

/-!
# Framing

A message travels as header lines, a blank line and a body of as many bytes
as the header `Content-Length` says.  The reader works on the bytes that are
still to come and hands back those it did not need.
-/

namespace TraceAdapter
namespace Protocol
namespace Framing

def maxLength : Nat := 100 * 1024 * 1024

inductive FrameError where
  | headerText (fault : Utf8.Fault)
  | closedInHeaders
  | invalidLength (shown : String)
  | missingLength
  | tooLong (length : Nat)
  | closedInBody (length : Nat)
  | bodyText (fault : Utf8.Fault)
  deriving DecidableEq, Repr

def FrameError.message : FrameError -> String
  | headerText fault => fault.message
  | closedInHeaders => "Stream closed inside message headers"
  | invalidLength shown => s!"Invalid Content-Length: {shown}"
  | missingLength => "Missing Content-Length header"
  | tooLong n => s!"Content-Length too large: {n} bytes"
  | closedInBody n => s!"Stream closed before {n} body bytes arrived"
  | bodyText fault => s!"Invalid UTF-8: {fault.message}"

def lineFeed : UInt8 := 0x0A

def carriageReturn : UInt8 := 0x0D

/-- The bytes up to and with the first end of a line, and the rest. -/
def splitLine : List UInt8 -> List UInt8 × List UInt8
  | [] => ([], [])
  | b :: rest =>
      if b = lineFeed then ([b], rest)
      else ((b :: (splitLine rest).1), (splitLine rest).2)

theorem length_splitLine_snd_lt (b : UInt8) (rest : List UInt8) :
    (splitLine (b :: rest)).2.length < (b :: rest).length := by
  induction rest generalizing b with
  | nil => by_cases h : b = lineFeed <;> simp [splitLine, h]
  | cons c rest ih =>
      by_cases h : b = lineFeed
      · simp [splitLine, h]
      · have step : (splitLine (b :: c :: rest)).2 = (splitLine (c :: rest)).2 := by
          rw [splitLine, if_neg h]
        rw [step]
        exact Nat.lt_succ_of_lt (ih c)

def isBlankLine (line : List UInt8) : Bool :=
  line = [lineFeed] || line = [carriageReturn, lineFeed]

inductive Header where
  | blank
  | length (n : Nat)
  | other
  | fault (e : FrameError)
  deriving DecidableEq, Repr

def Header.ofText (line : String) : Header :=
  let chars := (Text.trim line).toList
  match chars.dropWhile (· != ':') with
  | [] => .other
  | _ :: value =>
      let name := Text.trim (String.ofList (chars.takeWhile (· != ':')))
      if Text.sameIgnoringCase name "content-length" then
        let shown := Text.trim (String.ofList value)
        match Numeral.natural? 10 Numeral.bound64 shown with
        | some n => .length n
        | none => .fault (.invalidLength shown)
      else .other

def Header.ofLine (line : List UInt8) : Header :=
  if isBlankLine line then .blank
  else
    match Utf8.decode line with
    | .error f => .fault (.headerText f)
    | .ok text => .ofText text

def readBody (length : Option Nat) (bytes : List UInt8) :
    Except FrameError (String × List UInt8) :=
  match length with
  | none => .error .missingLength
  | some n =>
      if maxLength < n then .error (.tooLong n)
      else if bytes.length < n then .error (.closedInBody n)
      else
        match Utf8.decode (bytes.take n) with
        | .error fault => .error (.bodyText fault)
        | .ok body => .ok (body, bytes.drop n)

/-- Read the header lines and the body of a message.  `started` says whether a
header line was seen, `length` what the last `Content-Length` said. -/
def readFrom (started : Bool) (length : Option Nat) :
    List UInt8 -> Except FrameError (Option (String × List UInt8))
  | [] => if started then .error .closedInHeaders else .ok none
  | b :: tail =>
      match Header.ofLine (splitLine (b :: tail)).1 with
      | .blank =>
          if started then (readBody length (splitLine (b :: tail)).2).map some
          else readFrom false length (splitLine (b :: tail)).2
      | .length n => readFrom true (some n) (splitLine (b :: tail)).2
      | .other => readFrom true length (splitLine (b :: tail)).2
      | .fault e => .error e
  termination_by bytes => bytes.length
  decreasing_by all_goals exact length_splitLine_snd_lt b tail

/-- Read the next message: its body and the bytes after it, or none at a clean
end of the stream. -/
def readMessage (bytes : List UInt8) :
    Except FrameError (Option (String × List UInt8)) :=
  readFrom false none bytes

def writeMessage (body : String) : List UInt8 :=
  let payload := Utf8.encode body
  Utf8.encode "Content-Length: " ++ Utf8.encode (Numeral.decimal payload.length) ++
    [carriageReturn, lineFeed, carriageReturn, lineFeed] ++ payload

end Framing
end Protocol
end TraceAdapter
