import Mathlib.Data.List.Induction
import TraceAdapter.Error
import TraceAdapter.Proofs.Protocol.Grammar

/-!
# The reader follows the grammar

The reader passes over blank lines, keeps the last length of the header lines and
stops where there is no header line.  What stands there decides what it makes of
the stream, so every stream is read in one of four ways.
-/

namespace TraceAdapter
namespace Protocol
namespace Framing

/-!
## Reading line by line
-/

theorem readFrom_blank {line : List UInt8} (h : BlankLine line) (started : Bool)
    (length : Option Nat) (bytes : List UInt8) :
    readFrom started length (line ++ bytes) = afterLine started length bytes .blank := by
  have hblank := ofLine_of_blank h
  rcases not_mem_of_blank h with ⟨front, hfront, rfl⟩
  rw [List.append_assoc, List.singleton_append, readFrom_ended hfront, hblank]

theorem readFrom_blanks {blanks : List (List UInt8)}
    (h : forall line, line ∈ blanks -> BlankLine line) (length : Option Nat)
    (bytes : List UInt8) :
    readFrom false length (blanks.flatten ++ bytes) = readFrom false length bytes := by
  induction blanks with
  | nil => rfl
  | cons line rest ih =>
      rw [List.flatten_cons, List.append_assoc, readFrom_blank (h line List.mem_cons_self)]
      exact ih fun other hother => h other (List.mem_cons_of_mem line hother)

def said (length : Option Nat) (line : String) : Option Nat :=
  match Header.ofText line with
  | .length n => some n
  | _ => length

theorem said_of_field {line : String} {value : List Char} {n : Nat}
    (hfield : LengthField line value) (hvalue : LengthValue value n)
    (length : Option Nat) : said length line = some n := by
  unfold said
  rw [ofText_eq_length hfield hvalue]

theorem said_of_no_field {line : String} (h : forall value, ¬ LengthField line value)
    (length : Option Nat) : said length line = length := by
  unfold said
  rw [ofText_of_no_field h]

theorem readFrom_header {line : String} (h : HeaderLine line) (started : Bool)
    (length : Option Nat) (bytes : List UInt8) :
    readFrom started length (Utf8.encode line ++ bytes) =
      readFrom true (said length line) bytes := by
  have hline := ofLine_of_text h.visible
  rcases h.exists_front with ⟨front, hfront, hbytes⟩
  rw [hbytes] at hline ⊢
  rw [List.append_assoc, List.singleton_append, readFrom_ended hfront, hline]
  by_cases hfield : exists value, LengthField line value
  · rcases hfield with ⟨value, hfield⟩
    rcases h.numeric value hfield with ⟨n, hvalue⟩
    rw [said_of_field hfield hvalue, ofText_eq_length hfield hvalue]
    rfl
  · rw [said_of_no_field (not_exists.mp hfield), ofText_of_no_field (not_exists.mp hfield)]
    rfl

theorem readFrom_headers {headers : List String}
    (h : forall line, line ∈ headers -> HeaderLine line) (started : Bool)
    (length : Option Nat) (bytes : List UInt8) :
    readFrom started length (headers.flatMap Utf8.encode ++ bytes) =
      readFrom (started || ! headers.isEmpty) (headers.foldl said length) bytes := by
  induction headers generalizing started length with
  | nil => simp
  | cons line rest ih =>
      rw [List.flatMap_cons, List.append_assoc, readFrom_header (h line List.mem_cons_self),
        ih fun other hother => h other (List.mem_cons_of_mem line hother)]
      simp

theorem foldl_said_of_no_field {headers : List String}
    (h : forall line, line ∈ headers -> forall value, ¬ LengthField line value)
    (length : Option Nat) : headers.foldl said length = length := by
  induction headers with
  | nil => rfl
  | cons line rest ih =>
      rw [List.foldl_cons, said_of_no_field (h line List.mem_cons_self)]
      exact ih fun other hother => h other (List.mem_cons_of_mem line hother)

theorem LastLength.foldl_said {headers : List String} {n : Nat}
    (h : LastLength headers n) (length : Option Nat) :
    headers.foldl said length = some n := by
  rcases h with ⟨before, line, after, value, rfl, hfield, hvalue, hlast⟩
  rw [List.foldl_append, List.foldl_cons, said_of_field hfield hvalue,
    foldl_said_of_no_field hlast]

theorem lastLength_of_foldl_said {headers : List String} {n : Nat}
    (h : forall line, line ∈ headers -> HeaderLine line)
    (hsaid : headers.foldl said none = some n) : LastLength headers n := by
  -- The last line is taken off, as it alone decides if it says a length.
  induction headers using List.reverseRecOn with
  | nil => cases hsaid
  | append_singleton before line ih =>
      rw [List.foldl_append, List.foldl_cons, List.foldl_nil] at hsaid
      by_cases hfield : exists value, LengthField line value
      · rcases hfield with ⟨value, hfield⟩
        rcases (h line (by simp)).numeric value hfield with ⟨m, hvalue⟩
        rw [said_of_field hfield hvalue] at hsaid
        cases hsaid
        exact ⟨before, line, [], value, rfl, hfield, hvalue, by simp⟩
      · rw [said_of_no_field (not_exists.mp hfield)] at hsaid
        rcases ih (fun other hother => h other (by simp [hother])) hsaid with
          ⟨first, last, after, value, rfl, hlast, hvalue, hothers⟩
        refine ⟨first, last, after ++ [line], value, by simp, hlast, hvalue, ?_⟩
        intro other hother
        rcases List.mem_append.mp hother with hafter | hline
        · exact hothers other hafter
        · rw [List.mem_singleton.mp hline]
          exact not_exists.mp hfield

theorem Front.readFrom_eq {front : List UInt8} {headers : List String}
    (h : Front front headers) (bytes : List UInt8) :
    readMessage (front ++ bytes) =
      readFrom (! headers.isEmpty) (headers.foldl said none) bytes := by
  rcases h with ⟨blanks, rfl, hblanks, hheaders⟩
  unfold readMessage
  rw [List.append_assoc, readFrom_blanks hblanks, readFrom_headers hheaders, Bool.false_or]

/-!
## Bodies
-/

theorem readBody_eq_ok_iff {length : Option Nat} {bytes rest : List UInt8}
    {body : String} :
    readBody length bytes = .ok (body, rest) ↔
      length = some (Utf8.encode body).length ∧ (Utf8.encode body).length ≤ maxLength ∧
        bytes = Utf8.encode body ++ rest := by
  constructor
  · intro h
    cases length with
    | none => cases h
    | some n =>
        unfold readBody at h
        dsimp only at h
        split_ifs at h with hlong hclosed
        cases hdecode : Utf8.decode (bytes.take n) with
        | error fault =>
            rw [hdecode] at h
            cases h
        | ok text =>
            rw [hdecode] at h
            cases h
            have hbody := Utf8.decode_eq_ok_iff.mp hdecode
            have hlength : (Utf8.encode body).length = n := by
              rw [← hbody, List.length_take]
              omega
            constructor
            · rw [hlength]
            · constructor
              · omega
              · rw [← hbody, List.take_append_drop]
  · rintro ⟨rfl, hlong, rfl⟩
    exact readBody_encode hlong rest

theorem readBody_ne_headerText (length : Option Nat) (bytes : List UInt8)
    (fault : Utf8.Fault) : readBody length bytes ≠ .error (.headerText fault) := by
  intro h
  cases length with
  | none => cases h
  | some n =>
      unfold readBody at h
      dsimp only at h
      split_ifs at h
      · cases h
      · cases h
      · cases hdecode : Utf8.decode (bytes.take n) with
        | error cause =>
            rw [hdecode] at h
            cases h
        | ok text =>
            rw [hdecode] at h
            cases h

/-!
## Where the header lines end
-/

/-- What stands where there is no header line. -/
inductive Stop : List UInt8 -> Prop where
  | ended : Stop []
  | unended {line : List UInt8} : lineFeed ∉ line -> line ≠ [] ->
      (forall e, Header.ofLine line ≠ .fault e) -> Stop line
  | blank {closing payload : List UInt8} : BlankLine closing -> Stop (closing ++ payload)
  | fault {line rest : List UInt8} {e : FrameError} : WholeLine line rest ->
      Header.ofLine line = .fault e -> Stop (line ++ rest)

theorem exists_headers (bytes : List UInt8) :
    exists (headers : List String) (tail : List UInt8),
      bytes = headers.flatMap Utf8.encode ++ tail ∧
        (forall line, line ∈ headers -> HeaderLine line) ∧ Stop tail := by
  induction bytes using stream_induction with
  | unended bytes hend =>
      refine ⟨[], bytes, rfl, by simp, ?_⟩
      by_cases hnil : bytes = []
      · rw [hnil]
        exact Stop.ended
      · by_cases hfault : exists e, Header.ofLine bytes = .fault e
        · rcases hfault with ⟨e, hfault⟩
          have hstop : Stop (bytes ++ []) := Stop.fault (Or.inr ⟨hend, rfl⟩) hfault
          rwa [List.append_nil] at hstop
        · exact Stop.unended hend hnil (not_exists.mp hfault)
  | ended line rest hline ih =>
      have hwhole : line ++ lineFeed :: rest = (line ++ [lineFeed]) ++ rest := by simp
      by_cases hblank : BlankLine (line ++ [lineFeed])
      · exact ⟨[], _, hwhole, by simp, Stop.blank hblank⟩
      · by_cases hfault : exists e, Header.ofLine (line ++ [lineFeed]) = .fault e
        · rcases hfault with ⟨e, hfault⟩
          exact ⟨[], _, hwhole, by simp, Stop.fault (Or.inl ⟨line, hline, rfl⟩) hfault⟩
        · rcases exists_headerLine hline hblank (not_exists.mp hfault) with
            ⟨text, htext, hbytes⟩
          rcases ih with ⟨headers, tail, rfl, hheaders, hstop⟩
          refine ⟨text :: headers, tail, ?_, ?_, hstop⟩
          · rw [hwhole, hbytes, List.flatMap_cons, List.append_assoc]
          · intro other hother
            rcases List.mem_cons.mp hother with rfl | hrest
            · exact htext
            · exact hheaders other hrest

theorem exists_blanks (bytes : List UInt8) :
    exists (blanks : List (List UInt8)) (tail : List UInt8),
      bytes = blanks.flatten ++ tail ∧ (forall line, line ∈ blanks -> BlankLine line) ∧
        forall closing payload, BlankLine closing -> tail ≠ closing ++ payload := by
  induction hlength : bytes.length using Nat.strongRecOn generalizing bytes with
  | ind length ih =>
      by_cases hstarts : exists closing payload, BlankLine closing ∧ bytes = closing ++ payload
      · rcases hstarts with ⟨closing, payload, hclosing, rfl⟩
        have hshorter : payload.length < length := by
          rw [← hlength, List.length_append]
          rcases hclosing with rfl | rfl <;> simp
        rcases ih payload.length hshorter payload rfl with ⟨blanks, tail, rfl, hblanks, htail⟩
        refine ⟨closing :: blanks, tail, by simp, ?_, htail⟩
        intro line hline
        rcases List.mem_cons.mp hline with rfl | hrest
        · exact hclosing
        · exact hblanks line hrest
      · refine ⟨[], bytes, rfl, by simp, ?_⟩
        intro closing payload hclosing heq
        exact hstarts ⟨closing, payload, hclosing, heq⟩

theorem readFrom_unended_line {line : List UInt8} (hend : lineFeed ∉ line)
    (hsome : line ≠ []) (hfault : forall e, Header.ofLine line ≠ .fault e)
    (started : Bool) (length : Option Nat) :
    readFrom started length line = .error .closedInHeaders := by
  cases line with
  | nil => exact absurd rfl hsome
  | cons b tail =>
      rw [readFrom, splitLine_unended hend]
      cases hheader : Header.ofLine (b :: tail) with
      | blank => exact absurd hheader (ofLine_unended_ne_blank hend)
      | length n => simp [readFrom]
      | other => simp [readFrom]
      | fault e => exact absurd hheader (hfault e)

theorem readFrom_fault {line rest : List UInt8} {e : FrameError}
    (hline : WholeLine line rest) (hfault : Header.ofLine line = .fault e)
    (started : Bool) (length : Option Nat) :
    readFrom started length (line ++ rest) = .error e := by
  rcases hline with ⟨front, hfront, rfl⟩ | ⟨hend, rfl⟩
  · rw [List.append_assoc, List.singleton_append, readFrom_ended hfront, hfault]
    rfl
  · rw [List.append_nil]
    cases line with
    | nil =>
        have hnone : Header.ofLine [] = .other := by decide
        rw [hnone] at hfault
        cases hfault
    | cons b tail => rw [readFrom, splitLine_unended hend, hfault]

/-!
## Four ways to read a stream
-/

/-- What is read, by how the stream begins. -/
inductive Reading (bytes : List UInt8) : Prop where
  | nothing : OnlyBlank bytes -> readMessage bytes = .ok none -> Reading bytes
  | body {front closing payload : List UInt8} {headers : List String} :
      bytes = front ++ closing ++ payload -> Front front headers -> BlankLine closing ->
      readMessage bytes = (readBody (headers.foldl said none) payload).map some ->
      Reading bytes
  | garbled {fault : Utf8.Fault} : Garbled bytes ->
      readMessage bytes = .error (.headerText fault) -> Reading bytes
  | refused {e : FrameError} : (forall fault, e ≠ .headerText fault) ->
      readMessage bytes = .error e -> Reading bytes

theorem Front.readFrom_closing {front closing : List UInt8} {headers : List String}
    (h : Front front headers) (hheaders : headers ≠ []) (hclosing : BlankLine closing)
    (payload : List UInt8) :
    readMessage (front ++ closing ++ payload) =
      (readBody (headers.foldl said none) payload).map some := by
  have hstarted : (! headers.isEmpty) = true := by simpa using hheaders
  rw [List.append_assoc, h.readFrom_eq, readFrom_blank hclosing, hstarted]
  rfl

theorem reading (bytes : List UInt8) : Reading bytes := by
  rcases exists_blanks bytes with ⟨blanks, afterBlanks, rfl, hblanks, hvisible⟩
  rcases exists_headers afterBlanks with ⟨headers, tail, rfl, hheaders, hstop⟩
  have hfront : Front (blanks.flatten ++ headers.flatMap Utf8.encode) headers :=
    ⟨blanks, rfl, hblanks, hheaders⟩
  have hread := hfront.readFrom_eq tail
  rw [← List.append_assoc]
  cases hstop with
  | ended =>
      cases headers with
      | nil =>
          apply Reading.nothing
          · exact ⟨blanks, by simp, hblanks⟩
          · rw [hread]
            simp [readFrom]
      | cons first others =>
          apply Reading.refused (e := .closedInHeaders)
          · intro fault heq
            cases heq
          · rw [hread]
            simp [readFrom]
  | unended hend hsome hfault =>
      apply Reading.refused (e := .closedInHeaders)
      · intro fault heq
        cases heq
      · rw [hread]
        exact readFrom_unended_line hend hsome hfault _ _
  | @blank closing payload hclosing =>
      have hsome : headers ≠ [] := by
        rintro rfl
        exact hvisible closing payload hclosing rfl
      rw [← List.append_assoc]
      exact Reading.body rfl hfront hclosing
        (hfront.readFrom_closing hsome hclosing payload)
  | @fault line rest e hline hfault =>
      rw [readFrom_fault hline hfault] at hread
      by_cases htext : exists fault, e = .headerText fault
      · rcases htext with ⟨cause, rfl⟩
        apply Reading.garbled _ hread
        exact ⟨_, headers, line, rest, (List.append_assoc _ _ _).symm, hfront, hline,
          ofLine_eq_headerText_iff.mp ⟨cause, hfault⟩⟩
      · exact Reading.refused (not_exists.mp htext) hread

/-!
## Streams of the grammar
-/

theorem OnlyBlank.readMessage_eq {bytes : List UInt8} (h : OnlyBlank bytes) :
    readMessage bytes = .ok none := by
  rcases h with ⟨blanks, rfl, hblanks⟩
  unfold readMessage
  rw [← List.append_nil blanks.flatten, readFrom_blanks hblanks]
  exact readMessage_nil

theorem Message.readMessage_eq {bytes rest : List UInt8} {body : String}
    (h : Message bytes body rest) : readMessage bytes = .ok (some (body, rest)) := by
  rcases h with ⟨front, headers, closing, rfl, hfront, hclosing, hlast, hsize⟩
  have hsome : headers ≠ [] := by
    rintro rfl
    rcases hlast with ⟨before, line, after, value, hsplit, _⟩
    simp at hsplit
  have hbody : readBody (headers.foldl said none) (Utf8.encode body ++ rest) =
      .ok (body, rest) :=
    readBody_eq_ok_iff.mpr ⟨hlast.foldl_said none, hsize, rfl⟩
  rw [List.append_assoc _ (Utf8.encode body) rest,
    hfront.readFrom_closing hsome hclosing, hbody]
  rfl

theorem Garbled.readMessage_eq {bytes : List UInt8} (h : Garbled bytes) :
    exists fault, readMessage bytes = .error (.headerText fault) := by
  rcases h with ⟨front, headers, line, rest, rfl, hfront, hline, htext⟩
  rcases ofLine_eq_headerText_iff.mpr htext with ⟨fault, hfault⟩
  refine ⟨fault, ?_⟩
  rw [List.append_assoc, hfront.readFrom_eq]
  exact readFrom_fault hline hfault _ _

theorem message_of_body {front closing payload rest : List UInt8}
    {headers : List String} {body : String} (hfront : Front front headers)
    (hclosing : BlankLine closing)
    (h : (readBody (headers.foldl said none) payload).map some =
      .ok (some (body, rest))) :
    Message (front ++ closing ++ payload) body rest := by
  cases hread : readBody (headers.foldl said none) payload with
  | error e =>
      rw [hread] at h
      cases h
  | ok read =>
      rw [hread] at h
      cases h
      rcases readBody_eq_ok_iff.mp hread with ⟨hsaid, hsize, rfl⟩
      refine ⟨front, headers, closing, ?_, hfront, hclosing, ?_, hsize⟩
      · simp [List.append_assoc]
      · rcases hfront with ⟨_, _, _, hheaders⟩
        exact lastLength_of_foldl_said hheaders hsaid

theorem onlyBlank_of_readMessage {bytes : List UInt8} (h : readMessage bytes = .ok none) :
    OnlyBlank bytes := by
  cases reading bytes with
  | nothing hblank _ => exact hblank
  | @body front closing payload headers _ _ _ hread =>
      rw [h] at hread
      cases hbody : readBody (headers.foldl said none) payload with
      | error e =>
          rw [hbody] at hread
          cases hread
      | ok read =>
          rw [hbody] at hread
          cases hread
  | garbled _ hread => cases h.symm.trans hread
  | refused _ hread => cases h.symm.trans hread

theorem message_of_readMessage {bytes rest : List UInt8} {body : String}
    (h : readMessage bytes = .ok (some (body, rest))) : Message bytes body rest := by
  cases reading bytes with
  | nothing _ hread => cases h.symm.trans hread
  | body hbytes hfront hclosing hread =>
      rw [hbytes]
      exact message_of_body hfront hclosing (hread.symm.trans h)
  | garbled _ hread => cases h.symm.trans hread
  | refused _ hread => cases h.symm.trans hread

theorem garbled_of_readMessage {bytes : List UInt8} {fault : Utf8.Fault}
    (h : readMessage bytes = .error (.headerText fault)) : Garbled bytes := by
  cases reading bytes with
  | nothing _ hread => cases h.symm.trans hread
  | @body front closing payload headers _ _ _ hread =>
      rw [h] at hread
      cases hbody : readBody (headers.foldl said none) payload with
      | error e =>
          rw [hbody] at hread
          cases hread
          exact absurd hbody (readBody_ne_headerText _ _ fault)
      | ok read =>
          rw [hbody] at hread
          cases hread
  | garbled hgarbled _ => exact hgarbled
  | refused hcause hread =>
      cases h.symm.trans hread
      exact absurd rfl (hcause fault)

/-!
## Kinds of errors
-/

theorem ofFrameError_cases (e : FrameError) :
    (exists fault cause, e = .headerText fault ∧ Error.ofFrameError e = .io cause) ∨
      (forall fault, e ≠ .headerText fault) ∧ Error.ofFrameError e = .dapProtocol e := by
  cases e with
  | headerText fault =>
      left
      exact ⟨fault, _, rfl, rfl⟩
  | closedInHeaders => simp [Error.ofFrameError]
  | invalidLength shown => simp [Error.ofFrameError]
  | missingLength => simp [Error.ofFrameError]
  | tooLong length => simp [Error.ofFrameError]
  | closedInBody length => simp [Error.ofFrameError]
  | bodyText fault => simp [Error.ofFrameError]

theorem exists_io_iff (bytes : List UInt8) :
    (exists e cause, readMessage bytes = .error e ∧ Error.ofFrameError e = .io cause) ↔
      Garbled bytes := by
  constructor
  · rintro ⟨e, cause, hread, hkind⟩
    rcases ofFrameError_cases e with ⟨fault, _, rfl, _⟩ | ⟨_, hother⟩
    · exact garbled_of_readMessage hread
    · rw [hother] at hkind
      cases hkind
  · intro h
    rcases h.readMessage_eq with ⟨fault, hread⟩
    exact ⟨_, _, hread, rfl⟩

theorem exists_error_iff (bytes : List UInt8) :
    (exists e, readMessage bytes = .error e) ↔
      ¬ OnlyBlank bytes ∧ forall body rest, ¬ Message bytes body rest := by
  constructor
  · rintro ⟨e, hread⟩
    constructor
    · intro h
      cases h.readMessage_eq.symm.trans hread
    · intro body rest h
      cases h.readMessage_eq.symm.trans hread
  · rintro ⟨hblank, hmessage⟩
    cases hread : readMessage bytes with
    | error e => exact ⟨e, rfl⟩
    | ok read =>
        exfalso
        cases read with
        | none => exact hblank (onlyBlank_of_readMessage hread)
        | some message => exact hmessage _ _ (message_of_readMessage hread)

theorem exists_dapProtocol_iff (bytes : List UInt8) :
    (exists e cause, readMessage bytes = .error e ∧
      Error.ofFrameError e = .dapProtocol cause) ↔
      (exists e, readMessage bytes = .error e) ∧ ¬ Garbled bytes := by
  constructor
  · rintro ⟨e, cause, hread, hkind⟩
    refine ⟨⟨e, hread⟩, ?_⟩
    intro h
    rcases h.readMessage_eq with ⟨fault, hgarbled⟩
    cases hread.symm.trans hgarbled
    cases hkind
  · rintro ⟨⟨e, hread⟩, hgarbled⟩
    rcases ofFrameError_cases e with ⟨fault, _, rfl, _⟩ | ⟨_, hother⟩
    · exact absurd (garbled_of_readMessage hread) hgarbled
    · exact ⟨e, e, hread, hother⟩

/-- A stream of blank lines comes to a clean end, a message is read with its body
and leaves what is behind it, and every other stream is an error: one of input when
the first fault is a line that is no text, and one of the protocol otherwise. -/
theorem readMessage_follows_grammar (bytes : List UInt8) :
    (readMessage bytes = .ok none ↔ OnlyBlank bytes) ∧
      (forall body rest,
        readMessage bytes = .ok (some (body, rest)) ↔ Message bytes body rest) ∧
      ((exists e, readMessage bytes = .error e) ↔
        ¬ OnlyBlank bytes ∧ forall body rest, ¬ Message bytes body rest) ∧
      ((exists e cause, readMessage bytes = .error e ∧
        Error.ofFrameError e = .io cause) ↔ Garbled bytes) ∧
      ((exists e cause, readMessage bytes = .error e ∧
        Error.ofFrameError e = .dapProtocol cause) ↔
        ¬ OnlyBlank bytes ∧ (forall body rest, ¬ Message bytes body rest) ∧
          ¬ Garbled bytes) := by
  refine ⟨?_, ?_, exists_error_iff bytes, exists_io_iff bytes, ?_⟩
  · constructor
    · exact onlyBlank_of_readMessage
    · exact OnlyBlank.readMessage_eq
  · intro body rest
    constructor
    · exact message_of_readMessage
    · exact Message.readMessage_eq
  · rw [exists_dapProtocol_iff, exists_error_iff, and_assoc]

end Framing
end Protocol
end TraceAdapter
