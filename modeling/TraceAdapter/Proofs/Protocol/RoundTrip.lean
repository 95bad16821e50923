import TraceAdapter.Proofs.Protocol.Reading
import TraceAdapter.Proofs.Text.Numerals
import TraceAdapter.Proofs.Text.Utf8

/-!
# Written messages are read back

A message is written as one header line, a blank line and its body.  The reader
finds the length in the header line and takes just as many bytes, so it does not
matter what the body contains nor what comes after it.
-/

namespace TraceAdapter
namespace Protocol
namespace Framing

/-!
## The header line
-/

def lengthName : String := "Content-Length: "

def lengthLine (n : Nat) : String := lengthName ++ Numeral.decimal n ++ "\r"

theorem isBlank_getLast_decimal {n : Nat} (h : (Numeral.decimal n).toList ≠ []) :
    Text.isBlank ((Numeral.decimal n).toList.getLast h) = false :=
  Numeral.isBlank_of_isDigit (Numeral.isDigit_of_mem_decimal (List.getLast_mem h))

theorem isBlank_head_decimal {n : Nat} (h : (Numeral.decimal n).toList ≠ []) :
    Text.isBlank ((Numeral.decimal n).toList.head h) = false :=
  Numeral.isBlank_of_isDigit (Numeral.isDigit_of_mem_decimal (List.head_mem h))

theorem toList_trim_lengthLine (n : Nat) :
    (Text.trim (lengthLine n ++ "\n")).toList =
      lengthName.toList ++ (Numeral.decimal n).toList := by
  have hdigits := Numeral.toList_decimal_ne_nil n
  have hsome : lengthName.toList ++ (Numeral.decimal n).toList ≠ [] :=
    List.append_ne_nil_of_right_ne_nil _ hdigits
  have hline : (lengthLine n ++ "\n").toList =
      [] ++ (lengthName.toList ++ (Numeral.decimal n).toList) ++ ['\r', '\n'] := by
    unfold lengthLine
    simp only [String.toList_append, List.append_assoc, List.nil_append]
    rfl
  unfold Text.trim
  rw [String.toList_ofList, hline]
  apply Text.trimChars_eq hsome
  · rfl
  · rfl
  · rw [List.head_append_of_ne_nil (by decide)]
    rfl
  · rw [List.getLast_append_of_ne_nil hsome hdigits]
    exact isBlank_getLast_decimal hdigits

theorem trim_lengthValue (n : Nat) :
    Text.trim (String.ofList (' ' :: (Numeral.decimal n).toList)) =
      Numeral.decimal n := by
  have hdigits := Numeral.toList_decimal_ne_nil n
  have htrim :
      Text.trimChars ([' '] ++ (Numeral.decimal n).toList ++ []) =
        (Numeral.decimal n).toList := by
    apply Text.trimChars_eq hdigits
    · rfl
    · rfl
    · exact isBlank_head_decimal hdigits
    · exact isBlank_getLast_decimal hdigits
  rw [List.append_nil] at htrim
  unfold Text.trim
  rw [String.toList_ofList]
  show String.ofList (Text.trimChars ([' '] ++ (Numeral.decimal n).toList)) = _
  rw [htrim, String.ofList_toList]

theorem ofText_lengthLine {n : Nat} (h : n < Numeral.bound64) :
    Header.ofText (lengthLine n ++ "\n") = .length n := by
  have hvalue : (lengthName.toList ++ (Numeral.decimal n).toList).dropWhile (· != ':') =
      ':' :: ' ' :: (Numeral.decimal n).toList := rfl
  have hname : (lengthName.toList ++ (Numeral.decimal n).toList).takeWhile (· != ':') =
      "Content-Length".toList := rfl
  have hsame : Text.sameIgnoringCase
      (Text.trim (String.ofList "Content-Length".toList)) "content-length" = true := by
    decide
  unfold Header.ofText
  rw [toList_trim_lengthLine]
  dsimp only
  rw [hvalue, hname]
  dsimp only
  rw [if_pos hsame, trim_lengthValue, Numeral.natural?_decimal h]

theorem lineFeed_not_mem_decimal (n : Nat) :
    lineFeed ∉ Utf8.encode (Numeral.decimal n) := by
  rw [Utf8.mem_encode_iff (by decide)]
  rintro ⟨c, hc, hfeed⟩
  have hfirst : 48 ≤ c.val.toNat :=
    ((Numeral.isDigit_iff c).mp (Numeral.isDigit_of_mem_decimal hc)).1
  rw [hfeed] at hfirst
  exact absurd hfirst (by decide)

theorem lineFeed_not_mem_lengthLine (n : Nat) :
    lineFeed ∉ Utf8.encode (lengthLine n) := by
  have hname : lineFeed ∉ Utf8.encode lengthName := by decide
  have hreturn : lineFeed ∉ Utf8.encode "\r" := by decide
  unfold lengthLine
  rw [Utf8.encode_append, Utf8.encode_append, List.mem_append, List.mem_append]
  rintro ((hmem | hmem) | hmem)
  · exact hname hmem
  · exact lineFeed_not_mem_decimal n hmem
  · exact hreturn hmem

/-!
## One message
-/

theorem writeMessage_eq (body : String) :
    writeMessage body =
      Utf8.encode (lengthLine (Utf8.encode body).length) ++ lineFeed ::
        ([carriageReturn] ++ lineFeed :: Utf8.encode body) := by
  unfold writeMessage lengthLine
  simp only [Utf8.encode_append, List.append_assoc]
  rfl

theorem ofLine_lengthLine {n : Nat} (h : n < Numeral.bound64) :
    Header.ofLine (Utf8.encode (lengthLine n) ++ [lineFeed]) = .length n := by
  have hbytes : Utf8.encode (lengthLine n) ++ [lineFeed] =
      Utf8.encode (lengthLine n ++ "\n") := by
    rw [Utf8.encode_append]
    rfl
  have hblank : isBlankLine (Utf8.encode (lengthLine n ++ "\n")) = false := by
    unfold lengthLine
    rw [Utf8.encode_append, Utf8.encode_append, Utf8.encode_append]
    rfl
  rw [hbytes, ofLine_of_decode hblank (Utf8.decode_encode _), ofText_lengthLine h]

theorem readBody_encode {body : String}
    (h : (Utf8.encode body).length ≤ maxLength) (rest : List UInt8) :
    readBody (some (Utf8.encode body).length) (Utf8.encode body ++ rest) =
      .ok (body, rest) := by
  have henough :
      ¬ (Utf8.encode body ++ rest).length < (Utf8.encode body).length := by
    rw [List.length_append]
    omega
  unfold readBody
  dsimp only
  rw [if_neg (Nat.not_lt.mpr h), if_neg henough, List.take_left, List.drop_left,
    Utf8.decode_encode]

/-- A written message is read back, and the bytes after it are left over. -/
theorem readMessage_writeMessage {body : String}
    (h : (Utf8.encode body).length ≤ maxLength) (rest : List UInt8) :
    readMessage (writeMessage body ++ rest) = .ok (some (body, rest)) := by
  have hbound : (Utf8.encode body).length < Numeral.bound64 :=
    Nat.lt_of_le_of_lt h (by decide)
  have hblank : lineFeed ∉ [carriageReturn] := by decide
  unfold readMessage
  rw [writeMessage_eq, List.append_assoc, List.cons_append,
    readFrom_ended (lineFeed_not_mem_lengthLine _), ofLine_lengthLine hbound]
  show readFrom true (some (Utf8.encode body).length)
    ([carriageReturn] ++ lineFeed :: (Utf8.encode body ++ rest)) = _
  rw [readFrom_ended hblank]
  show (readBody (some (Utf8.encode body).length) (Utf8.encode body ++ rest)).map some = _
  rw [readBody_encode h]
  rfl

/-!
## Many messages
-/

theorem reads_writeMessage {bodies : List String}
    (h : forall body, body ∈ bodies -> (Utf8.encode body).length ≤ maxLength)
    (rest : List UInt8) : Reads (bodies.flatMap writeMessage ++ rest) bodies rest := by
  induction bodies with
  | nil => exact Reads.nothing rest
  | cons body bodies ih =>
      rw [List.flatMap_cons, List.append_assoc]
      apply Reads.message (readMessage_writeMessage (h body List.mem_cons_self) _)
      exact ih fun other hother => h other (List.mem_cons_of_mem body hother)

/-- Written messages are read back one after the other, whatever their bodies
contain and whatever comes after them.  They are all that is read when nothing
comes after them, and the stream has then come to a clean end. -/
theorem written_read_back (bodies : List String)
    (h : forall body, body ∈ bodies -> body.utf8ByteSize ≤ 104857600)
    (rest : List UInt8) :
    Reads (bodies.flatMap writeMessage ++ rest) bodies rest ∧
      readAll (bodies.flatMap writeMessage ++ rest) =
        (bodies ++ (readAll rest).1, (readAll rest).2) ∧
      (rest = [] ->
        readMessage rest = .ok none ∧
          readAll (bodies.flatMap writeMessage ++ rest) = (bodies, none)) := by
  have hreads : Reads (bodies.flatMap writeMessage ++ rest) bodies rest := by
    apply reads_writeMessage
    intro body hbody
    rw [Utf8.length_encode]
    exact h body hbody
  refine ⟨hreads, hreads.readAll_eq, ?_⟩
  rintro rfl
  refine ⟨readMessage_nil, ?_⟩
  rw [hreads.readAll_eq, readAll_nil, List.append_nil]

/-- A body that looks like a message, an empty one and one with characters of two
and three bytes. -/
def mixed : List String :=
  ["Content-Length: 2\r\n\r\n{}", "", "Übergabe ✓\n"]

theorem written_read_back_mixed :
    (forall body, body ∈ mixed -> body.utf8ByteSize ≤ 104857600) ∧
      Reads (mixed.flatMap writeMessage ++ Utf8.encode "Content-Len") mixed
        (Utf8.encode "Content-Len") := by
  have hsizes : forall body, body ∈ mixed -> body.utf8ByteSize ≤ 104857600 := by
    decide
  exact ⟨hsizes, (written_read_back mixed hsizes _).1⟩

end Framing
end Protocol
end TraceAdapter
