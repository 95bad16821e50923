import TraceAdapter.Proofs.Protocol.RoundTrip
import TraceAdapter.Proofs.Text.Trimming
import TraceAdapter.Proofs.Text.Utf8Reading

/-!
# What a message is

The grammar of a stream is stated on its bytes: blank lines, header lines, a blank
line and a body as long as the last length says.  The reader takes a message
exactly where the grammar has one, and comes to a clean end exactly where there is
nothing but blank lines.
-/

namespace TraceAdapter
namespace Protocol
namespace Framing

/-!
## Header lines

A header line is a text with its end.  It may say a length: a name and a value
stand before and behind its first colon, each between blank characters.
-/

def BlankLine (line : List UInt8) : Prop :=
  line = [lineFeed] ∨ line = [carriageReturn, lineFeed]

/-- A line has the name of the length and this value. -/
def LengthField (line : String) (value : List Char) : Prop :=
  exists before name after,
    Text.Trimmed line.toList (before ++ ':' :: after) ∧ ':' ∉ before ∧
      Text.Trimmed before name ∧
      Text.sameIgnoringCase (String.ofList name) "content-length" = true ∧
      Text.Trimmed after value

/-- A value is a number of sixty-four bits in base ten; a plus sign may stand before
its digits. -/
def LengthValue (value : List Char) (n : Nat) : Prop :=
  exists digits,
    (value = digits ∨ value = '+' :: digits) ∧ Numeral.Digits digits n ∧
      n < Numeral.bound64

/-- A line of text that is not blank, and whose length is a number if it says one. -/
structure HeaderLine (line : String) : Prop where
  ended : exists text : String, '\n' ∉ text.toList ∧ line = text ++ "\n"
  visible : ¬ BlankLine (Utf8.encode line)
  numeric : forall value, LengthField line value -> exists n, LengthValue value n

/-- The last length that header lines say. -/
def LastLength (headers : List String) (n : Nat) : Prop :=
  exists before line after value,
    headers = before ++ line :: after ∧ LengthField line value ∧ LengthValue value n ∧
      forall other, other ∈ after -> forall v, ¬ LengthField other v

theorem LengthField.ofText {line : String} {value : List Char}
    (h : LengthField line value) :
    Header.ofText line =
      match Numeral.natural? 10 Numeral.bound64 (String.ofList value) with
      | some n => .length n
      | none => .fault (.invalidLength (String.ofList value)) := by
  rcases h with ⟨before, name, after, hline, hcolon, hname, hsame, hvalue⟩
  have hpast : forall c, c ∈ before -> (c != ':') = true := by
    intro c hc
    apply bne_iff_ne.mpr
    rintro rfl
    exact hcolon hc
  have hdrop : (before ++ ':' :: after).dropWhile (· != ':') = ':' :: after := by
    rw [List.dropWhile_append_of_pos hpast]
    rfl
  have htake : (before ++ ':' :: after).takeWhile (· != ':') = before := by
    rw [List.takeWhile_append_of_pos hpast]
    simp
  unfold Header.ofText Text.trim
  cases hread : Numeral.natural? 10 Numeral.bound64 (String.ofList value) <;>
    simp only [hline.eq_trimChars, String.toList_ofList, hdrop, htake, hname.eq_trimChars,
      hvalue.eq_trimChars, hsame, if_true, hread]

theorem ofText_of_no_field {line : String} (h : forall value, ¬ LengthField line value) :
    Header.ofText line = .other := by
  unfold Header.ofText Text.trim
  simp only [String.toList_ofList]
  cases hdrop : (Text.trimChars line.toList).dropWhile (· != ':') with
  | nil => rfl
  | cons d after =>
      have hcolon : d = ':' := by
        have hhead := List.head?_dropWhile_not (· != ':') (Text.trimChars line.toList)
        rw [hdrop] at hhead
        simpa using hhead
      subst hcolon
      have hbefore : ':' ∉ (Text.trimChars line.toList).takeWhile (· != ':') := by
        intro hmem
        have hall := List.all_eq_true.mp List.all_takeWhile _ hmem
        simp at hall
      have hline : Text.trimChars line.toList =
          (Text.trimChars line.toList).takeWhile (· != ':') ++ ':' :: after := by
        rw [← hdrop, List.takeWhile_append_dropWhile]
      dsimp only
      rw [if_neg]
      intro hsame
      apply h (Text.trimChars after)
      refine ⟨_, _, after, ?_, hbefore, Text.trimmed_trimChars _, hsame,
        Text.trimmed_trimChars after⟩
      rw [← hline]
      exact Text.trimmed_trimChars line.toList

theorem ofText_eq_length {line : String} {value : List Char} {n : Nat}
    (hfield : LengthField line value) (hvalue : LengthValue value n) :
    Header.ofText line = .length n := by
  rw [hfield.ofText, Numeral.natural?_eq_some_iff.mpr hvalue]

/-- The only fault of a line of text is a length that is no number. -/
theorem invalid_of_ofText {line : String} {e : FrameError}
    (h : Header.ofText line = .fault e) : exists shown, e = .invalidLength shown := by
  by_cases hfield : exists value, LengthField line value
  · rcases hfield with ⟨value, hvalue⟩
    rw [hvalue.ofText] at h
    cases hread : Numeral.natural? 10 Numeral.bound64 (String.ofList value) with
    | none =>
        rw [hread] at h
        cases h
        exact ⟨_, rfl⟩
    | some m =>
        rw [hread] at h
        cases h
  · rw [ofText_of_no_field (not_exists.mp hfield)] at h
    cases h

theorem exists_value_of_ofText {line : String}
    (h : forall e, Header.ofText line ≠ .fault e) {value : List Char}
    (hfield : LengthField line value) : exists n, LengthValue value n := by
  cases hread : Numeral.natural? 10 Numeral.bound64 (String.ofList value) with
  | none =>
      exfalso
      apply h (.invalidLength (String.ofList value))
      rw [hfield.ofText, hread]
  | some n => exact ⟨n, Numeral.natural?_eq_some_iff.mp hread⟩

/-!
## Lines of bytes
-/

theorem isBlankLine_iff {line : List UInt8} : isBlankLine line = true ↔ BlankLine line := by
  simp [isBlankLine, BlankLine]

theorem ofLine_of_blank {line : List UInt8} (h : BlankLine line) :
    Header.ofLine line = .blank := by
  unfold Header.ofLine
  rw [if_pos (isBlankLine_iff.mpr h)]

theorem ofLine_of_text {line : String} (h : ¬ BlankLine (Utf8.encode line)) :
    Header.ofLine (Utf8.encode line) = Header.ofText line := by
  apply ofLine_of_decode
  · rw [← Bool.not_eq_true, isBlankLine_iff]
    exact h
  · exact Utf8.decode_encode line

theorem ofLine_eq_headerText_iff {line : List UInt8} :
    (exists fault, Header.ofLine line = .fault (.headerText fault)) ↔
      forall text, line ≠ Utf8.encode text := by
  constructor
  · rintro ⟨fault, h⟩ text rfl
    by_cases hblank : BlankLine (Utf8.encode text)
    · rw [ofLine_of_blank hblank] at h
      cases h
    · rw [ofLine_of_text hblank] at h
      rcases invalid_of_ofText h with ⟨shown, heq⟩
      cases heq
  · intro h
    have hvisible : ¬ BlankLine line := by
      rintro (hline | hline)
      · exact h "\n" hline
      · exact h "\r\n" hline
    rcases Utf8.exists_decode_eq_error_iff.mpr h with ⟨fault, hdecode⟩
    refine ⟨fault, ?_⟩
    unfold Header.ofLine
    rw [if_neg (by rwa [isBlankLine_iff]), hdecode]

theorem not_mem_of_blank {line : List UInt8} (h : BlankLine line) :
    exists front, lineFeed ∉ front ∧ line = front ++ [lineFeed] := by
  rcases h with rfl | rfl
  · exact ⟨[], by simp, rfl⟩
  · exact ⟨[carriageReturn], by decide, rfl⟩

theorem lineFeed_mem_encode_iff (text : String) :
    lineFeed ∈ Utf8.encode text ↔ '\n' ∈ text.toList := by
  rw [Utf8.mem_encode_iff (by decide)]
  constructor
  · rintro ⟨c, hc, hfeed⟩
    have hchar : c = '\n' := Char.ext (UInt32.toNat_inj.mp hfeed)
    rwa [← hchar]
  · intro h
    exact ⟨'\n', h, rfl⟩

theorem HeaderLine.exists_front {line : String} (h : HeaderLine line) :
    exists front, lineFeed ∉ front ∧ Utf8.encode line = front ++ [lineFeed] := by
  rcases h.ended with ⟨text, htext, rfl⟩
  refine ⟨Utf8.encode text, ?_, ?_⟩
  · rw [lineFeed_mem_encode_iff]
    exact htext
  · rw [Utf8.encode_append]
    rfl

theorem exists_headerLine {front : List UInt8} (hfront : lineFeed ∉ front)
    (hblank : ¬ BlankLine (front ++ [lineFeed]))
    (hfault : forall e, Header.ofLine (front ++ [lineFeed]) ≠ .fault e) :
    exists line, HeaderLine line ∧ front ++ [lineFeed] = Utf8.encode line := by
  by_cases htext : exists line, front ++ [lineFeed] = Utf8.encode line
  · rcases htext with ⟨line, hline⟩
    refine ⟨line, ?_, hline⟩
    rw [hline] at hblank hfault
    constructor
    · -- The end of the line is one of its characters, and the last one.
      have hlast : '\n' ∈ line.toList := by
        rw [← lineFeed_mem_encode_iff, ← hline]
        simp
      rcases List.eq_append_cons_of_mem hlast with ⟨before, after, hsplit, hbefore⟩
      have hbytes : Utf8.encode line =
          Utf8.encode (String.ofList before) ++ lineFeed ::
            Utf8.encode (String.ofList after) := by
        unfold Utf8.encode
        rw [hsplit]
        simp [lineFeed, String.utf8EncodeChar]
      have hfirst : lineFeed ∉ Utf8.encode (String.ofList before) := by
        rw [lineFeed_mem_encode_iff, String.toList_ofList]
        exact hbefore
      have hsame := splitLine_ended hfront []
      rw [hline, hbytes, splitLine_ended hfirst] at hsame
      have hnothing : Utf8.encode (String.ofList after) = [] := congrArg Prod.snd hsame
      have hafter : after = [] := by
        have hread := Utf8.decode_encode (String.ofList after)
        rw [hnothing] at hread
        have htexts : String.ofList [] = String.ofList after := Except.ok.inj hread
        rw [← String.toList_ofList (l := after), ← htexts, String.toList_ofList]
      refine ⟨String.ofList before, ?_, ?_⟩
      · rw [String.toList_ofList]
        exact hbefore
      · rw [hafter] at hsplit
        apply String.toList_inj.mp
        rw [hsplit, String.toList_append, String.toList_ofList]
        rfl
    · exact hblank
    · intro value hfield
      rw [ofLine_of_text hblank] at hfault
      exact exists_value_of_ofText hfault hfield
  · rcases ofLine_eq_headerText_iff.mpr (not_exists.mp htext) with ⟨fault, h⟩
    exact absurd h (hfault _)

/-!
## Streams

A message has blank lines before it.  A stream without one has nothing but blank
lines, or a fault; the first fault may be a line that is no text.
-/

def Front (bytes : List UInt8) (headers : List String) : Prop :=
  exists blanks : List (List UInt8),
    bytes = blanks.flatten ++ headers.flatMap Utf8.encode ∧
      (forall line, line ∈ blanks -> BlankLine line) ∧
      forall line, line ∈ headers -> HeaderLine line

def OnlyBlank (bytes : List UInt8) : Prop :=
  exists blanks : List (List UInt8),
    bytes = blanks.flatten ∧ forall line, line ∈ blanks -> BlankLine line

/-- A message with its body, and the bytes behind it. -/
def Message (bytes : List UInt8) (body : String) (rest : List UInt8) : Prop :=
  exists front headers closing,
    bytes = front ++ closing ++ Utf8.encode body ++ rest ∧
      Front front headers ∧ BlankLine closing ∧
      LastLength headers (Utf8.encode body).length ∧
      (Utf8.encode body).length ≤ 104857600

/-- A line with its end, or without one where the stream ends. -/
def WholeLine (line rest : List UInt8) : Prop :=
  (exists front, lineFeed ∉ front ∧ line = front ++ [lineFeed]) ∨
    lineFeed ∉ line ∧ rest = []

/-- The first fault is a line that is no text. -/
def Garbled (bytes : List UInt8) : Prop :=
  exists front headers line rest,
    bytes = front ++ line ++ rest ∧ Front front headers ∧ WholeLine line rest ∧
      forall text, line ≠ Utf8.encode text

end Framing
end Protocol
end TraceAdapter
