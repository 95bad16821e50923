import TraceAdapter.Protocol.Stream

/-!
# Reading a stream line by line

The reader takes a stream apart at the ends of its lines.  What it makes of a
line that has its end does not depend on the bytes after it, and no message ends
in a line without one.  So a message that was read once is read again, and the
same bytes are left over, whatever comes later.
-/

namespace TraceAdapter
namespace Protocol
namespace Framing

/-!
## Lines
-/

theorem splitLine_ended {line : List UInt8} (h : lineFeed ∉ line)
    (rest : List UInt8) :
    splitLine (line ++ lineFeed :: rest) = (line ++ [lineFeed], rest) := by
  induction line with
  | nil => simp [splitLine]
  | cons b line ih =>
      rw [List.mem_cons, not_or] at h
      rcases h with ⟨hb, hline⟩
      rw [List.cons_append, splitLine, if_neg (Ne.symm hb), ih hline]
      rfl

theorem splitLine_unended {bytes : List UInt8} (h : lineFeed ∉ bytes) :
    splitLine bytes = (bytes, []) := by
  induction bytes with
  | nil => rfl
  | cons b rest ih =>
      rw [List.mem_cons, not_or] at h
      rcases h with ⟨hb, hrest⟩
      rw [splitLine, if_neg (Ne.symm hb), ih hrest]

/-- A stream has no end of a line, or it is a line with its end before another
stream. -/
@[elab_as_elim]
theorem stream_induction {motive : List UInt8 -> Prop}
    (unended : forall bytes, lineFeed ∉ bytes -> motive bytes)
    (ended : forall line rest, lineFeed ∉ line -> motive rest ->
      motive (line ++ lineFeed :: rest))
    (bytes : List UInt8) : motive bytes := by
  induction hlength : bytes.length using Nat.strongRecOn generalizing bytes with
  | ind length ih =>
      by_cases hend : lineFeed ∈ bytes
      · rcases List.eq_append_cons_of_mem hend with ⟨line, rest, rfl, hline⟩
        apply ended line rest hline
        apply ih rest.length _ rest rfl
        rw [← hlength, List.length_append, List.length_cons]
        omega
      · exact unended bytes hend

/-!
## One line of the reader
-/

def afterLine (started : Bool) (length : Option Nat) (rest : List UInt8) :
    Header -> Except FrameError (Option (String × List UInt8))
  | .blank =>
      if started then (readBody length rest).map some else readFrom false length rest
  | .length n => readFrom true (some n) rest
  | .other => readFrom true length rest
  | .fault e => .error e

theorem readFrom_ended {line : List UInt8} (h : lineFeed ∉ line) (started : Bool)
    (length : Option Nat) (rest : List UInt8) :
    readFrom started length (line ++ lineFeed :: rest) =
      afterLine started length rest (Header.ofLine (line ++ [lineFeed])) := by
  have hsplit := splitLine_ended h rest
  cases hbytes : line ++ lineFeed :: rest with
  | nil => simp at hbytes
  | cons b tail =>
      rw [hbytes] at hsplit
      rw [readFrom, hsplit]
      cases Header.ofLine (line ++ [lineFeed]) with
      | blank => rfl
      | length n => rfl
      | other => rfl
      | fault e => rfl

theorem ofText_ne_blank (text : String) : Header.ofText text ≠ .blank := by
  unfold Header.ofText
  dsimp only
  split
  · simp
  · split
    · split
      · simp
      · simp
    · simp

theorem ofLine_of_decode {line : List UInt8} {text : String}
    (h : isBlankLine line = false) (hdecode : Utf8.decode line = .ok text) :
    Header.ofLine line = Header.ofText text := by
  unfold Header.ofLine
  rw [h, if_neg Bool.false_ne_true, hdecode]

theorem isBlankLine_unended {line : List UInt8} (h : lineFeed ∉ line) :
    isBlankLine line = false := by
  unfold isBlankLine
  rw [Bool.or_eq_false_iff, decide_eq_false_iff_not, decide_eq_false_iff_not]
  constructor
  · rintro rfl
    exact h List.mem_cons_self
  · rintro rfl
    exact h (List.mem_cons_of_mem _ List.mem_cons_self)

theorem ofLine_unended_ne_blank {line : List UInt8} (h : lineFeed ∉ line) :
    Header.ofLine line ≠ .blank := by
  cases hdecode : Utf8.decode line with
  | error fault =>
      unfold Header.ofLine
      rw [isBlankLine_unended h, if_neg Bool.false_ne_true, hdecode]
      simp
  | ok text =>
      rw [ofLine_of_decode (isBlankLine_unended h) hdecode]
      exact ofText_ne_blank text

theorem readFrom_unended {bytes : List UInt8} (h : lineFeed ∉ bytes)
    (started : Bool) (length : Option Nat) (body : String) (rest : List UInt8) :
    readFrom started length bytes ≠ .ok (some (body, rest)) := by
  cases bytes with
  | nil =>
      rw [readFrom]
      cases started <;> simp
  | cons b tail =>
      rw [readFrom, splitLine_unended h]
      cases hheader : Header.ofLine (b :: tail) with
      | blank => exact absurd hheader (ofLine_unended_ne_blank h)
      | length n => simp [readFrom]
      | other => simp [readFrom]
      | fault e => simp

/-!
## Later bytes
-/

theorem readBody_append {length : Option Nat} {bytes rest : List UInt8}
    {body : String} (h : readBody length bytes = .ok (body, rest))
    (late : List UInt8) : readBody length (bytes ++ late) = .ok (body, rest ++ late) := by
  unfold readBody at h ⊢
  cases length with
  | none => cases h
  | some n =>
      dsimp only at h ⊢
      by_cases hlong : maxLength < n
      · rw [if_pos hlong] at h
        cases h
      · by_cases hclosed : bytes.length < n
        · rw [if_neg hlong, if_pos hclosed] at h
          cases h
        · have henough : ¬ (bytes ++ late).length < n := by
            rw [List.length_append]
            omega
          rw [if_neg hlong, if_neg hclosed] at h
          rw [if_neg hlong, if_neg henough,
            List.take_append_of_le_length (Nat.not_lt.mp hclosed),
            List.drop_append_of_le_length (Nat.not_lt.mp hclosed)]
          cases hdecode : Utf8.decode (bytes.take n) with
          | error fault =>
              rw [hdecode] at h
              cases h
          | ok text =>
              rw [hdecode] at h
              cases h
              rfl

theorem readFrom_append {started : Bool} {length : Option Nat}
    {bytes rest : List UInt8} {body : String}
    (h : readFrom started length bytes = .ok (some (body, rest)))
    (late : List UInt8) :
    readFrom started length (bytes ++ late) = .ok (some (body, rest ++ late)) := by
  induction bytes using stream_induction generalizing started length with
  | unended bytes hend => exact absurd h (readFrom_unended hend started length body rest)
  | ended line between hline ih =>
      rw [List.append_assoc, List.cons_append]
      rw [readFrom_ended hline] at h ⊢
      cases hheader : Header.ofLine (line ++ [lineFeed]) with
      | blank =>
          rw [hheader] at h
          cases started with
          | false => exact ih h
          | true =>
              show (readBody length (between ++ late)).map some = _
              change (readBody length between).map some = _ at h
              cases hbody : readBody length between with
              | error e =>
                  rw [hbody] at h
                  cases h
              | ok read =>
                  rw [hbody] at h
                  cases h
                  rw [readBody_append hbody]
                  rfl
      | length n =>
          rw [hheader] at h
          exact ih h
      | other =>
          rw [hheader] at h
          exact ih h
      | fault e =>
          rw [hheader] at h
          cases h

theorem readMessage_append {bytes rest : List UInt8} {body : String}
    (h : readMessage bytes = .ok (some (body, rest))) (late : List UInt8) :
    readMessage (bytes ++ late) = .ok (some (body, rest ++ late)) :=
  readFrom_append h late

/-!
## Messages one after the other
-/

/-- Bodies that are read one after the other, and the bytes that are still to come
then. -/
inductive Reads : List UInt8 -> List String -> List UInt8 -> Prop where
  | nothing (bytes : List UInt8) : Reads bytes [] bytes
  | message {bytes between rest : List UInt8} {body : String} {bodies : List String} :
      readMessage bytes = .ok (some (body, between)) ->
      Reads between bodies rest ->
      Reads bytes (body :: bodies) rest

theorem Reads.append {bytes rest : List UInt8} {bodies : List String}
    (h : Reads bytes bodies rest) (late : List UInt8) :
    Reads (bytes ++ late) bodies (rest ++ late) := by
  induction h with
  | nothing bytes => exact Reads.nothing (bytes ++ late)
  | message hread _hrest ih => exact Reads.message (readMessage_append hread late) ih

theorem readMessage_nil : readMessage [] = .ok none := by
  unfold readMessage
  rw [readFrom]
  rfl

theorem readAll_nil : readAll [] = ([], none) := by
  rw [readAll]
  split
  · rename_i e hread
    cases readMessage_nil.symm.trans hread
  · rfl
  · rename_i body rest hread
    cases readMessage_nil.symm.trans hread

theorem readAll_of_message {bytes rest : List UInt8} {body : String}
    (h : readMessage bytes = .ok (some (body, rest))) :
    readAll bytes = (body :: (readAll rest).1, (readAll rest).2) := by
  rw [readAll]
  split
  · rename_i e hread
    cases h.symm.trans hread
  · rename_i hread
    cases h.symm.trans hread
  · rename_i body' rest' hread
    cases h.symm.trans hread
    rfl

theorem Reads.readAll_eq {bytes rest : List UInt8} {bodies : List String}
    (h : Reads bytes bodies rest) :
    readAll bytes = (bodies ++ (readAll rest).1, (readAll rest).2) := by
  induction h with
  | nothing bytes => rfl
  | message hread _hrest ih =>
      rw [readAll_of_message hread, ih]
      rfl

theorem exists_reads_readAll (bytes : List UInt8) :
    exists rest, Reads bytes (readAll bytes).1 rest := by
  fun_induction readAll bytes with
  | case1 bytes e hread => exact ⟨bytes, Reads.nothing bytes⟩
  | case2 bytes hread => exact ⟨bytes, Reads.nothing bytes⟩
  | case3 bytes body between hread bodies ending hall ih =>
      rw [hall] at ih
      rcases ih with ⟨rest, hrest⟩
      exact ⟨rest, Reads.message hread hrest⟩

end Framing
end Protocol
end TraceAdapter
