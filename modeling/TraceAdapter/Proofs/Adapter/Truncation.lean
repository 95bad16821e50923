import TraceAdapter.Proofs.Adapter.Transcript
import TraceAdapter.Proofs.Protocol.Reading

/-!
# Streams that are cut off

A stream may be cut off at any byte.  A message is taken from what arrived only
when all of it arrived, and it is then the message of the whole stream.  So what
a client is sent on the bytes that arrived is the beginning of what it would be
sent on all of them.
-/

namespace TraceAdapter
namespace Conversation

open Protocol (Request)
open Protocol.Framing (Reads readAll)

variable {ω σ : Type}

/-!
## Bodies and requests
-/

theorem bodies_append (arrived late : List UInt8) :
    (readAll arrived).1 <+: (readAll (arrived ++ late)).1 := by
  rcases Protocol.Framing.exists_reads_readAll arrived with ⟨rest, hreads⟩
  rw [(hreads.append late).readAll_eq]
  exact List.prefix_append _ _

theorem requestsIn_append (arrived late : List UInt8) :
    requestsIn arrived <+: requestsIn (arrived ++ late) :=
  (bodies_append arrived late).filterMap request?

theorem upToEnd_append (requests later : List Request) :
    upToEnd requests <+: upToEnd (requests ++ later) := by
  induction requests with
  | nil => exact List.nil_prefix
  | cons r rest ih =>
      rw [List.cons_append, upToEnd, upToEnd]
      split
      · exact List.prefix_refl [r]
      · exact (List.prefix_cons_inj r).mpr ih

/-!
## What is written
-/

variable [Debugger σ]

theorem written_dispatchAll (v : Conversation ω σ) (requests : List Request) :
    v.written <+: (v.dispatchAll requests).written := by
  rw [(dispatchAll_spec v requests).2.1]
  exact List.prefix_append _ _

theorem written_dispatchAll_append (v : Conversation ω σ)
    (requests later : List Request) :
    (v.dispatchAll requests).written <+: (v.dispatchAll (requests ++ later)).written := by
  have hsplit : v.dispatchAll (requests ++ later) =
      (v.dispatchAll requests).dispatchAll later := by
    unfold dispatchAll
    rw [List.foldl_append]
  rw [hsplit]
  exact written_dispatchAll _ later

/-- A stream that is cut off anywhere gives the first bodies of the whole stream
and no other, each from the same bytes, and a conversation writes on it the
beginning of what it writes on the whole stream. -/
theorem cut_off_prefix (v : Conversation ω σ) (arrived late : List UInt8) :
    (readAll arrived).1 <+: (readAll (arrived ++ late)).1 ∧
      (forall bodies rest, Reads arrived bodies rest ->
        Reads (arrived ++ late) bodies (rest ++ late)) ∧
      (v.run arrived).written <+: (v.run (arrived ++ late)).written := by
  refine ⟨bodies_append arrived late, fun bodies rest h => h.append late, ?_⟩
  rcases requestsIn_append arrived late with ⟨later, hlater⟩
  rcases upToEnd_append (requestsIn arrived) later with ⟨more, hmore⟩
  rw [run_eq, run_eq, ← hlater, ← hmore]
  exact written_dispatchAll_append v _ more

end Conversation
end TraceAdapter
