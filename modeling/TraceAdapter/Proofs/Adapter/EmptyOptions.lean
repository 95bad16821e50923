import TraceAdapter.Adapter.Conversation
import TraceAdapter.Proofs.Adapter.Asking
import TraceAdapter.Proofs.Protocol.EmptyOptions

/-!
# Empty options of launches

A launch does the same with the empty ones among its arguments left out.  So empty
options in launch requests never show, neither in what these requests come to nor in
what any later request comes to.
-/

namespace TraceAdapter

open Protocol (LaunchArguments Request)
open Protocol.LaunchArguments (nonEmpty? SameGiven)

variable {ω σ : Type}

namespace Launch

/-!
## Launches without empty arguments
-/

theorem ofArguments_given (a : LaunchArguments) :
    Addressing.ofArguments a.given = Addressing.ofArguments a := by
  unfold Addressing.ofArguments LaunchArguments.given
  simp only [LaunchArguments.nonEmpty?_nonEmpty?]

theorem rpcUrl_given (defaults : LaunchDefaults) (a : LaunchArguments) :
    rpcUrl defaults a.given = rpcUrl defaults a := by
  unfold rpcUrl LaunchArguments.given
  rw [LaunchArguments.nonEmpty?_nonEmpty?]

theorem deployRequest_given (defaults : LaunchDefaults) (a : LaunchArguments)
    (file : String) : deployRequest defaults a.given file = deployRequest defaults a file := by
  have hport : forkPort defaults a.given = forkPort defaults a := rfl
  have hurl : nonEmpty? a.given.forkUrl = nonEmpty? a.forkUrl :=
    LaunchArguments.nonEmpty?_nonEmpty? a.forkUrl
  unfold deployRequest
  rw [hport, rpcUrl_given, hurl]
  rfl

theorem targetAt_given (defaults : LaunchDefaults) (a : LaunchArguments)
    (address ethdebugDir : String) :
    targetAt defaults a.given address ethdebugDir = targetAt defaults a address ethdebugDir := by
  have habi : nonEmpty? a.given.abiPath = nonEmpty? a.abiPath :=
    LaunchArguments.nonEmpty?_nonEmpty? a.abiPath
  unfold targetAt
  rw [rpcUrl_given, LaunchArguments.functionName?_given, LaunchArguments.arguments_given, habi]

theorem targetOf_given (defaults : LaunchDefaults) (a : LaunchArguments) :
    targetOf defaults a.given = targetOf defaults a := by
  funext d
  unfold targetOf
  rw [targetAt_given]

theorem findTarget_given (c : Collaborators ω σ) (a : LaunchArguments) :
    findTarget c a.given = findTarget c a := by
  unfold findTarget
  simp only [ofArguments_given, targetAt_given, deployRequest_given, targetOf_given]

theorem launch_given [Debugger σ] (c : Collaborators ω σ) (a : LaunchArguments) :
    launch c a.given = launch c a := by
  unfold launch
  rw [findTarget_given]
  rfl

end Launch

namespace Adapter

/-!
## Requests
-/

/-- Two requests are the same, or they launch with the same options given. -/
inductive SameOptions : Request -> Request -> Prop where
  | refl (r : Request) : SameOptions r r
  | launch (seq : Nat) {entries entries' : List (String × Json.Value)}
      (h : SameGiven entries entries') :
      SameOptions ⟨seq, "launch", some (.object entries)⟩
        ⟨seq, "launch", some (.object entries')⟩

variable [Debugger σ]

theorem launch_of_given {a b : LaunchArguments} (h : a.given = b.given)
    (c : Launch.Collaborators ω σ) (s : Session σ) : launch c s a = launch c s b := by
  apply launch_of_same_outcome
  rw [← Launch.launch_given c a, h, Launch.launch_given]

theorem handle_of_sameOptions {r r' : Request} (h : SameOptions r r')
    (c : Launch.Collaborators ω σ) (s : Session σ) : handle c s r = handle c s r' := by
  cases h with
  | refl => rfl
  | launch seq hsame =>
      rw [handle_launch_object, handle_launch_object]
      have halike := hsame.alike_decode
      revert halike
      generalize Json.ofValue LaunchArguments.decode (.object _) = read
      generalize Json.ofValue LaunchArguments.decode (.object _) = read'
      intro halike
      cases halike with
      | fault e => rfl
      | made hgiven => exact launch_of_given hgiven c s

theorem dispatch_of_sameOptions {r r' : Request} (h : SameOptions r r')
    (v : Conversation ω σ) : v.dispatch r = v.dispatch r' := by
  unfold Conversation.dispatch
  rw [handle_of_sameOptions h]
  cases h with
  | refl => rfl
  | launch seq _ => rfl

/-!
## Runs
-/

/-- Where launch requests differ only in options that are null, empty or blank in the one
and absent, null, empty or blank in the other, all requests of two runs come to the same,
and conversations that answer them stay the same. -/
theorem handleAll_of_sameOptions {requests requests' : List Request}
    (h : List.Forall₂ SameOptions requests requests') (c : Launch.Collaborators ω σ)
    (s : Session σ) (v : Conversation ω σ) :
    handleAll c s requests = handleAll c s requests' ∧
      requests.foldl (fun v r => (v.dispatch r).1) v =
        requests'.foldl (fun v r => (v.dispatch r).1) v := by
  induction h generalizing c s v with
  | nil => exact ⟨rfl, rfl⟩
  | @cons r r' _ _ hfirst _ ih =>
      rcases ih (c.after (handle c s r').world?) (handle c s r').session (v.dispatch r').1 with
        ⟨hrest, hanswered⟩
      rw [handleAll, handleAll, List.foldl_cons, List.foldl_cons, handle_of_sameOptions hfirst,
        dispatch_of_sameOptions hfirst]
      refine ⟨?_, hanswered⟩
      rw [hrest]

namespace Sample

def form : Request where
  seq := 1
  command := "launch"
  arguments :=
    some <| .object
      [("contractFile", .string ""), ("contractAddress", .string "0x01"),
        ("ethdebugDir", .string "out"), ("rpc", .string ""), ("forkBlock", .string " "),
        ("forkPort", .null), ("function", .string ""), ("function_args", .array [])]

def plain : Request where
  seq := 1
  command := "launch"
  arguments :=
    some <| .object
      [("contractAddress", .string "0x01"), ("ethdebugDir", .string "out"),
        ("functionArgs", .array [])]

end Sample

/-- A form with empty fields launches like one without them, and live sessions come of
both. -/
theorem handleAll_of_form :
    handleAll Sample.deployers {} [Sample.form, ⟨2, "next", none⟩] =
        handleAll Sample.deployers {} [Sample.plain, ⟨2, "next", none⟩] ∧
      (sessionAfter Sample.deployers {} [Sample.plain, ⟨2, "next", none⟩]).isLive = true := by
  have hsame : LaunchArguments.SameGiven
      [("contractFile", .string ""), ("contractAddress", .string "0x01"),
        ("ethdebugDir", .string "out"), ("rpc", .string ""), ("forkBlock", .string " "),
        ("forkPort", .null), ("function", .string ""), ("function_args", .array [])]
      [("contractAddress", .string "0x01"), ("ethdebugDir", .string "out"),
        ("functionArgs", .array [])] :=
    ⟨by decide, by decide, rfl⟩
  have hruns := handleAll_of_sameOptions
    (.cons (.launch 1 hsame) (.cons (.refl ⟨2, "next", none⟩) .nil)) Sample.deployers {}
    { collaborators := Sample.deployers }
  exact ⟨hruns.1, rfl⟩

end Adapter
end TraceAdapter
