import TraceAdapter.Proofs.Adapter.Asking
import TraceAdapter.Proofs.Deploy.ReadingBack
import TraceAdapter.Proofs.Json.Integers
import TraceAdapter.Proofs.Protocol.ForkOptions

/-!
# Fork numbers on their way

The block and the port of a fork come as numbers or as texts, are kept as natural numbers
and are written on a command line in base ten.  Each way of giving a number ends in the
same words, and a number that does not fit somewhere on the way ends the launch.
-/

namespace TraceAdapter

open Numeral (decimal)
open Protocol (ForkOption LaunchArguments)
open Protocol.LaunchArguments (Gives nonEmpty? withoutKey)

variable {ω σ : Type}

/-!
## Command lines
-/

namespace Protocol.ForkOption

def flag : ForkOption -> String
  | block => "--fork-block"
  | port => "--fork-port"

def asked? : ForkOption -> DeployRequest -> Option Nat
  | block, r => r.forkBlock
  | port, r => some r.forkPort

def said? : ForkOption -> Order -> Option String
  | block, order => order.forkBlock
  | port, order => some order.forkPort

variable {o : ForkOption} {r : DeployRequest} {n : Nat}

theorem asked?_of_request {defaults : LaunchDefaults} {a : LaunchArguments} {file : String}
    (hrequest : Launch.deployRequest defaults a file = .ok r) (h : o.of? a = some n) :
    o.asked? r = some n := by
  rcases Launch.deployRequest_ok hrequest with ⟨hblock, hport⟩
  cases o with
  | block => exact hblock.trans h
  | port =>
      have hgiven : a.forkPort = some n := h
      show some r.forkPort = some n
      rw [hport, hgiven]
      rfl

theorem said?_order (h : o.asked? r = some n) : o.said? r.order = some (decimal n) := by
  cases o with
  | block =>
      have hblock : r.forkBlock = some n := h
      show r.forkBlock.map decimal = _
      rw [hblock]
      rfl
  | port =>
      cases h
      rfl

theorem exists_words (order : Order) :
    exists front back, order.words =
      front ++ (Order.valueWords "--fork-block" order.forkBlock ++
        (["--fork-port", order.forkPort] ++ back)) := by
  refine ⟨["--contract-file", order.contractFile, "--rpc", order.rpcUrl] ++
      (order.constructorWords.flatMap fun w => ["--constructor-arg", w]) ++
      Order.valueWords "--fork-url" order.forkUrl,
    Order.flagWords "--reuse-fork" order.reuseFork ++
      Order.flagWords "--keep-fork" order.keepFork ++
      Order.flagWords "--no-snapshot" order.noSnapshot, ?_⟩
  unfold Order.words
  simp only [List.append_assoc]

theorem infix_words {order : Order} {w : String} (h : o.said? order = some w) :
    [o.flag, w] <:+: order.words := by
  rcases exists_words order with ⟨front, back, hwords⟩
  rw [hwords]
  cases o with
  | block =>
      have hblock : order.forkBlock = some w := h
      rw [hblock]
      exact ⟨front, ["--fork-port", order.forkPort] ++ back, List.append_assoc _ _ _⟩
  | port =>
      cases h
      refine ⟨front ++ Order.valueWords "--fork-block" order.forkBlock, back, ?_⟩
      simp only [List.append_assoc]
      rfl

end Protocol.ForkOption

namespace Adapter

/-!
## Requests that launch
-/

/-- What becomes of a number for an option of the fork in a launch that could deploy: the
launch ends before it asks for anything if the port does not fit into sixteen bits, and
else it asks for a deployment with the number in base ten on the command line. -/
inductive Forwarded (o : ForkOption) (n : Nat) (port? : Option Nat) : Handled ω σ -> Prop where
  | refused {h : Handled ω σ} {port : Nat} (hport : port? = some port)
      (hlarge : Numeral.bound16 ≤ port)
      (hresult : h.result = .error (.launchConfig (.badForkPort port)))
      (hcalls : h.calls = []) : Forwarded o n port? h
  | deployed {h : Handled ω σ} {request : DeployRequest} {later : List Launch.Call}
      (hfits : forall port, port? = some port -> port < Numeral.bound16)
      (hcalls : h.calls = .deploy request :: later)
      (hwords : forall t : DeployTool, [o.flag, decimal n] <:+: t.commandLine request)
      (hsaid : forall t : DeployTool, exists order,
        Order.ofWords? ((t.commandLine request).drop t.words.length) = some order ∧
          o.said? order = some (decimal n)) :
      Forwarded o n port? h

variable [Debugger σ] {c : Launch.Collaborators ω σ} {a : LaunchArguments}

theorem forwarded_launch {o : ForkOption} {n : Nat} (hnumber : o.of? a = some n)
    (hfile : (nonEmpty? a.contractFile).isSome = true)
    (hdeploy : c.deploy?.isSome = true) (s : Session σ) :
    Forwarded o n a.forkPort (launch c s a) := by
  rcases Option.isSome_iff_exists.mp hfile with ⟨file, hfile⟩
  have hcalls : (launch c s a).calls = (Launch.launch c a).calls := (launch_does c s a).1
  rw [Launch.launch_calls] at hcalls
  have hfound := Launch.findTarget_found c a
  generalize hsearch : Launch.findTarget c a = search at hcalls hfound
  cases hfound with
  | missing haddressing =>
      rw [Launch.ofArguments_eq_deploy_iff.mpr hfile] at haddressing
      cases haddressing
  | attached haddressing =>
      rw [Launch.ofArguments_eq_deploy_iff.mpr hfile] at haddressing
      cases haddressing
  | helpless _ hnone =>
      rw [hnone] at hdeploy
      cases hdeploy
  | refused _ _ hrequest =>
      rcases Launch.deployRequest_eq_error_iff.mp hrequest with ⟨port, hport, hlarge, rfl⟩
      refine Forwarded.refused hport hlarge ?_ hcalls
      rw [launch_result]
      unfold Launch.launch
      rw [hsearch]
  | @deployed _ _ request _ _ hrequest =>
      have hsaid := ForkOption.said?_order (ForkOption.asked?_of_request hrequest hnumber)
      apply Forwarded.deployed (fun _ => Launch.forkPort_lt_of_request hrequest) hcalls
      · intro t
        exact (ForkOption.infix_words hsaid).trans (List.suffix_append t.words _).isInfix
      · intro t
        exact ⟨request.order, DeployTool.ofWords?_commandLine t request, hsaid⟩

/-- What an entry for an option of the fork does in the arguments of a launch. -/
structure KeepsForkNumber (c : Launch.Collaborators ω σ) (s : Session σ) (o : ForkOption)
    (seq : Nat) (entries : List (String × Json.Value)) (v : Json.Value) : Prop where
  reads : forall n?, Gives v n? ->
    Json.ofValue LaunchArguments.decode (.object entries) =
      (Json.ofValue LaunchArguments.decode (.object (withoutKey o.name entries))).map (o.set n?)
  refuses : (forall n?, ¬ Gives v n?) ->
    exists cause, handle c s ⟨seq, "launch", some (.object entries)⟩ =
      observe s (.error (.invalidArguments "launch" cause))
  plain : forall (f : Json.Figures) x, f.number? = some x -> v = .number x ->
    forall n, Gives v (some n) ↔ f.Plain n
  forwards : forall n a, Gives v (some n) ->
    Json.ofValue LaunchArguments.decode (.object entries) = .ok a ->
    (nonEmpty? a.contractFile).isSome = true -> c.deploy?.isSome = true ->
    o.of? a = some n ∧
      Forwarded o n a.forkPort (handle c s ⟨seq, "launch", some (.object entries)⟩)

/-- Numbers of a fork are never altered, in whichever of their spellings they are
given. -/
theorem keepsForkNumber (c : Launch.Collaborators ω σ) (s : Session σ) (o : ForkOption)
    (seq : Nat) {entries : List (String × Json.Value)} {v : Json.Value}
    (hdistinct : (entries.map Prod.fst).Nodup) (hmem : (o.name, v) ∈ entries) :
    KeepsForkNumber c s o seq entries v where
  reads := fun _ h => LaunchArguments.decode_of_gives hdistinct hmem h
  refuses := by
    intro h
    rcases LaunchArguments.decode_of_not_gives hdistinct hmem h with ⟨cause, hcause⟩
    refine ⟨cause, ?_⟩
    rw [handle_launch_object, hcause]
  plain := by
    intro f x hx hv n
    rw [hv]
    constructor
    · intro h
      rw [← Json.Figures.number?_eq_nat_iff, hx]
      cases h
      rfl
    · intro hplain
      have hint := Json.Figures.number?_eq_nat_iff.mpr hplain
      rw [hx] at hint
      cases hint
      exact .integer hplain.fits
  forwards := by
    intro n a h ha hfile hdeploy
    have hnumber : o.of? a = some n := by
      rw [LaunchArguments.decode_of_gives hdistinct hmem h] at ha
      cases hrest : Json.ofValue LaunchArguments.decode (.object (withoutKey o.name entries)) with
      | error e =>
          rw [hrest] at ha
          cases ha
      | ok b =>
          rw [hrest] at ha
          cases ha
          exact ForkOption.of?_set o (some n) b
    refine ⟨hnumber, ?_⟩
    rw [handle_launch_object, ha]
    exact forwarded_launch hnumber hfile hdeploy s

namespace Sample

def forking : List (String × Json.Value) :=
  [("contractFile", .string "Token.sol"), ("forkBlock", .string "\t0x01F "),
    ("forkPort", .nat 9545)]

end Sample

theorem keepsForkNumber_hexadecimal :
    KeepsForkNumber Sample.deployers {} .block 1 Sample.forking (.string "\t0x01F ") ∧
      Gives (.string "\t0x01F ") (some 31) ∧
      Forwarded .block 31 (some 9545)
        (handle Sample.deployers {} ⟨1, "launch", some (.object Sample.forking)⟩) := by
  have hkeeps :
      KeepsForkNumber Sample.deployers {} .block 1 Sample.forking (.string "\t0x01F ") :=
    keepsForkNumber Sample.deployers {} .block 1 (by decide)
      (List.mem_cons_of_mem _ List.mem_cons_self)
  have hdigits : Numeral.WritesNatural ['0', 'x', '0', '1', 'F'] 31 :=
    .hexadecimal (Or.inl rfl) (List.cons_ne_nil 0 [1, 15]) ⟨rfl, by decide⟩
  have hgives : Gives (.string "\t0x01F ") (some 31) :=
    .text rfl (show ['\t'].all Text.isBlank = true by decide)
      (show [' '].all Text.isBlank = true by decide) hdigits (by decide)
  have hread : Json.ofValue LaunchArguments.decode (.object Sample.forking) =
      .ok { contractFile := some "Token.sol", forkBlock := some 31, forkPort := some 9545 } :=
    (hkeeps.reads (some 31) hgives).trans rfl
  exact ⟨hkeeps, hgives, (hkeeps.forwards 31 _ hgives hread rfl rfl).2⟩

end Adapter
end TraceAdapter
