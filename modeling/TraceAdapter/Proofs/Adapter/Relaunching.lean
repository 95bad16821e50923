import TraceAdapter.Proofs.Adapter.CanonicalBreakpoints
import TraceAdapter.Proofs.Adapter.Launching
import TraceAdapter.Proofs.Adapter.SessionInvariant

/-!
# Launching again

A launch begins with a cleared session, so nothing of what came before matters to
it but the breakpoints that are asked for.  A launch that fails leaves just
these, and a later one goes as if the failed one had never been sent.
-/

namespace TraceAdapter

open Breakpoint (Descriptor)
open Launch (Launched)
open Protocol (Request LaunchArguments)

variable {ω σ : Type}

namespace Session

/-!
## Alike
-/

/-- A session without its breakpoints. -/
def bare (s : Session σ) : Session σ := { s with breakpoints := {} }

/-- Two sessions are the same but for the order in which their breakpoints are
kept. -/
structure Alike (s s' : Session σ) : Prop where
  bare : s.bare = s'.bare
  requests : forall path, s.breakpoints.requests path = s'.breakpoints.requests path
  foundIn : forall path pc,
    pc ∈ s.breakpoints.foundIn path ↔ pc ∈ s'.breakpoints.foundIn path
  pcs : forall pc, pc ∈ s.breakpoints.pcs ↔ pc ∈ s'.breakpoints.pcs

theorem SameApart.bare_eq {s after : Session σ} (h : SameApart s after) :
    after.bare = s.bare := by
  rw [h.rest]
  rfl

theorem live?_of_bare {s s' : Session σ} (h : s.bare = s'.bare) :
    s.live? = s'.live? := by
  have hlive : s.bare.live? = s'.bare.live? := by rw [h]
  exact hlive

theorem bare_of_install {s s' after after' : Session σ} {debugger : σ}
    {simulation : Simulation} {entry : EntryPoint}
    (h : s.install debugger simulation entry = .ok after)
    (h' : s'.install debugger simulation entry = .ok after') :
    after.bare = after'.bare := by
  rcases install_eq_ok_iff.mp h with ⟨_, rfl⟩
  rcases install_eq_ok_iff.mp h' with ⟨_, rfl⟩
  rfl

variable [Debugger σ]

theorem bare_registerStored (s : Session σ) : s.registerStored.bare = s.bare :=
  (sameApart_registerPaths s s.breakpoints.paths).bare_eq

/-- Where two matched sessions work on the same, the breakpoints that are asked for
decide what is found. -/
theorem Matched.alike {s s' : Session σ} (h : s.Matched) (h' : s'.Matched)
    (hbare : s.bare = s'.bare)
    (hrequests : forall path,
      s.breakpoints.requests path = s'.breakpoints.requests path) : s.Alike s' := by
  have hcounters : s.counters = s'.counters := counters_congr (live?_of_bare hbare)
  refine ⟨hbare, hrequests, ?_, ?_⟩
  · intro path pc
    rw [h.resolved, h'.resolved, hrequests, hcounters]
  · intro pc
    rw [h.mem_pcs_iff, h'.mem_pcs_iff, hcounters]
    simp only [hrequests]

end Session

/-- Two requests came to the same, the worlds apart that they left. -/
structure Handled.Alike (h h' : Handled ω σ) : Prop where
  result : h.result = h'.result
  printed : h.printed = h'.printed
  calls : h.calls = h'.calls
  session : h.session.Alike h'.session

namespace Adapter

variable [Debugger σ]

/-!
## One launch on two sessions
-/

theorem launched?_congr {c c' : Launch.Collaborators ω σ} {a : LaunchArguments}
    (h : (Launch.launch c a).Same (Launch.launch c' a)) :
    launched? c a = launched? c' a := by
  unfold launched?
  rw [h.result]

theorem alike_session_launch {c c' : Launch.Collaborators ω σ} {s s' : Session σ}
    {a : LaunchArguments} (hsame : (Launch.launch c a).Same (Launch.launch c' a))
    (h : s.Matched) (h' : s'.Matched)
    (hrequests : forall path,
      s.breakpoints.requests path = s'.breakpoints.requests path) :
    (launch c s a).session.Alike (launch c' s' a).session := by
  have hlaunched := launched?_congr hsame
  rcases launch_cases c s a with
    ⟨_, hfailed, _, hsession⟩ | ⟨l, after, hsome, hinstall, _, hsession⟩
  · rcases launch_cases c' s' a with
      ⟨_, _, _, hsession'⟩ | ⟨l', after', hsome', _, _, _⟩
    · rw [hsession, hsession']
      exact h.clear.alike h'.clear rfl hrequests
    · rw [hfailed, hsome'] at hlaunched
      cases hlaunched
  · rcases launch_cases c' s' a with
      ⟨_, hfailed', _, _⟩ | ⟨l', after', hsome', hinstall', _, hsession'⟩
    · rw [hsome, hfailed'] at hlaunched
      cases hlaunched
    · rw [hsome, hsome'] at hlaunched
      cases hlaunched
      rw [hsession, hsession']
      apply (h.launch hinstall).alike (h'.launch hinstall')
      · rw [Session.bare_registerStored, Session.bare_registerStored]
        exact Session.bare_of_install hinstall hinstall'
      · intro path
        rw [requests_registerStored, requests_registerStored,
          Session.breakpoints_of_install hinstall, Session.breakpoints_of_install hinstall']
        exact hrequests path

theorem alike_launch {c c' : Launch.Collaborators ω σ} {s s' : Session σ}
    {a : LaunchArguments} (hsame : (Launch.launch c a).Same (Launch.launch c' a))
    (h : s.Matched) (h' : s'.Matched)
    (hrequests : forall path,
      s.breakpoints.requests path = s'.breakpoints.requests path) :
    (launch c s a).Alike (launch c' s' a) := by
  rcases launch_does c s a with ⟨hcalls, hprinted, _⟩
  rcases launch_does c' s' a with ⟨hcalls', hprinted', _⟩
  constructor
  · rw [launch_result, launch_result, hsame.result]
  · rw [hprinted, hprinted', hsame.printed]
  · rw [hcalls, hcalls', hsame.calls]
  · exact alike_session_launch hsame h h' hrequests

/-!
## Requests that launch
-/

theorem launchArguments?_eq_some {r : Request} {a : LaunchArguments}
    (h : launchArguments? r = some a) :
    Command.ofName? r.command = some .launch ∧
      arguments LaunchArguments.decode {} r = .ok a := by
  unfold launchArguments? at h
  split at h
  · rename_i hcommand
    refine ⟨hcommand, ?_⟩
    cases harguments : arguments LaunchArguments.decode {} r with
    | error e =>
        rw [harguments] at h
        cases h
    | ok given =>
        rw [harguments] at h
        cases h
        rfl
  · cases h

theorem handle_of_launchArguments {r : Request} {a : LaunchArguments}
    (h : launchArguments? r = some a) (c : Launch.Collaborators ω σ) (s : Session σ) :
    handle c s r = launch c s a := by
  rcases launchArguments?_eq_some h with ⟨hcommand, harguments⟩
  unfold handle
  rw [hcommand]
  exact withArguments_of_ok harguments s (launch c s)

theorem batch?_of_launchArguments {r : Request} {a : LaunchArguments}
    (h : launchArguments? r = some a) : batch? r = none := by
  apply batch?_eq_none
  rw [(launchArguments?_eq_some h).1]
  simp

theorem session_of_failed_launch {c : Launch.Collaborators ω σ} {s : Session σ}
    {a : LaunchArguments} {e : Error} (h : (launch c s a).result = .error e) :
    (launch c s a).session = s.clear := by
  rcases launch_cases c s a with ⟨_, _, _, hsession⟩ | ⟨_, _, _, _, hresult, _⟩
  · exact hsession
  · rw [hresult] at h
    cases h

/-!
## Requests in between

What is asked for after some requests depends on these alone, so a launch among
them does not matter to it.
-/

omit [Debugger σ] in
def askedAfter (path : String) (before : List Descriptor) (r : Request) :
    List Descriptor :=
  match batch? r with
  | none => before
  | some (p, batch) => if p = path then batch else before

omit [Debugger σ] in
theorem lastBatch_eq (past : List (Occasion ω σ)) (path : String) :
    lastBatch past path =
      (past.map Occasion.request).foldl (askedAfter path) [] := by
  rw [List.foldl_map]
  rfl

theorem askedAfter_launch {r : Request} {a : LaunchArguments}
    (h : launchArguments? r = some a) (path : String) (before : List Descriptor) :
    askedAfter path before r = before := by
  unfold askedAfter
  rw [batch?_of_launchArguments h]

theorem requests_occasions (c : Launch.Collaborators ω σ) (s : Session σ)
    (requests : List Request) :
    (occasions c s requests).map Occasion.request = requests := by
  induction requests generalizing c s with
  | nil => rfl
  | cons r rest ih =>
      rw [occasions, List.map_cons, ih]

theorem lastBatch_without_launch {r : Request} {a : LaunchArguments}
    (h : launchArguments? r = some a) (past : List (Occasion ω σ))
    (c : Launch.Collaborators ω σ) (s : Session σ) (between : List Request)
    (path : String) :
    lastBatch (past ++ occasions c s (r :: between)) path =
      lastBatch (past ++ occasions c s between) path := by
  rw [lastBatch_eq, lastBatch_eq, List.map_append, List.map_append, requests_occasions,
    requests_occasions, List.foldl_append, List.foldl_append, List.foldl_cons,
    askedAfter_launch h]

/-- A request of a run is handled in the session that the ones before it have left,
by collaborators that differ from the first ones in their world at most. -/
theorem getElem?_handleAll (c : Launch.Collaborators ω σ) (s : Session σ)
    {requests : List Request} {i : Nat} {r : Request} (h : requests[i]? = some r) :
    exists o : Occasion ω σ,
      (occasions c s requests)[i]? = some o ∧ o.request = r ∧
        (exists found, o.collaborators = c.after found) ∧
        (handleAll c s requests)[i]? =
          some (handle o.collaborators (sessionAfter c s (requests.take i)) r) := by
  induction requests generalizing c s i with
  | nil => cases h
  | cons first rest ih =>
      cases i with
      | zero =>
          cases h
          exact ⟨⟨c, r⟩, rfl, rfl, ⟨none, rfl⟩, rfl⟩
      | succ i =>
          rcases ih (c.after (handle c s first).world?) (handle c s first).session h with
            ⟨o, ho, hr, ⟨found, hfound⟩, hhandled⟩
          rcases c.exists_after_after (handle c s first).world? found with ⟨last, hlast⟩
          refine ⟨o, ho, hr, ⟨last, hfound.trans hlast⟩, ?_⟩
          rw [List.take_succ_cons, sessionAfter_cons]
          exact hhandled

theorem length_handleAll (c : Launch.Collaborators ω σ) (s : Session σ)
    (requests : List Request) : (handleAll c s requests).length = requests.length := by
  induction requests generalizing c s with
  | nil => rfl
  | cons r rest ih => rw [handleAll, List.length_cons, List.length_cons, ih]

theorem getLast?_handleAll_snoc (c : Launch.Collaborators ω σ) (s : Session σ)
    (requests : List Request) (r : Request) :
    exists found,
      (handleAll c s (requests ++ [r])).getLast? =
        some (handle (c.after found) (sessionAfter c s requests) r) := by
  have hlast : (requests ++ [r])[requests.length]? = some r := List.getElem?_concat_length
  rcases getElem?_handleAll c s hlast with ⟨o, _, _, ⟨found, hfound⟩, hhandled⟩
  rw [List.take_left, hfound] at hhandled
  refine ⟨found, ?_⟩
  rw [List.getLast?_eq_getElem?, length_handleAll, List.length_append]
  exact hhandled

/-!
## Launches forget
-/

theorem alike_launch_of_reached {past past' : List (Occasion ω σ)} {s s' : Session σ}
    (h : Reached past s) (h' : Reached past' s')
    (hrequests : forall path,
      s.breakpoints.requests path = s'.breakpoints.requests path)
    {r r' : Request} {a : LaunchArguments} (ha : launchArguments? r = some a)
    (ha' : launchArguments? r' = some a) {c c' : Launch.Collaborators ω σ}
    (hsame : (Launch.launch c a).Same (Launch.launch c' a)) :
    (handle c s r).Alike (handle c' s' r') := by
  rw [handle_of_launchArguments ha, handle_of_launchArguments ha']
  exact alike_launch hsame h.matched h'.matched hrequests

/-- A launch comes to the same whether or not another launch was sent some requests
before. -/
theorem alike_later_launch {past : List (Occasion ω σ)} {s : Session σ}
    (h : Reached past s) {c : Launch.Collaborators ω σ} (hc : c.Deterministic)
    {r later : Request} {a b : LaunchArguments} (ha : launchArguments? r = some a)
    (hb : launchArguments? later = some b) (between : List Request) :
    exists sent unsent : Handled ω σ,
      (handleAll c s (r :: between ++ [later])).getLast? = some sent ∧
        (handleAll c s (between ++ [later])).getLast? = some unsent ∧
        sent.Alike unsent := by
  rcases getLast?_handleAll_snoc c s (r :: between) later with ⟨found, hsent⟩
  rcases getLast?_handleAll_snoc c s between later with ⟨found', hunsent⟩
  refine ⟨_, _, hsent, hunsent, ?_⟩
  have hreached := h.handleAll c (r :: between)
  have hreached' := h.handleAll c between
  apply alike_launch_of_reached hreached hreached' _ hb hb (hc.launch_same found found' b)
  intro path
  rw [hreached.requests_eq_lastBatch, hreached'.requests_eq_lastBatch,
    lastBatch_without_launch ha]

/-- In a reached session a launch depends on its arguments, its collaborators and the
stored breakpoints alone.  When it fails it leaves a dead session with the same
stored breakpoints, and any later launch comes to the same as if it had never
been sent. -/
theorem launch_forgets {past : List (Occasion ω σ)} {s : Session σ}
    (h : Reached past s) {r : Request} {a : LaunchArguments}
    (ha : launchArguments? r = some a) (c : Launch.Collaborators ω σ) :
    (forall (past' : List (Occasion ω σ)) (s' : Session σ) (r' : Request)
        (found : Option ω),
      Reached past' s' -> launchArguments? r' = some a ->
      (forall path, s.breakpoints.requests path = s'.breakpoints.requests path) ->
      found = none ∨ c.Deterministic ->
      (handle c s r).Alike (handle (c.after found) s' r')) ∧
    (forall e, (handle c s r).result = .error e ->
      (handle c s r).session.Dead ∧
        (handle c s r).session.breakpoints.asked = s.breakpoints.asked ∧
        (c.Deterministic ->
          forall (between : List Request) (later : Request),
            (launchArguments? later).isSome = true ->
            exists sent unsent : Handled ω σ,
              (handleAll c s (r :: between ++ [later])).getLast? = some sent ∧
                (handleAll c s (between ++ [later])).getLast? = some unsent ∧
                sent.Alike unsent)) := by
  constructor
  · intro past' s' r' found h' ha' hrequests hfound
    apply alike_launch_of_reached h h' hrequests ha ha'
    rcases hfound with rfl | hc
    · exact Launch.Outcome.Same.refl _
    · exact hc.launch_same none found a
  · intro e he
    rw [handle_of_launchArguments ha] at he ⊢
    rw [session_of_failed_launch he]
    refine ⟨Session.dead_clear s, rfl, ?_⟩
    intro hc between later hlater
    rcases Option.isSome_iff_exists.mp hlater with ⟨b, hb⟩
    exact alike_later_launch h hc ha hb between

/-- A launch that does not say where the contract is leaves a dead session, and a step
and the launch sent before come to the same after it as without it. -/
theorem launch_forgets_retried :
    exists (s : Session Scripted) (sent unsent : Handled Unit Scripted),
      Reached [Sample.setting, Sample.launching] s ∧ s.isLive = true ∧
        (launchArguments? Sample.failing.request).isSome = true ∧
        (handle Sample.collaborators s Sample.failing.request).session.Dead ∧
        (handleAll Sample.collaborators s
          [Sample.failing.request, { seq := 4, command := "stepIn" },
            Sample.launching.request]).getLast? = some sent ∧
        (handleAll Sample.collaborators s
          [{ seq := 4, command := "stepIn" }, Sample.launching.request]).getLast? =
            some unsent ∧
        sent.Alike unsent := by
  have hreached := (Reached.start.handled Sample.setting).handled Sample.launching
  have hsteady : Sample.collaborators.Deterministic := by
    constructor
    · intro world world' target
      rfl
    · intro deploy hdeploy
      cases hdeploy
  have harguments : launchArguments? Sample.failing.request = some {} := rfl
  rcases (launch_forgets hreached harguments Sample.collaborators).2 _ rfl with
    ⟨hdead, _, hlater⟩
  rcases hlater hsteady [{ seq := 4, command := "stepIn" }] Sample.launching.request rfl with
    ⟨sent, unsent, hsent, hunsent, halike⟩
  exact ⟨_, sent, unsent, hreached, rfl, rfl, hdead, hsent, hunsent, halike⟩

end Adapter
end TraceAdapter
