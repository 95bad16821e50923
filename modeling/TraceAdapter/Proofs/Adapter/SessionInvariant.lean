import TraceAdapter.Proofs.Adapter.Reached
import TraceAdapter.Proofs.Launch.Success
import TraceAdapter.Proofs.Session.Walking

/-!
# Dead and alive

A reached session is dead, with nothing left of a launch, or alive, with a
debugger, a trace and a place in the trace.  A launch that fails at any point
leaves a dead session, and every move stays in the trace.
-/

namespace TraceAdapter

namespace Session

variable {σ : Type}

/-!
## The two states
-/

/-- Nothing is left of a launch. -/
structure Dead (s : Session σ) : Prop where
  debugger? : s.debugger? = none
  trace? : s.trace? = none
  functions? : s.functions? = none
  index : s.index = 0
  function? : s.function? = none
  pcs : s.breakpoints.pcs = []

/-- There is a debugger and a place in a trace, and the current call is one of
the calls. -/
structure Alive (s : Session σ) : Prop where
  debugger? : s.debugger?.isSome = true
  place : exists steps, s.trace? = some steps ∧ s.index < steps.length
  function? : forall i, s.function? = some i ->
    exists fs, s.functions? = some fs ∧ i < fs.length

theorem Dead.isLive {s : Session σ} (h : s.Dead) : s.isLive = false := by
  unfold Session.isLive
  rw [h.debugger?]
  rfl

theorem Alive.isLive {s : Session σ} (h : s.Alive) : s.isLive = true := by
  unfold Session.isLive
  rcases h.place with ⟨steps, htrace, _⟩
  rw [h.debugger?, htrace]
  rfl

theorem Dead.step? {s : Session σ} (h : s.Dead) : s.step? = none := by
  unfold Session.step?
  rw [h.trace?]
  rfl

theorem Alive.step? {s : Session σ} (h : s.Alive) : s.step?.isSome = true := by
  unfold Session.step?
  rcases h.place with ⟨steps, htrace, hindex⟩
  rw [htrace]
  simp [hindex]

/-!
## Changes keep a session dead or alive
-/

theorem dead_clear (s : Session σ) : s.clear.Dead := ⟨rfl, rfl, rfl, rfl, rfl, rfl⟩

theorem Alive.moveTo {s after : Session σ} (h : s.Alive) {index : Nat}
    (hmove : s.moveTo index = .ok after) : after.Alive := by
  rcases moveTo_eq_ok_iff.mp hmove with ⟨hindex, rfl⟩
  rcases h.place with ⟨steps, htrace, _⟩
  rw [length_of_trace htrace] at hindex
  refine ⟨h.debugger?, ⟨steps, htrace, hindex⟩, ?_⟩
  intro i hi
  rcases Option.or_eq_some_iff.mp hi with hinner | ⟨_, hold⟩
  · rcases Option.bind_eq_some_iff.mp hinner with ⟨fs, hfs, hinner⟩
    exact ⟨fs, hfs, Invocation.innermost?_lt hinner⟩
  · exact h.function? i hold

theorem not_moveTo_of_dead {s after : Session σ} (h : s.Dead) (index : Nat) :
    s.moveTo index ≠ .ok after := by
  intro hmove
  have hlength : s.length = 0 := by
    unfold length
    rw [h.trace?]
    rfl
  have hindex := (moveTo_eq_ok_iff.mp hmove).1
  omega

theorem SameApart.alive {s after : Session σ} (h : SameApart s after)
    (hs : s.Alive) : after.Alive := by
  rw [h.rest]
  exact ⟨hs.debugger?, hs.place, hs.function?⟩

theorem alive_of_install {s after : Session σ} {debugger : σ}
    {simulation : Simulation} {entry : EntryPoint}
    (hinstall : s.install debugger simulation entry = .ok after)
    (hfunction : forall i, entry.function? = some i ->
      exists fs, simulation.functions = some fs ∧ i < fs.length) :
    after.Alive := by
  rcases install_eq_ok_iff.mp hinstall with ⟨hfit, rfl⟩
  exact ⟨rfl, ⟨simulation.steps, rfl, hfit⟩, hfunction⟩

end Session

namespace Adapter

open Protocol (Request)

variable {ω σ : Type}

/-!
## Moves stay in the trace
-/

theorem step_result {s : Session σ} (hs : s.Dead ∨ s.Alive)
    {target : List Step -> Nat -> Nat}
    (htarget : forall steps start, 0 < steps.length ->
      target steps start < steps.length) :
    (step s target : Handled ω σ).result = .ok .stepped := by
  rcases hs with hdead | halive
  · unfold step
    rw [hdead.trace?]
    rfl
  · rcases halive.place with ⟨steps, htrace, hindex⟩
    have hstep := htarget steps s.index (Nat.zero_lt_of_lt hindex)
    rw [← Session.length_of_trace htrace] at hstep
    rw [step_of_trace htrace, moveAndReply_of_lt hstep]

theorem resume_result {s : Session σ} (hs : s.Dead ∨ s.Alive) :
    exists reason, (resume s : Handled ω σ).result = .ok (.resumed reason) := by
  rcases hs with hdead | halive
  · unfold resume
    rw [hdead.trace?]
    exact ⟨.breakpoint, rfl⟩
  · rcases halive.place with ⟨steps, htrace, hindex⟩
    exact ⟨_, (resume_eq htrace hindex).2⟩

variable [Debugger σ]

theorem moving_result {s : Session σ} (hs : s.Dead ∨ s.Alive)
    (c : Launch.Collaborators ω σ) {r : Request}
    (hcommand : r.command ∈ ["continue", "next", "stepIn", "stepOut"]) :
    (exists reply, (handle c s r).result = .ok reply) ∨
      exists e, (handle c s r).result = .error (.invalidArguments r.command e) := by
  simp only [List.mem_cons, List.not_mem_nil, or_false] at hcommand
  rcases hcommand with hresume | hnext | hin | hout
  · rw [handle_of_command .resume hresume]
    unfold handleCommand
    cases harguments : arguments Protocol.ContinueArguments.decode {} r with
    | error e =>
        right
        rcases invalid_of_arguments harguments with ⟨cause, rfl⟩
        rw [withArguments_of_error harguments]
        exact ⟨cause, rfl⟩
    | ok a =>
        left
        rw [withArguments_of_ok harguments]
        rcases resume_result (ω := ω) hs with ⟨reason, hreason⟩
        exact ⟨_, hreason⟩
  · rw [handle_of_command .next hnext]
    left
    exact ⟨_, step_result hs fun steps start h => Walk.sourceLine_lt h start _⟩
  · rw [handle_of_command .stepIn hin]
    left
    exact ⟨_, step_result hs fun steps start h => Walk.instruction_lt h start⟩
  · rw [handle_of_command .stepOut hout]
    left
    exact ⟨_, step_result hs fun steps start h => Walk.sourceLine_lt h start _⟩

/-!
## Reached sessions are dead or alive
-/

theorem Change.dead_or_alive {c : Launch.Collaborators ω σ} {s after : Session σ}
    {r : Request} (h : Change c s r after) (hmatched : after.Matched)
    (hs : s.Dead ∨ s.Alive) : after.Dead ∨ after.Alive := by
  cases h with
  | stays => exact hs
  | moves _ _ hmove =>
      rcases hs with hdead | halive
      · exact absurd hmove (Session.not_moveTo_of_dead hdead _)
      · exact Or.inr (halive.moveTo hmove)
  | @sets path batch =>
      rw [Session.setBatch_session] at hmatched ⊢
      have hsame := Session.sameApart_registerAll
        { s with breakpoints := s.breakpoints.replace path batch } path batch
      rcases hs with hdead | halive
      · left
        have hdead' : Session.isLive
            { s with breakpoints := s.breakpoints.replace path batch } = false :=
          hdead.isLive
        have hpcs := hmatched.pcs_of_dead (hsame.isLive_eq.trans hdead')
        rw [hsame.rest]
        exact ⟨hdead.debugger?, hdead.trace?, hdead.functions?, hdead.index,
          hdead.function?, hpcs⟩
      · right
        exact hsame.alive ⟨halive.debugger?, halive.place, halive.function?⟩
  | fails => exact Or.inl (Session.dead_clear s)
  | launches _ _ hlaunched hinstall =>
      right
      rcases Launch.launch_ok (launched?_eq_some_iff.mp hlaunched).1 with
        ⟨target, debugger, world, _, _, hstart⟩
      rcases Launch.start_ok hstart with ⟨_, _, _, _, _, hentry⟩
      apply (Session.sameApart_registerPaths _ _).alive
      apply Session.alive_of_install hinstall
      intro i hi
      rw [hentry] at hi
      exact EntryPoint.function?_find_lt hi

theorem Reached.dead_or_alive {past : List (Occasion ω σ)} {s : Session σ}
    (h : Reached past s) : s.Dead ∨ s.Alive := by
  -- That a dead session stops nowhere comes from its being matched.
  induction h with
  | start => exact Or.inl ⟨rfl, rfl, rfl, rfl, rfl, rfl⟩
  | reordered _h horder ih =>
      rcases ih with hdead | halive
      · have hpcs := horder.pcs
        rw [hdead.pcs] at hpcs
        exact Or.inl ⟨hdead.debugger?, hdead.trace?, hdead.functions?, hdead.index,
          hdead.function?, hpcs.nil_eq.symm⟩
      · exact Or.inr ⟨halive.debugger?, halive.place, halive.function?⟩
  | handled o h ih =>
      exact (change_handle o.collaborators _ o.request).dead_or_alive
        (h.handled o).matched ih

theorem Reached.index_lt {past : List (Occasion ω σ)} {s : Session σ}
    {steps : List Step} (h : Reached past s) (htrace : s.trace? = some steps) :
    s.index < steps.length := by
  rcases h.dead_or_alive with hdead | halive
  · rw [hdead.trace?] at htrace
    cases htrace
  · rcases halive.place with ⟨steps', hplace, hindex⟩
    cases htrace.symm.trans hplace
    exact hindex

/-!
## The invariant
-/

/-- A reached session is dead or alive, stops at what is found for its paths
together, has found something only for paths that were asked for, and has a
current step exactly while it is live.  No command that moves leaves the
trace. -/
theorem session_dead_or_alive {past : List (Occasion ω σ)} {s : Session σ}
    (h : Reached past s) :
    (s.isLive = false ∧ s.Dead ∨ s.isLive = true ∧ s.Alive) ∧
      (forall pc, pc ∈ s.breakpoints.pcs ↔
        exists path, pc ∈ s.breakpoints.foundIn path) ∧
      (forall path, path ∈ Keyed.keys s.breakpoints.found ->
        path ∈ Keyed.keys s.breakpoints.asked) ∧
      s.step?.isSome = s.isLive ∧
      (forall (c : Launch.Collaborators ω σ) (r : Request) (index length : Nat),
        r.command ∈ ["continue", "next", "stepIn", "stepOut"] ->
        (handle c s r).result ≠ .error (.stepOutOfRange index length)) := by
  refine ⟨?_, h.matched.coherent.gathered, h.matched.coherent.foundAsked, ?_, ?_⟩
  · rcases h.dead_or_alive with hdead | halive
    · exact Or.inl ⟨hdead.isLive, hdead⟩
    · exact Or.inr ⟨halive.isLive, halive⟩
  · rcases h.dead_or_alive with hdead | halive
    · rw [hdead.isLive, hdead.step?]
      rfl
    · rw [halive.isLive, halive.step?]
  · intro c r index length hcommand hfail
    rcases moving_result h.dead_or_alive c hcommand with ⟨reply, hok⟩ | ⟨e, herror⟩
    · rw [hok] at hfail
      cases hfail
    · rw [herror] at hfail
      cases hfail

/-- A launch makes a session alive, and nothing is left of it after one that
failed. -/
theorem session_dead_or_alive_relaunched :
    exists before after : Session Scripted,
      Reached [Sample.setting, Sample.launching] before ∧ before.Alive ∧
        Reached [Sample.setting, Sample.launching, Sample.failing] after ∧
        after.Dead := by
  have hbefore := (Reached.start.handled Sample.setting).handled Sample.launching
  have hafter := hbefore.handled Sample.failing
  refine ⟨_, _, hbefore, ?_, hafter, ?_⟩
  · rcases (session_dead_or_alive hbefore).1 with ⟨hdead, _⟩ | ⟨_, halive⟩
    · cases hdead
    · exact halive
  · rcases (session_dead_or_alive hafter).1 with ⟨_, hdead⟩ | ⟨hlive, _⟩
    · exact hdead
    · cases hlive

end Adapter
end TraceAdapter
