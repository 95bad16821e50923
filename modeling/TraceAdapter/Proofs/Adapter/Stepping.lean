import TraceAdapter.Proofs.Adapter.Navigating
import TraceAdapter.Proofs.Session.Hits

/-!
# Resuming and stepping

Once a session was moved since it was launched, its current call is the innermost
one around the current step, if there is any, however it came there.  So resuming
ends where single steps end that are made up to the next stop, in the same
session.
-/

namespace TraceAdapter

namespace Session

variable {σ : Type}

/-- The current call is the innermost one around the current step, if any call is
around it. -/
def Located (s : Session σ) : Prop :=
  forall fs i, s.functions? = some fs -> Invocation.innermost? fs s.index = some i ->
    s.function? = some i

theorem located_movedTo (s : Session σ) (index : Nat) : (s.movedTo index).Located := by
  intro fs i hfs hinner
  have hfs' : s.functions? = some fs := hfs
  have hinner' : Invocation.innermost? fs index = some i := hinner
  show (s.functions?.bind fun fs => Invocation.innermost? fs index).or
    s.function? = some i
  rw [hfs', Option.bind_some, hinner', Option.some_or]

theorem located_of_bare {s s' : Session σ} (h : s.bare = s'.bare) (hs : s.Located) :
    s'.Located := by
  have hlocated : s'.bare.Located := by
    rw [← h]
    exact hs
  exact hlocated

theorem located_of_dead {s : Session σ} (h : s.Dead) : s.Located := by
  intro fs i hfs
  rw [h.functions?] at hfs
  cases hfs

theorem Located.function?_eq {s : Session σ} (h : s.Located) {fs : List Invocation}
    {f : Invocation} (hfs : s.functions? = some fs) (hf : f ∈ fs)
    (hcontains : f.contains s.index = true) :
    s.function?.isSome = true ∧ s.function? = Invocation.innermost? fs s.index := by
  rcases Invocation.exists_innermost? hf hcontains with ⟨i, hinner⟩
  rw [hinner, h fs i hfs hinner]
  exact ⟨rfl, rfl⟩

theorem Located.eq_movedTo {s : Session σ} {index : Nat} {function? : Option Nat}
    (h : Located { s with index := index, function? := function? })
    {fs : List Invocation} {f : Invocation} (hfs : s.functions? = some fs) (hf : f ∈ fs)
    (hcontains : f.contains index = true) :
    { s with index := index, function? := function? } = s.movedTo index := by
  have heq : function? = Invocation.innermost? fs index :=
    (h.function?_eq hfs hf hcontains).2
  have heq' : (s.movedTo index).function? = Invocation.innermost? fs index :=
    ((located_movedTo s index).function?_eq hfs hf hcontains).2
  rw [heq, ← heq']
  rfl

/-- Stepping is over: the session is at a stop or at the last step. -/
def Halted (s : Session σ) : Prop :=
  (exists step, s.step? = some step ∧ step.pc ∈ s.breakpoints.pcs) ∨
    s.index = s.length - 1

theorem halted_iff {s : Session σ} {steps : List Step} (htrace : s.trace? = some steps)
    (index : Nat) (function? : Option Nat) :
    Halted { s with index := index, function? := function? } ↔
      (exists step, steps[index]? = some step ∧
        s.breakpoints.stopsAt step.pc = true) ∨
        index = Walk.lastIndex steps := by
  unfold Halted step? length Breakpoint.Store.stopsAt Walk.lastIndex
  rw [htrace]
  simp only [Option.bind_some, List.contains_iff_mem, Option.map_some, Option.getD_some]

end Session

namespace Adapter

open Protocol (Request ContinueArguments)

variable {ω σ : Type}

/-!
## The current call
-/

def navigated (past : List (Occasion ω σ)) : Bool :=
  past.foldl
    (fun before o =>
      match launchArguments? o.request with
      | some _ => false
      | none => before || navigates o.request)
    false

theorem navigated_snoc (past : List (Occasion ω σ)) (o : Occasion ω σ) :
    navigated (past ++ [o]) =
      match launchArguments? o.request with
      | some _ => false
      | none => navigated past || navigates o.request := by
  simp only [navigated, List.foldl_append, List.foldl_cons, List.foldl_nil]

variable [Debugger σ]

theorem located_of_navigates {s : Session σ} (hs : s.Dead ∨ s.Alive) {r : Request}
    (h : navigates r = true) (c : Launch.Collaborators ω σ) :
    (handle c s r).session.Located := by
  rcases hs with hdead | halive
  · rw [session_of_navigates_of_dead h c hdead.trace?]
    exact Session.located_of_dead hdead
  · rcases halive.place with ⟨steps, htrace, hindex⟩
    rcases handle_of_navigates_of_trace h c htrace hindex with
      ⟨target, _, _, _, _, hhandle⟩
    rw [hhandle]
    exact Session.located_movedTo s target

theorem Reached.located {past : List (Occasion ω σ)} {s : Session σ}
    (h : Reached past s) (hnavigated : navigated past = true) : s.Located := by
  -- A move locates the current call, and nothing but a launch loses it again.
  induction h with
  | start => cases hnavigated
  | reordered _h _horder ih => exact ih hnavigated
  | @handled past s o h ih =>
      rw [navigated_snoc] at hnavigated
      cases hlaunch : launchArguments? o.request with
      | some a =>
          rw [hlaunch] at hnavigated
          cases hnavigated
      | none =>
          rw [hlaunch] at hnavigated
          cases hnavigates : navigates o.request with
          | true => exact located_of_navigates h.dead_or_alive hnavigates o.collaborators
          | false =>
              have hbare :=
                bare_handle_of_not_navigates hlaunch hnavigates o.collaborators s
              dsimp only at hnavigated
              rw [hnavigates, Bool.or_false] at hnavigated
              exact Session.located_of_bare hbare.symm (ih hnavigated)

/-!
## Single steps
-/

theorem sessionAfter_snoc (c : Launch.Collaborators ω σ) (s : Session σ)
    (requests : List Request) (r : Request) :
    exists found,
      sessionAfter c s (requests ++ [r]) =
        (handle (c.after found) (sessionAfter c s requests) r).session := by
  rcases getLast?_handleAll_snoc c s requests r with ⟨found, hlast⟩
  refine ⟨found, ?_⟩
  rw [sessionAfter, hlast]
  rfl

theorem handle_stepIn {s : Session σ} {steps : List Step}
    (htrace : s.trace? = some steps) (hindex : s.index < steps.length) {r : Request}
    (hcommand : r.command = "stepIn") (c : Launch.Collaborators ω σ) :
    (handle c s r).session = s.movedTo (Walk.instruction steps s.index) := by
  have htarget : Walk.instruction steps s.index < s.length := by
    rw [Session.length_of_trace htrace]
    exact Walk.instruction_lt (Nat.zero_lt_of_lt hindex) s.index
  have hhandle : handle c s r = step s Walk.instruction :=
    handle_of_command .stepIn hcommand c s
  rw [hhandle, step_of_trace htrace, moveAndReply_of_lt htarget]

theorem handle_resume {s : Session σ} {steps : List Step}
    (htrace : s.trace? = some steps) (hindex : s.index < steps.length) {r : Request}
    {a : ContinueArguments} (hcommand : r.command = "continue")
    (hgood : arguments ContinueArguments.decode {} r = .ok a)
    (c : Launch.Collaborators ω σ) :
    (handle c s r).session =
      s.movedTo (Walk.toBreakpoint steps s.index s.breakpoints.stopsAt).1 := by
  have htarget :
      (Walk.toBreakpoint steps s.index s.breakpoints.stopsAt).1 < s.length := by
    rw [Session.length_of_trace htrace]
    exact Walk.toBreakpoint_lt (Nat.zero_lt_of_lt hindex) s.index s.breakpoints.stopsAt
  rw [handle_of_resume hcommand hgood, resume_of_trace htrace,
    moveAndReply_of_lt htarget]

/-- Some single steps lead as many steps on, up to the last one, and locate the
current call. -/
theorem sessionAfter_stepping {s : Session σ} {steps : List Step}
    (htrace : s.trace? = some steps) (hindex : s.index < steps.length)
    (c : Launch.Collaborators ω σ) {requests : Nat -> Request}
    (hcommand : forall k, (requests k).command = "stepIn") (n : Nat) :
    exists function?,
      sessionAfter c s ((List.range n).map requests) =
          { s with index := min (s.index + n) (Walk.lastIndex steps)
                   function? := function? } ∧
        (0 < n -> (sessionAfter c s ((List.range n).map requests)).Located) := by
  induction n with
  | zero =>
      have hwithin : s.index ≤ Walk.lastIndex steps := Nat.le_sub_one_of_lt hindex
      refine ⟨s.function?, ?_, ?_⟩
      · rw [Nat.add_zero, Nat.min_eq_left hwithin]
        rfl
      · intro hpositive
        cases hpositive
  | succ n ih =>
      rcases ih with ⟨before, hbefore, _⟩
      rw [List.range_succ, List.map_append, List.map_singleton]
      rcases sessionAfter_snoc c s ((List.range n).map requests) (requests n) with
        ⟨found, hsnoc⟩
      rw [hsnoc, hbefore]
      have hplace : min (s.index + n) (Walk.lastIndex steps) < steps.length := by
        have hlast := Walk.lastIndex_lt (Nat.zero_lt_of_lt hindex)
        omega
      let reached : Session σ :=
        { s with
          index := min (s.index + n) (Walk.lastIndex steps)
          function? := before }
      have hinstruction : Walk.instruction steps reached.index =
          min (s.index + (n + 1)) (Walk.lastIndex steps) := by
        show min (min (s.index + n) (Walk.lastIndex steps) + 1) (Walk.lastIndex steps) =
          min (s.index + (n + 1)) (Walk.lastIndex steps)
        omega
      have hsame : reached.trace? = some steps := htrace
      have hhandle : (handle (c.after found) reached (requests n)).session =
          reached.movedTo (min (s.index + (n + 1)) (Walk.lastIndex steps)) := by
        rw [handle_stepIn hsame hplace (hcommand n), hinstruction]
      refine ⟨_, hhandle, ?_⟩
      intro _hpositive
      rw [hhandle]
      exact Session.located_movedTo reached _

/-- Single steps first halt where resuming stops. -/
theorem exists_first_halt {s : Session σ} {steps : List Step}
    (htrace : s.trace? = some steps) (hindex : s.index < steps.length)
    (c : Launch.Collaborators ω σ) {requests : Nat -> Request}
    (hcommand : forall k, (requests k).command = "stepIn") :
    exists n, 0 < n ∧
      (sessionAfter c s ((List.range n).map requests)).Halted ∧
      (forall k, 0 < k -> k < n ->
        ¬ (sessionAfter c s ((List.range k).map requests)).Halted) ∧
      (sessionAfter c s ((List.range n).map requests)).index =
        (Walk.toBreakpoint steps s.index s.breakpoints.stopsAt).1 := by
  have hahead := Walk.ahead_toBreakpoint steps s.index s.breakpoints.stopsAt
  have hhalts := Walk.toBreakpoint_halts steps s.breakpoints.stopsAt s.index
  have hwithin : s.index ≤ Walk.lastIndex steps := Nat.le_sub_one_of_lt hindex
  -- At the last step one more step is made, which stays there.
  let target := (Walk.toBreakpoint steps s.index s.breakpoints.stopsAt).1
  have hplace :
      min (s.index + max 1 (target - s.index)) (Walk.lastIndex steps) = target := by
    have hle : s.index ≤ target := hahead.le hwithin
    have hend : target ≤ Walk.lastIndex steps := hahead.within
    rcases Nat.lt_or_eq_of_le hwithin with hbefore | hlast
    · have hlater : s.index < target := hahead.later hbefore
      omega
    · omega
  refine ⟨max 1 (target - s.index), Nat.le_max_left _ _, ?_, ?_, ?_⟩
  · rcases sessionAfter_stepping htrace hindex c hcommand (max 1 (target - s.index)) with
      ⟨function?, hafter, _⟩
    rw [hafter, Session.halted_iff htrace, hplace]
    exact hhalts
  · intro k hpositive hk
    have hshort : s.index + k < target := by
      omega
    have hend : target ≤ Walk.lastIndex steps := hahead.within
    rcases sessionAfter_stepping htrace hindex c hcommand k with ⟨function?, hafter, _⟩
    rw [hafter, Session.halted_iff htrace, Nat.min_eq_left (by omega)]
    rintro (⟨step, hstep, hhit⟩ | hlast)
    · have hstop := Walk.toBreakpoint_of_hit (Nat.lt_add_of_pos_right hpositive)
        (Nat.le_of_lt hshort) hstep hhit
      have htarget : target = s.index + k := congrArg Prod.fst hstop
      omega
    · omega
  · rcases sessionAfter_stepping htrace hindex c hcommand (max 1 (target - s.index)) with
      ⟨function?, hafter, _⟩
    rw [hafter]
    exact hplace

/-- In a reached session that is live single steps first halt where resuming stops.
If a call is around that step, the two lead to the same session, which shows the
same.  More generally, once a request navigated since the last launch, the current
call is decided by the current step if any call is around it. -/
theorem resume_agrees_with_stepping {past : List (Occasion ω σ)} {s : Session σ}
    {l : Live σ} (h : Reached past s) (hlive : s.live? = some l) :
    (forall (c : Launch.Collaborators ω σ) (r : Request) (a : ContinueArguments)
        (requests : Nat -> Request),
      r.command = "continue" -> arguments ContinueArguments.decode {} r = .ok a ->
      (forall k, (requests k).command = "stepIn") ->
      let stepped (n : Nat) := sessionAfter c s ((List.range n).map requests)
      let resumed := (handle c s r).session
      exists n, 0 < n ∧ (stepped n).Halted ∧
        (forall k, 0 < k -> k < n -> ¬ (stepped k).Halted) ∧
        (stepped n).index = resumed.index ∧
        forall fs f, l.functions = some fs -> f ∈ fs ->
          f.contains resumed.index = true ->
            stepped n = resumed ∧
            forall (c' : Launch.Collaborators ω σ) (q : Request),
              q.command ∈ ["stackTrace", "scopes", "variables"] ->
                (handle c' (stepped n) q).result = (handle c' resumed q).result) ∧
      (navigated past = true ->
        forall fs f, l.functions = some fs -> f ∈ fs -> f.contains s.index = true ->
          s.function?.isSome = true ∧
          s.function? = Invocation.innermost? fs s.index ∧
          forall (past' : List (Occasion ω σ)) (s' : Session σ),
            Reached past' s' -> navigated past' = true -> s'.functions? = some fs ->
              s'.index = s.index -> s'.function? = s.function?) := by
  rcases Session.live?_eq_some_iff.mp hlive with ⟨_, htrace, hfunctions⟩
  constructor
  · intro c r a requests hcommand hgood hstepIn stepped resumed
    have hindex := h.index_lt htrace
    rcases exists_first_halt htrace hindex c hstepIn with
      ⟨n, hpositive, hhalted, hfirst, hplace⟩
    have hresumed := handle_resume htrace hindex hcommand hgood c
    rcases sessionAfter_stepping htrace hindex c hstepIn n with
      ⟨_, hstepped, hstill⟩
    have htarget : resumed.index =
        (Walk.toBreakpoint l.steps s.index s.breakpoints.stopsAt).1 :=
      congrArg Session.index hresumed
    refine ⟨n, hpositive, hhalted, hfirst, hplace.trans htarget.symm, ?_⟩
    intro fs f hfs hf hcontains
    have heq : stepped n = resumed := by
      have hmin : min (s.index + n) (Walk.lastIndex l.steps) =
          (Walk.toBreakpoint l.steps s.index s.breakpoints.stopsAt).1 := by
        rw [hstepped] at hplace
        exact hplace
      rw [hmin] at hstepped
      have hlocated := hstill hpositive
      rw [hstepped] at hlocated
      rw [htarget] at hcontains
      have hmoved := hlocated.eq_movedTo (hfunctions.trans hfs) hf hcontains
      exact (hstepped.trans hmoved).trans hresumed.symm
    refine ⟨heq, ?_⟩
    intro c' q _hq
    rw [heq]
  · intro hnavigated fs f hfs hf hcontains
    rcases (h.located hnavigated).function?_eq (hfunctions.trans hfs) hf hcontains with
      ⟨hsome, heq⟩
    refine ⟨hsome, heq, ?_⟩
    intro past' s' h' hnavigated' hfs' hindex'
    rw [← hindex'] at hcontains
    rcases (h'.located hnavigated').function?_eq hfs' hf hcontains with ⟨_, heq'⟩
    rw [heq', hindex', heq]

namespace Sample

def stepping : Occasion Unit Scripted where
  collaborators := collaborators
  request := { seq := 3, command := "stepIn" }

end Sample

/-- From a stop single steps lead on to the last step, as resuming does, and the only
call is still the current one. -/
theorem resume_agrees_with_stepping_from_stop :
    exists (s : Session Scripted) (n : Nat),
      Reached [Sample.setting, Sample.launching, Sample.stepping] s ∧
        s.index = 1 ∧ s.function?.isSome = true ∧ 0 < n ∧
        sessionAfter Sample.collaborators s
            ((List.range n).map fun _ => Sample.stepping.request) =
          (handle Sample.collaborators s { seq := 4, command := "continue" }).session ∧
        (handle Sample.collaborators s
          { seq := 4, command := "continue" }).session.index = 2 := by
  have hreached := ((Reached.start.handled Sample.setting).handled
    Sample.launching).handled Sample.stepping
  have hlive := resume_agrees_with_stepping hreached
    (l := ⟨Sample.debugger, Sample.debugger.steps, Sample.debugger.functions⟩) rfl
  rcases hlive with ⟨hresume, hcurrent⟩
  have hgood : arguments ContinueArguments.decode {}
      { seq := 4, command := "continue" } = .ok {} := rfl
  rcases hresume Sample.collaborators { seq := 4, command := "continue" } {}
      (fun _ => Sample.stepping.request) rfl hgood (fun _ => rfl) with
    ⟨n, hpositive, _, _, _, hsame⟩
  have hcall := hsame _ ⟨"transfer", 0, none⟩ rfl List.mem_cons_self rfl
  have hfunction := hcurrent rfl _ ⟨"transfer", 0, none⟩ rfl List.mem_cons_self rfl
  exact ⟨_, n, hreached, rfl, hfunction.1, hpositive, hcall.1, rfl⟩

end Adapter
end TraceAdapter
