import TraceAdapter.Proofs.Adapter.LineStepping
import TraceAdapter.Proofs.Adapter.Records
import TraceAdapter.Proofs.Adapter.Resuming
import TraceAdapter.Proofs.Adapter.Stepping
import TraceAdapter.Proofs.Protocol.WireTypes
import TraceAdapter.Proofs.Recording.Matching

/-!
# Breakpoints on the place that is shown

The path and the line at which a frame is shown lead back to the program counter of
its step.  So a breakpoint that is set there is verified and stops at the step, now
and whenever the recording is gone through again.
-/

namespace TraceAdapter

open Breakpoint (Descriptor)
open Protocol (Request SetBreakpointsArguments SourceBreakpoint StackFrame
  StackTraceArguments ContinueArguments)

namespace Replay

/-!
## The line of a program counter
-/

theorem resolve_line_of_line? {r : Replay} {pc : Nat} {here : String × Nat}
    (h : r.lines.line? pc = some here) (steps : List Step)
    (functions : Option (List Invocation)) :
    exists pcs,
      Debugger.resolve r (.line here.1 here.2) steps functions = .ok pcs ∧ pc ∈ pcs := by
  rcases line?_eq_some_iff.mp h with ⟨place, hplace, hpath, _⟩
  have hrecorded : here.1 ∈ r.recording.paths := by
    rw [← hpath]
    exact (place?_eq_some_iff.mp hplace).mem_paths
  have hmatching := Recording.mem_matchingPaths_of_endsWith hrecorded
    (Path.endsWith_self here.1)
  have hpc : pc ∈ r.pcsOnLine here.1 here.2 :=
    mem_pcsOnLine_iff_line.mpr ⟨here.1, hmatching, h⟩
  exact ⟨_, resolve_line_eq_ok_iff.mpr ⟨rfl, List.ne_nil_of_mem hpc⟩, hpc⟩

/-- Two replays are of one recording and found the same texts of its sources. -/
structure SameRecording (r r' : Replay) : Prop where
  recording : r'.recording = r.recording
  texts : r'.texts = r.texts

theorem SameRecording.line?_eq {r r' : Replay} (h : r.SameRecording r') :
    r'.lines.line? = r.lines.line? := by
  have hplace : r'.place? = r.place? := by
    funext pc
    unfold place?
    rw [h.recording]
  have hposition : r'.lineColumn? = r.lineColumn? := by
    funext path offset
    unfold lineColumn? text?
    rw [h.texts]
  unfold SourceMap.line? lines
  rw [hplace, hposition]

theorem Opened.read {r : Replay} (h : r.Opened) :
    exists content,
      r.files.readText (Path.join r.target.ethdebugDir traceFile) = .ok content ∧
        Json.read Recording.decode content = .ok r.recording := by
  unfold Opened ofFiles at h
  cases hread : r.files.readText (Path.join r.target.ethdebugDir traceFile) with
  | error e =>
      simp only [hread] at h
      cases h
  | ok content =>
      refine ⟨content, rfl, ?_⟩
      cases hdecode : Json.read Recording.decode content with
      | error e =>
          simp only [hread, hdecode] at h
          cases h
      | ok recording =>
          simp only [hread, hdecode] at h
          exact congrArg Except.ok (congrArg Replay.recording (Except.ok.inj h))

theorem sameRecording_of_opened {r r' : Replay} (h : r.Opened) (h' : r'.Opened)
    (hfiles : r'.files = r.files)
    (hdir : r'.target.ethdebugDir = r.target.ethdebugDir) : r.SameRecording r' := by
  rcases h.read with ⟨content, hread, hdecode⟩
  rcases h'.read with ⟨content', hread', hdecode'⟩
  rw [hfiles, hdir, hread] at hread'
  cases hread'
  have hrecording : r'.recording = r.recording :=
    Except.ok.inj (hdecode'.symm.trans hdecode)
  refine ⟨hrecording, ?_⟩
  rw [h'.texts_eq, h.texts_eq, hrecording, hfiles, hdir]

theorem line_lt_of_line? {r : Replay} {pc : Nat} {here : String × Nat}
    (h : r.lines.line? pc = some here) : here.2 < Numeral.bound32 := by
  rcases line?_eq_some_iff.mp h with ⟨place, _, _, hany⟩
  rcases Option.any_eq_true _ _ |>.mp hany with ⟨⟨line, column⟩, hposition, hline⟩
  rcases Option.bind_eq_some_iff.mp hposition with ⟨text, _, hfound⟩
  rw [← of_decide_eq_true hline]
  exact SourceText.line_lt_of_lineColumn? hfound

end Replay

namespace Adapter

section

variable {ω σ : Type} [Debugger σ]

/-!
## Resuming again and again
-/

/-- A request resumes, with good arguments. -/
def Resumes (r : Request) : Prop :=
  r.command = "continue" ∧ exists a, arguments ContinueArguments.decode {} r = .ok a

/-- What resuming up to a stop comes to. -/
structure ResumedTo (s : Session σ) (steps : List Step) (stop : Nat × StopReason)
    (handled : Handled ω σ) : Prop where
  trace? : handled.session.trace? = some steps
  breakpoints : handled.session.breakpoints = s.breakpoints
  index : handled.session.index = stop.1
  result : handled.result = .ok (.resumed stop.2)

theorem resumedTo_toBreakpoint {s : Session σ} {steps : List Step}
    (htrace : s.trace? = some steps) (hindex : s.index < steps.length) {r : Request}
    (hr : Resumes r) (c : Launch.Collaborators ω σ) :
    ResumedTo s steps (Walk.toBreakpoint steps s.index s.breakpoints.stopsAt)
      (handle c s r) := by
  rcases hr with ⟨hcommand, a, hgood⟩
  have hmoved := handle_resume htrace hindex hcommand hgood c
  refine ⟨?_, ?_, ?_, ?_⟩
  · rw [hmoved]
    exact htrace
  · rw [hmoved]
    rfl
  · rw [hmoved]
    rfl
  · rw [handle_of_resume hcommand hgood]
    exact (resume_eq htrace hindex).2

/-- So many requests to resume make so many runs, each from the stop of the one before
it. -/
theorem resumedTo_stop {s : Session σ} {steps : List Step}
    (htrace : s.trace? = some steps) (hindex : s.index < steps.length)
    (c : Launch.Collaborators ω σ) {resumes : Nat -> Request}
    (hresumes : forall k, Resumes (resumes k)) (n : Nat) :
    exists handled,
      (handleAll c s ((List.range (n + 1)).map resumes)).getLast? = some handled ∧
        ResumedTo s steps (Walk.stop steps s.breakpoints.stopsAt s.index n) handled := by
  induction n with
  | zero => exact ⟨_, rfl, resumedTo_toBreakpoint htrace hindex (hresumes 0) c⟩
  | succ n ih =>
      rcases ih with ⟨before, hbefore, hstop⟩
      rcases getLast?_handleAll_snoc c s ((List.range (n + 1)).map resumes)
        (resumes (n + 1)) with ⟨found, hlast⟩
      have hsession : sessionAfter c s ((List.range (n + 1)).map resumes) =
          before.session := by
        unfold sessionAfter
        rw [hbefore]
        rfl
      have hwithin : before.session.index < steps.length := by
        rw [hstop.index]
        exact Walk.stop_lt (Nat.zero_lt_of_lt hindex) s.breakpoints.stopsAt s.index n
      have hnext := resumedTo_toBreakpoint hstop.trace? hwithin (hresumes (n + 1))
        (c.after found)
      rw [hstop.index, hstop.breakpoints] at hnext
      rw [hsession] at hlast
      refine ⟨_, ?_, hnext.trace?, hnext.breakpoints.trans hstop.breakpoints, hnext.index,
        hnext.result⟩
      rw [List.range_succ, List.map_append, List.map_singleton]
      exact hlast

/-- Resuming again and again stops at a step, and before it at earlier ones alone. -/
def StopsFirstAt (c : Launch.Collaborators ω σ) (s : Session σ) (resumes : Nat -> Request)
    (index : Nat) : Prop :=
  exists n,
    (forall k, k ≤ n ->
      (sessionAfter c s ((List.range k).map resumes)).index < index) ∧
    exists handled,
      (handleAll c s ((List.range (n + 1)).map resumes)).getLast? = some handled ∧
        handled.session.index = index ∧ handled.result = .ok (.resumed .breakpoint)

theorem stopsFirstAt_of_hit {s : Session σ} {steps : List Step}
    (htrace : s.trace? = some steps) {index : Nat} {step : Step} (hlater : s.index < index)
    (hstep : steps[index]? = some step) (hhit : s.breakpoints.stopsAt step.pc = true)
    (c : Launch.Collaborators ω σ) {resumes : Nat -> Request}
    (hresumes : forall k, Resumes (resumes k)) : StopsFirstAt c s resumes index := by
  rcases List.getElem?_eq_some_iff.mp hstep with ⟨hbound, _⟩
  have hindex : s.index < steps.length := Nat.lt_trans hlater hbound
  have hmem : index ∈ Walk.hits steps s.breakpoints.stopsAt s.index :=
    Walk.mem_hits.mpr ⟨hlater, step, hstep, hhit⟩
  rcases Walk.exists_stop_of_mem_hits hmem with ⟨n, hstop, hbefore⟩
  refine ⟨n, ?_, ?_⟩
  · intro k hk
    cases k with
    | zero => exact hlater
    | succ k =>
        rcases resumedTo_stop htrace hindex c hresumes k with ⟨handled, hlast, hresumed⟩
        unfold sessionAfter
        rw [hlast]
        show handled.session.index < index
        rw [hresumed.index]
        exact hbefore k hk
  · rcases resumedTo_stop htrace hindex c hresumes n with ⟨handled, hlast, hresumed⟩
    refine ⟨handled, hlast, ?_, ?_⟩
    · rw [hresumed.index, hstop]
    · rw [hresumed.result, hstop]

/-!
## The batch of a place
-/

omit [Debugger σ] in
/-- No later batch of its path leaves a breakpoint out. -/
def Keeps (later : List (Occasion ω σ)) (path : String) (d : Descriptor) : Prop :=
  forall o, o ∈ later -> forall batch, batch? o.request = some (path, batch) -> d ∈ batch

omit [Debugger σ] in
theorem batch?_of_sets {r : Request} {a : SetBreakpointsArguments} (h : Sets r a) :
    batch? r =
      some (path a, a.breakpoints.flatMap (Session.descriptors (path a))) := by
  unfold batch?
  rw [h.1, h.2]
  rfl

omit [Debugger σ] in
theorem mem_lastBatch_of_kept {past later : List (Occasion ω σ)} {o : Occasion ω σ}
    {path : String} {batch : List Descriptor} {d : Descriptor}
    (hset : batch? o.request = some (path, batch)) (hd : d ∈ batch)
    (hkeeps : Keeps later path d) : d ∈ lastBatch (past ++ o :: later) path := by
  induction later using List.reverseRecOn with
  | nil =>
      rw [lastBatch_snoc_of_some hset, if_pos rfl]
      exact hd
  | append_singleton later next ih =>
      have hbefore := ih fun o' ho' => hkeeps o' (List.mem_append_left [next] ho')
      rw [← List.cons_append, ← List.append_assoc]
      cases hnext : batch? next.request with
      | none =>
          rw [lastBatch_snoc_of_none hnext]
          exact hbefore
      | some set =>
          rcases set with ⟨p, replaced⟩
          rw [lastBatch_snoc_of_some hnext]
          by_cases hpath : p = path
          · subst hpath
            rw [if_pos rfl]
            exact hkeeps next (List.mem_append_right later List.mem_cons_self) replaced hnext
          · rw [if_neg hpath]
            exact hbefore

theorem eq_record_of_line {s : Session σ} {path : String} {batch : List SourceBreakpoint}
    {record : Protocol.Breakpoint} {n : Nat}
    (h : record ∈ batch.flatMap (s.records path)) (hline : record.line = some n) :
    record = s.record (.line path n) := by
  rcases List.mem_flatMap.mp h with ⟨b, _, hb⟩
  rcases List.mem_append.mp hb with hof | hof
  · rw [Option.mem_toList, Option.map_eq_some_iff] at hof
    rcases hof with ⟨m, _, rfl⟩
    cases hline
    rfl
  · rw [Option.mem_toList, Option.map_eq_some_iff] at hof
    rcases hof with ⟨name, _, rfl⟩
    cases hline

theorem mem_records_of_line (s : Session σ) {path : String} {batch : List SourceBreakpoint}
    {b : SourceBreakpoint} {n : Nat} (hb : b ∈ batch) (hline : b.line = some n) :
    s.record (.line path n) ∈ batch.flatMap (s.records path) := by
  apply List.mem_flatMap.mpr
  refine ⟨b, hb, List.mem_append_left _ ?_⟩
  rw [hline]
  exact List.mem_cons_self

omit [Debugger σ] in
theorem mem_descriptors_of_line {path : String} {batch : List SourceBreakpoint}
    {b : SourceBreakpoint} {n : Nat} (hb : b ∈ batch) (hline : b.line = some n) :
    Descriptor.line path n ∈ batch.flatMap (Session.descriptors path) := by
  apply List.mem_flatMap.mpr
  refine ⟨b, hb, ?_⟩
  unfold Session.descriptors
  rw [hline]
  exact List.mem_cons_self

/-- A record names a line, and every record that names it is verified. -/
structure VerifiedOn (n : Nat) (records : List Protocol.Breakpoint) : Prop where
  named : exists record, record ∈ records ∧ record.line = some n
  verified : forall record, record ∈ records -> record.line = some n ->
    record.verified = true

/-- A line that resolves is verified when a breakpoint is set on it, and the session stops
at all that it resolves to. -/
theorem verified_on_line {s : Session σ} (h : s.Matched) {l : Live σ}
    (hlive : s.live? = some l) {r : Request} {a : SetBreakpointsArguments} (hset : Sets r a)
    {n : Nat} (hentry : exists b, b ∈ a.breakpoints ∧ b.line = some n) {pcs : List Nat}
    (hresolve : Debugger.resolve l.debugger (.line (path a) n) l.steps l.functions = .ok pcs)
    (c : Launch.Collaborators ω σ) :
    (exists records,
      (handle c s r).result = .ok (.breakpoints records) ∧ VerifiedOn n records) ∧
      forall pc, pc ∈ pcs -> pc ∈ (handle c s r).session.breakpoints.pcs := by
  rcases hentry with ⟨b, hb, hline⟩
  rw [handle_of_sets hset]
  constructor
  · refine ⟨_, setBreakpoints_result s a, ?_, ?_⟩
    · exact ⟨_, mem_records_of_line s hb hline, rfl⟩
    · intro record hrecord hnamed
      rw [eq_record_of_line hrecord hnamed, s.record_verified_iff]
      exact ⟨l, pcs, hlive, hresolve⟩
  · intro pc hpc
    apply mem_pcs_setBreakpoints h (mem_descriptors_of_line hb hline)
    exact (mem_counters_of_live hlive _ pc).mpr ⟨pcs, hresolve, hpc⟩

end

/-!
## The place of a frame
-/

theorem exists_step_on_line {s : Session Replay} {l : Live Replay}
    (hlive : s.live? = some l) {here : String × Nat}
    (hhere : Walk.lineAt? s.sourceMap? l.steps s.index = some here) :
    exists step,
      s.step? = some step ∧ l.steps[s.index]? = some step ∧
        l.debugger.lines.line? step.pc = some here := by
  rcases Session.live?_eq_some_iff.mp hlive with ⟨hdebugger, htrace, _⟩
  rcases Walk.lineAt?_eq_some_iff.mp hhere with ⟨step, hstep, hline⟩
  rcases Option.bind_eq_some_iff.mp hline with ⟨map, hmap, hfound⟩
  have hcurrent : s.step? = some step := by
    unfold Session.step?
    rw [htrace]
    exact hstep
  have hreplay : l.debugger.sourceMap? = some map := by
    unfold Session.sourceMap? at hmap
    rw [hdebugger] at hmap
    exact hmap
  rw [Replay.eq_lines_of_sourceMap? hreplay] at hfound
  exact ⟨step, hcurrent, hstep, hfound⟩

/-- A batch has a breakpoint at the path and the line of a frame. -/
structure BreaksAt (a : SetBreakpointsArguments) (f : StackFrame) : Prop where
  source : a.source.path = f.source.path
  entry : exists b, b ∈ a.breakpoints ∧ b.line = some f.line

def placeOf (f : StackFrame) : SetBreakpointsArguments where
  source := f.source
  breakpoints := [⟨some f.line, none⟩]

theorem breaksAt_placeOf (f : StackFrame) : BreaksAt (placeOf f) f :=
  ⟨rfl, _, List.mem_cons_self, rfl⟩

theorem sets_placeOf {f : StackFrame} (h : f.line < Numeral.bound32) {r : Request}
    (hcommand : r.command = "setBreakpoints")
    (harguments : r.arguments = some (placeOf f).toJson) : Sets r (placeOf f) := by
  have hreads : SetBreakpointsArguments.decode.Reads (placeOf f).toJson (placeOf f) := by
    apply SetBreakpointsArguments.reads_toJson
    intro b hb n hn
    cases List.mem_singleton.mp hb
    cases hn
    exact h
  have hvalue : Json.ofValue SetBreakpointsArguments.decode (placeOf f).toJson =
      .ok (placeOf f) := hreads .tree rfl
  refine ⟨hcommand, ?_⟩
  unfold arguments
  rw [harguments]
  unfold SetBreakpointsArguments.toJson at hvalue ⊢
  dsimp only
  rw [hvalue]

/-- A breakpoint that was set at a place, and kept, stops a session over the same
recording there. -/
theorem stopsAt_of_kept {past later : List (Occasion Files Replay)} {o : Occasion Files Replay}
    {t : Session Replay} {l : Live Replay} {r : Replay} {here : String × Nat} {pc : Nat}
    {batch : List Descriptor} (h : Reached (past ++ o :: later) t) (hlive : t.live? = some l)
    (hset : batch? o.request = some (here.1, batch))
    (hd : Descriptor.line here.1 here.2 ∈ batch)
    (hkeeps : Keeps later here.1 (.line here.1 here.2))
    (hsame : r.SameRecording l.debugger) (hline : r.lines.line? pc = some here) :
    t.breakpoints.stopsAt pc = true := by
  have hline' : l.debugger.lines.line? pc = some here := by
    rw [hsame.line?_eq]
    exact hline
  have hpc : pc ∈ t.counters (.line here.1 here.2) :=
    (mem_counters_of_live hlive _ pc).mpr
      (Replay.resolve_line_of_line? hline' l.steps l.functions)
  unfold Breakpoint.Store.stopsAt
  rw [List.contains_iff_mem, h.mem_pcs_iff]
  exact ⟨here.1, _, mem_lastBatch_of_kept hset hd hkeeps, hpc⟩

theorem BreaksAt.path_eq {a : SetBreakpointsArguments} {f : StackFrame} {p : String}
    (h : BreaksAt a f) (hf : f.source.path = some p) : path a = p := by
  unfold path
  rw [h.source, hf]
  rfl

/-- A live session over recordings at a step on a line shows a frame there, and a request
can be made of the place of this frame.  A breakpoint that is set there is verified and
the session stops at the program counter of the step.  Whatever happens later, as long
as the breakpoint is kept, a session that is before that step in the same recording
stops at it when it is resumed again and again, and before it at earlier steps alone.
What is launched again from the same files is the same recording. -/
theorem breakpoint_on_shown_place {past : List (Occasion Files Replay)} {s : Session Replay}
    {l : Live Replay} (h : Reached past s) (hpast : OverRecordings past)
    (hlive : s.live? = some l) {here : String × Nat}
    (hhere : Walk.lineAt? s.sourceMap? l.steps s.index = some here) :
    exists step f,
      s.step? = some step ∧ f.source.path = some here.1 ∧ f.line = here.2 ∧
        (forall (c : Launch.Collaborators Files Replay) (q : Request)
            (a : StackTraceArguments),
          q.command = "stackTrace" -> arguments StackTraceArguments.decode {} q = .ok a ->
            (handle c s q).result = .ok (.frames [f])) ∧
        (forall r : Request, r.command = "setBreakpoints" ->
          r.arguments = some (placeOf f).toJson ->
            Sets r (placeOf f) ∧ BreaksAt (placeOf f) f) ∧
        (forall (c : Launch.Collaborators Files Replay) (r : Request)
            (a : SetBreakpointsArguments),
          Sets r a -> BreaksAt a f ->
            (exists records,
              (handle c s r).result = .ok (.breakpoints records) ∧
                VerifiedOn f.line records) ∧
            step.pc ∈ (handle c s r).session.breakpoints.pcs ∧
            forall (later : List (Occasion Files Replay)) (t : Session Replay)
                (l' : Live Replay),
              Reached (past ++ ⟨c, r⟩ :: later) t ->
              OverRecordings (past ++ ⟨c, r⟩ :: later) ->
              Keeps later here.1 (.line here.1 here.2) ->
              t.live? = some l' -> l.debugger.SameRecording l'.debugger ->
              t.index < s.index ->
              forall (c' : Launch.Collaborators Files Replay) (resumes : Nat -> Request),
                (forall k, Resumes (resumes k)) -> StopsFirstAt c' t resumes s.index) ∧
        forall (past' : List (Occasion Files Replay)) (t : Session Replay)
            (l' : Live Replay),
          Reached past' t -> OverRecordings past' -> t.live? = some l' ->
          l'.debugger.files = l.debugger.files ->
          l'.debugger.target.ethdebugDir = l.debugger.target.ethdebugDir ->
            l.debugger.SameRecording l'.debugger := by
  have htrace := (Session.live?_eq_some_iff.mp hlive).2.1
  have hopened := h.opened hpast hlive
  rcases exists_step_on_line hlive hhere with ⟨step, hcurrent, hstep, hline⟩
  rcases Session.frames_of_lineAt? htrace hhere with ⟨f, hframes, hfpath, hfline⟩
  refine ⟨step, f, hcurrent, hfpath, hfline, ?_, ?_, ?_, ?_⟩
  · intro c q a hq hgood
    rw [handle_stackTrace hq hgood, hframes]
  · intro r hcommand harguments
    have hbound : f.line < Numeral.bound32 := hfline ▸ Replay.line_lt_of_line? hline
    exact ⟨sets_placeOf hbound hcommand harguments, breaksAt_placeOf f⟩
  · intro c r a hset hplace
    have hpath := hplace.path_eq hfpath
    have hentry := hplace.entry
    rw [hfline] at hentry ⊢
    rcases Replay.resolve_line_of_line? hline l.steps l.functions with ⟨pcs, hresolve, hpc⟩
    rw [← hpath] at hresolve
    rcases verified_on_line h.matched hlive hset hentry hresolve c with ⟨hrecords, hstops⟩
    refine ⟨hrecords, hstops step.pc hpc, ?_⟩
    intro later t l' hreached hover hkeeps hlive' hsame hbefore c' resumes hresumes
    have hsteps : l'.steps = l.steps := by
      rw [(hreached.opened hover hlive').2.1, hsame.recording, hopened.2.1]
    rcases hentry with ⟨b, hb, hbline⟩
    have hbatch := batch?_of_sets hset
    have hd : Descriptor.line (path a) here.2 ∈
        a.breakpoints.flatMap (Session.descriptors (path a)) :=
      mem_descriptors_of_line hb hbline
    rw [hpath] at hbatch hd
    have hhit := stopsAt_of_kept hreached hlive' hbatch hd hkeeps hsame hline
    have htrace' := (Session.live?_eq_some_iff.mp hlive').2.1
    rw [hsteps] at htrace'
    exact stopsFirstAt_of_hit htrace' hbefore hstep hhit c' hresumes
  · intro past' t l' hreached hover hlive' hfiles hdir
    have hopened' := (hreached.opened hover hlive').1
    exact Replay.sameRecording_of_opened hopened.1 hopened' hfiles hdir

namespace Sample

def toMappedStep : Occasion Files Replay where
  collaborators := recordings
  request := { seq := 2, command := "stepIn" }

def mapped : Handled Files Replay :=
  handle toMappedStep.collaborators
    (handle opening.collaborators {} opening.request).session toMappedStep.request

/-- What is answered when the recording is launched once more, with a breakpoint set at the
mapped step. -/
def relaunched : Handled Files Replay :=
  handle opening.collaborators
    (handle settingLine.collaborators mapped.session settingLine.request).session
    opening.request

theorem reached_mapped : Reached [opening, toMappedStep] mapped.session :=
  (Reached.start.handled opening).handled toMappedStep

theorem reached_relaunched :
    Reached [opening, toMappedStep, settingLine, opening] relaunched.session :=
  (reached_mapped.handled settingLine).handled opening

theorem overRecordings_relaunched :
    OverRecordings [opening, toMappedStep, settingLine, opening] := by
  intro o ho
  simp only [List.mem_cons, List.not_mem_nil, or_false] at ho
  rcases ho with rfl | rfl | rfl | rfl <;> rfl

theorem live?_relaunched : relaunched.session.live? = mapped.session.live? := by
  have hsome : (launchArguments? opening.request).isSome = true := rfl
  rcases Option.isSome_iff_exists.mp hsome with ⟨a, ha⟩
  have hfirst : lastLaunch [opening, toMappedStep] = launched? recordings a :=
    (lastLaunch_snoc_of_none (o := toMappedStep) rfl [opening]).trans
      (lastLaunch_snoc_of_some ha [])
  have hlast : lastLaunch [opening, toMappedStep, settingLine, opening] =
      launched? recordings a :=
    lastLaunch_snoc_of_some ha [opening, toMappedStep, settingLine]
  rw [reached_relaunched.live?_eq_lastLaunch, reached_mapped.live?_eq_lastLaunch, hfirst,
    hlast]

end Sample

/-- A breakpoint on the place that is shown at the second step is found again after the
recording was launched once more. -/
theorem breakpoint_on_shown_place_relaunched :
    exists f : StackFrame,
      Reached [Sample.opening, Sample.toMappedStep] Sample.mapped.session ∧
        (handle Sample.recordings Sample.mapped.session Sample.asking).result =
          .ok (.frames [f]) ∧
        f.source.path = some "a" ∧ f.line = 2 ∧
        7 ∈ (handle Sample.recordings Sample.mapped.session
          Sample.settingLine.request).session.breakpoints.pcs ∧
        Reached [Sample.opening, Sample.toMappedStep, Sample.settingLine, Sample.opening]
          Sample.relaunched.session ∧
        StopsFirstAt Sample.recordings Sample.relaunched.session (fun _ => Sample.resuming)
          1 := by
  have hover := Sample.overRecordings_relaunched
  have hpast : OverRecordings [Sample.opening, Sample.toMappedStep] := by
    intro o ho
    exact hover o (List.mem_append_left [Sample.settingLine, Sample.opening] ho)
  have hrun :
      Sample.mapped.session.isLive = true ∧ Sample.mapped.session.index = 1 ∧
        (Sample.mapped.session.trace?.bind fun steps =>
          Walk.lineAt? Sample.mapped.session.sourceMap? steps 1) = some ("a", 2) ∧
        Sample.mapped.session.step?.map Step.pc = some 7 ∧
        Sample.relaunched.session.index = 0 := by
    decide +kernel
  rcases hrun with ⟨hisLive, hindex, hline, hpc, hindex'⟩
  rcases (Session.isLive_iff_exists_live? _).mp hisLive with ⟨l, hlive⟩
  have hlive' := Sample.live?_relaunched.trans hlive
  rw [(Session.live?_eq_some_iff.mp hlive).2.1, Option.bind_some, ← hindex] at hline
  rcases breakpoint_on_shown_place Sample.reached_mapped hpast hlive hline with
    ⟨step, f, hstep, hfpath, hfline, hframe, _, hset, hsame⟩
  rw [hstep, Option.map_some, Option.some.injEq] at hpc
  have hbatch : Sets Sample.settingLine.request ⟨{ path := some "a" }, [⟨some 2, none⟩]⟩ :=
    ⟨rfl, rfl⟩
  have hplace : BreaksAt ⟨{ path := some "a" }, [⟨some 2, none⟩]⟩ f :=
    ⟨hfpath.symm, _, List.mem_cons_self, congrArg some hfline.symm⟩
  rcases hset Sample.recordings _ _ hbatch hplace with ⟨_, hpcs, hresumed⟩
  have hkeeps : Keeps [Sample.opening] "a" (.line "a" 2) := by
    intro o ho batch hset'
    cases List.mem_singleton.mp ho
    cases hset'
  have hbefore : Sample.relaunched.session.index < Sample.mapped.session.index := by
    rw [hindex, hindex']
    exact Nat.zero_lt_one
  have hresumes : forall k : Nat, Resumes ((fun _ => Sample.resuming) k) :=
    fun _ => ⟨rfl, {}, rfl⟩
  have hstop := hresumed [Sample.opening] _ _ Sample.reached_relaunched hover hkeeps hlive'
    (hsame _ _ _ Sample.reached_relaunched hover hlive' rfl rfl) hbefore Sample.recordings
    (fun _ => Sample.resuming) hresumes
  rw [hindex] at hstop
  rw [hpc] at hpcs
  exact ⟨f, Sample.reached_mapped, hframe Sample.recordings Sample.asking {} rfl rfl, hfpath,
    hfline, hpcs, Sample.reached_relaunched, hstop⟩

end Adapter
end TraceAdapter
