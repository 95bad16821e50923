import TraceAdapter.Proofs.Adapter.Reached

/-!
# Stepping by lines

From a step on a line a session goes on to the first later step on another one, and
passes over steps without a line.  The frame is shown at the line of its step, so the
client sees the line change.
-/

namespace TraceAdapter

namespace Walk

/-!
## The next line
-/

def lineAt? (map : Option SourceMap) (steps : List Step) (index : Nat) :
    Option (String × Nat) :=
  (steps[index]?).bind (lineOf? map)

/-- No step behind an index and before another is on a line other than a given one. -/
def OnLineBetween (map : Option SourceMap) (steps : List Step) (start : Nat)
    (line : String × Nat) (index : Nat) : Prop :=
  forall k, start < k -> k < index ->
    lineAt? map steps k = none ∨ lineAt? map steps k = some line

/-- A step is the first one behind an index on a line other than a given one. -/
structure NextLine (map : Option SourceMap) (steps : List Step) (start : Nat)
    (line : String × Nat) (index : Nat) (other : String × Nat) : Prop where
  later : start < index
  there : lineAt? map steps index = some other
  changed : other ≠ line
  between : OnLineBetween map steps start line index

theorem lineAt?_eq_some_iff {map : Option SourceMap} {steps : List Step} {index : Nat}
    {line : String × Nat} :
    lineAt? map steps index = some line ↔
      exists step, steps[index]? = some step ∧ lineOf? map step = some line := by
  unfold lineAt?
  rw [Option.bind_eq_some_iff]

theorem lineAt?_of_no_map (steps : List Step) (index : Nat) :
    lineAt? none steps index = none := by
  unfold lineAt?
  cases steps[index]? with
  | none => rfl
  | some step => rfl

theorem lineAt?_of_test {map : Option SourceMap} {steps : List Step} {index : Nat}
    {line : String × Nat}
    (h : forall step, steps[index]? = some step ->
      (lineOf? map step).any (· != line) = false) :
    lineAt? map steps index = none ∨ lineAt? map steps index = some line := by
  unfold lineAt?
  cases hstep : steps[index]? with
  | none => exact Or.inl rfl
  | some step =>
      rw [Option.bind_some]
      cases hline : lineOf? map step with
      | none => exact Or.inl rfl
      | some there =>
          have htest := h step hstep
          rw [hline, Option.any_some, bne_eq_false_iff_eq] at htest
          exact Or.inr (congrArg some htest)

/-- From a step on a line the walk ends at the next line, or at the last step if there
is none. -/
theorem sourceLine_cases {map : Option SourceMap} {steps : List Step} {start : Nat}
    {line : String × Nat} (h : lineAt? map steps start = some line) :
    (exists index other, NextLine map steps start line index other ∧
      sourceLine steps start map = index) ∨
      OnLineBetween map steps start line steps.length ∧
        sourceLine steps start map = lastIndex steps := by
  have hstart : (steps[start]?).bind (lineOf? map) = some line := h
  unfold sourceLine
  rw [hstart]
  dsimp only
  cases hfind : firstAfter? steps start fun s => (lineOf? map s).any (· != line) with
  | some index =>
      left
      rcases firstAfter?_eq_some_iff.mp hfind with
        ⟨hlater, ⟨step, hstep, htest⟩, hbefore⟩
      rcases Option.any_eq_true _ _ |>.mp htest with ⟨other, hother, hne⟩
      refine ⟨index, other, ⟨hlater, ?_, bne_iff_ne.mp hne, ?_⟩, rfl⟩
      · exact lineAt?_eq_some_iff.mpr ⟨step, hstep, hother⟩
      · intro k hstart hk
        apply lineAt?_of_test
        intro earlier hearlier
        exact hbefore k earlier hstart hk hearlier
  | none =>
      right
      refine ⟨?_, rfl⟩
      intro k hstart _hk
      apply lineAt?_of_test
      intro later hlater
      exact firstAfter?_eq_none_iff.mp hfind k later hstart hlater

theorem sourceLine_of_none {map : Option SourceMap} {steps : List Step} {start : Nat}
    (h : lineAt? map steps start = none) :
    sourceLine steps start map = min (start + 1) (lastIndex steps) := by
  have hstart : (steps[start]?).bind (lineOf? map) = none := h
  unfold sourceLine
  rw [hstart]
  rfl

end Walk

namespace Session

variable {σ : Type} [Debugger σ]

/-!
## The frame shows the line
-/

theorem lineOf?_eq_some {map : Option SourceMap} {step : Step} {line : String × Nat}
    (h : Walk.lineOf? map step = some line) :
    exists m place column,
      map = some m ∧ m.place? step.pc = some place ∧ place.path = line.1 ∧
        m.lineColumn? place.path place.offset = some (line.2, column) := by
  rcases Option.bind_eq_some_iff.mp h with ⟨m, rfl, hline⟩
  unfold SourceMap.line? at hline
  cases hplace : m.place? step.pc with
  | none =>
      rw [hplace] at hline
      cases hline
  | some place =>
      rw [hplace] at hline
      dsimp only at hline
      cases hposition : m.lineColumn? place.path place.offset with
      | none =>
          rw [hposition] at hline
          cases hline
      | some position =>
          rw [hposition] at hline
          cases hline
          exact ⟨m, place, position.2, rfl, hplace, rfl, hposition⟩

theorem frames_of_lineAt? {s : Session σ} {steps : List Step} {line : String × Nat}
    (htrace : s.trace? = some steps)
    (h : Walk.lineAt? s.sourceMap? steps s.index = some line) :
    exists f, s.frames = [f] ∧ f.source.path = some line.1 ∧ f.line = line.2 := by
  rcases Walk.lineAt?_eq_some_iff.mp h with ⟨step, hstep, hline⟩
  rcases lineOf?_eq_some hline with ⟨map, place, column, hmap, hplace, hpath, hposition⟩
  have hcurrent : s.step? = some step := by
    unfold step?
    rw [htrace]
    exact hstep
  have hshown : s.position step =
      ({ name := Path.fileName? place.path, path := some place.path }, line.2,
        column) := by
    unfold position
    rw [hmap]
    dsimp only
    rw [hplace]
    dsimp only
    rw [hposition, Option.getD_some]
  unfold frames
  rw [hcurrent]
  dsimp only
  rw [hshown]
  exact ⟨_, rfl, congrArg some hpath, rfl⟩

end Session

namespace Adapter

open Protocol (Request StackTraceArguments)

variable {ω σ : Type} [Debugger σ]

/-!
## Stepping
-/

theorem handle_stepLine {s : Session σ} {steps : List Step}
    (htrace : s.trace? = some steps) (hsteps : steps ≠ []) {r : Request}
    (hcommand : r.command = "next" ∨ r.command = "stepOut")
    (c : Launch.Collaborators ω σ) :
    handle c s r =
      { result := .ok .stepped
        session := s.movedTo (Walk.sourceLine steps s.index s.sourceMap?) } := by
  have hhandle : handle c s r = stepLine s := by
    rcases hcommand with hnext | hout
    · exact handle_of_command .next hnext c s
    · exact handle_of_command .stepOut hout c s
  have htarget : Walk.sourceLine steps s.index s.sourceMap? < s.length := by
    rw [Session.length_of_trace htrace]
    exact Walk.sourceLine_lt (List.length_pos_iff.mpr hsteps) s.index s.sourceMap?
  rw [hhandle, stepLine, step_of_trace htrace, moveAndReply_of_lt htarget]

theorem handle_stackTrace {r : Request} {a : StackTraceArguments}
    (hcommand : r.command = "stackTrace")
    (hgood : arguments StackTraceArguments.decode {} r = .ok a)
    (c : Launch.Collaborators ω σ) (s : Session σ) :
    (handle c s r).result = .ok (.frames s.frames) := by
  have hhandle : handle c s r = observe s (.ok (.frames s.frames)) := by
    rw [handle_of_command .stackTrace hcommand]
    exact withArguments_of_ok hgood s _
  rw [hhandle]
  rfl

/-- A live session steps by lines.  From a step without a line it goes on by one
instruction.  From a step on a line it goes on to the first later step on another line
and then shows its frame there, or it goes on to the last step if there is no such
line. -/
theorem next_line_shown {s : Session σ} {l : Live σ} (hlive : s.live? = some l)
    (hsteps : l.steps ≠ []) {r : Request}
    (hcommand : r.command = "next" ∨ r.command = "stepOut")
    (c : Launch.Collaborators ω σ) :
    let line := Walk.lineAt? s.sourceMap? l.steps
    let last := l.steps.length - 1
    let after := (handle c s r).session
    (handle c s r).result = .ok .stepped ∧
      (s.sourceMap? = none ∨ line s.index = none ->
        after.index = min (s.index + 1) last) ∧
      forall here, line s.index = some here ->
        (exists index there f g,
          Walk.NextLine s.sourceMap? l.steps s.index here index there ∧
            after.index = index ∧
            (f.source.path, f.line) = (some here.1, here.2) ∧
            (g.source.path, g.line) = (some there.1, there.2) ∧
            (f.source.path, f.line) ≠ (g.source.path, g.line) ∧
            forall (c' : Launch.Collaborators ω σ) (q : Request)
                (a : StackTraceArguments),
              q.command = "stackTrace" ->
              arguments StackTraceArguments.decode {} q = .ok a ->
              (handle c' s q).result = .ok (.frames [f]) ∧
                (handle c' after q).result = .ok (.frames [g])) ∨
        Walk.OnLineBetween s.sourceMap? l.steps s.index here l.steps.length ∧
          after.index = last := by
  rcases Session.live?_eq_some_iff.mp hlive with ⟨_, htrace, _⟩
  dsimp only
  rw [handle_stepLine htrace hsteps hcommand]
  refine ⟨rfl, ?_, ?_⟩
  · intro hnone
    apply Walk.sourceLine_of_none
    rcases hnone with hmap | hline
    · rw [hmap]
      exact Walk.lineAt?_of_no_map l.steps s.index
    · exact hline
  · intro here hhere
    rcases Walk.sourceLine_cases hhere with ⟨index, there, hnext, htarget⟩ | ⟨hstay, hlast⟩
    · left
      rw [htarget]
      have htrace' : (s.movedTo index).trace? = some l.steps := htrace
      have hthere : Walk.lineAt? (s.movedTo index).sourceMap? l.steps
          (s.movedTo index).index = some there := hnext.there
      rcases Session.frames_of_lineAt? htrace hhere with ⟨f, hf, hfpath, hfline⟩
      rcases Session.frames_of_lineAt? htrace' hthere with ⟨g, hg, hgpath, hgline⟩
      have hfshown : (f.source.path, f.line) = (some here.1, here.2) := by
        rw [hfpath, hfline]
      have hgshown : (g.source.path, g.line) = (some there.1, there.2) := by
        rw [hgpath, hgline]
      refine ⟨index, there, f, g, hnext, rfl, hfshown, hgshown, ?_, ?_⟩
      · rw [hfshown, hgshown]
        intro heq
        rw [Prod.mk.injEq, Option.some.injEq] at heq
        exact hnext.changed (Prod.ext heq.1.symm heq.2.symm)
      · intro c' q a hq hgood
        rw [handle_stackTrace hq hgood, handle_stackTrace hq hgood, hf, hg]
        exact ⟨rfl, rfl⟩
    · exact Or.inr ⟨hstay, hlast⟩

namespace Sample

/-- A debugger with two files.  The third step is of no file and the second of a place
without a line. -/
def twoFiles : Scripted where
  steps := (List.range 5).map fun pc =>
    ⟨pc, "JUMPDEST", [], none, none, none, none, none⟩
  places := some
    [(0, "A.sol", some (3, 1)), (1, "A.sol", none), (3, "A.sol", some (3, 9)),
      (4, "B.sol", some (3, 1))]

def inFirstFile : Session Scripted where
  debugger? := some twoFiles
  trace? := some twoFiles.steps

def steppingOut : Request := { seq := 1, command := "stepOut" }

def asking : Request := { seq := 2, command := "stackTrace" }

end Sample

theorem next_line_shown_in_other_file :
    exists f g : Protocol.StackFrame,
      (handle Sample.collaborators Sample.inFirstFile Sample.asking).result =
          .ok (.frames [f]) ∧
        (handle Sample.collaborators
          (handle Sample.collaborators Sample.inFirstFile Sample.steppingOut).session
          Sample.asking).result = .ok (.frames [g]) ∧
        (handle Sample.collaborators Sample.inFirstFile
          Sample.steppingOut).session.index = 4 ∧
        f.line = 3 ∧ (f.source.path, f.line) ≠ (g.source.path, g.line) := by
  have hstepped := next_line_shown (s := Sample.inFirstFile)
    (l := ⟨Sample.twoFiles, Sample.twoFiles.steps, none⟩) rfl (by decide)
    (r := Sample.steppingOut) (Or.inr rfl) Sample.collaborators
  rcases hstepped.2.2 ("A.sol", 3) rfl with
    ⟨_, _, f, g, _, _, hfshown, _, hne, hshown⟩ | ⟨hstay, _⟩
  · rcases hshown Sample.collaborators Sample.asking {} rfl rfl with ⟨hf, hg⟩
    exact ⟨f, g, hf, hg, rfl, (Prod.ext_iff.mp hfshown).2, hne⟩
  · rcases hstay 4 (by decide) (by decide) with hnone | hsame
    · cases hnone
    · have hfile : ("B.sol", 3) = ("A.sol", 3) := Option.some.inj hsame
      exact absurd hfile (by decide)

end Adapter
end TraceAdapter
