import TraceAdapter.Launch.Basic

/-!
# Launches that succeed

A launch that succeeds found its target, bound a debugger to it and ran it to a
trace with steps.  The first stop is the one that the calls of the trace and the
name of the target say, and it names one of these calls or none.
-/

namespace TraceAdapter

namespace EntryPoint

theorem function?_find_lt {functions : Option (List Invocation)} {target : String}
    {i : Nat} (h : (find functions target).function? = some i) :
    exists fs, functions = some fs ∧ i < fs.length := by
  unfold find at h
  cases hcall : (functions.getD [])[position (functions.getD []) target]? with
  | none =>
      simp only [hcall] at h
      cases h
  | some f =>
      simp only [hcall] at h
      cases h
      rcases List.getElem?_eq_some_iff.mp hcall with ⟨hbound, _⟩
      cases functions with
      | none => cases hbound
      | some fs => exact ⟨fs, rfl, hbound⟩

end EntryPoint

namespace Launch

variable {ω σ : Type} [Debugger σ]

/-- A launch that succeeds ran a debugger to a trace with steps and stops first
where its calls say. -/
theorem launch_ok {c : Collaborators ω σ} {a : Protocol.LaunchArguments}
    {l : Launched σ} (h : (launch c a).result = .ok l) :
    exists target debugger world,
      (findTarget c a).target = .ok target ∧
        c.create world target = .ok debugger ∧
        (start debugger target (! a.noSnapshot)).2 = .ok l := by
  unfold launch at h
  cases htarget : (findTarget c a).target with
  | error e =>
      simp only [htarget] at h
      cases h
  | ok target =>
      cases hcreate : c.create (c.after (findTarget c a).world?).world target with
      | error e =>
          simp only [htarget, hcreate] at h
          cases h
      | ok debugger =>
          simp only [htarget, hcreate] at h
          exact ⟨target, debugger, _, rfl, hcreate, h⟩

theorem start_ok {debugger : σ} {target : Target} {snapshot : Bool}
    {l : Launched σ} (h : (start debugger target snapshot).2 = .ok l) :
    exists bound,
      bound = withSnapshot (withAbi debugger target.abiPath) snapshot ∧
        (Debugger.run bound).result = .ok l.simulation ∧
        l.debugger = (Debugger.run bound).after ∧
        l.simulation.steps ≠ [] ∧
        l.entry = EntryPoint.find l.simulation.functions target.functionName := by
  refine ⟨_, rfl, ?_⟩
  unfold start at h
  cases hrun :
      (Debugger.run (withSnapshot (withAbi debugger target.abiPath) snapshot)).result with
  | error e =>
      simp only [hrun, checkRun, Except.map] at h
      cases h
  | ok simulation =>
      by_cases hempty : simulation.steps.isEmpty
      · simp only [hrun, checkRun, hempty, if_true, Except.map] at h
        cases h
      · simp only [hrun, checkRun, hempty, Except.map] at h
        cases h
        refine ⟨rfl, rfl, ?_, rfl⟩
        intro hnil
        exact hempty (List.isEmpty_iff.mpr hnil)

end Launch

end TraceAdapter
