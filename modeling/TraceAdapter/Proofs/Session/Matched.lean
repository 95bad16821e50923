import TraceAdapter.Proofs.Session.Registration

/-!
# Matched sessions

A session is matched when what it has found for each path is what the
breakpoints asked for there resolve to.  While it is not live nothing resolves,
so a matched session that is not live has found nothing.  Every change that an
adapter makes to a session leaves it matched.
-/

namespace TraceAdapter
namespace Session

open Breakpoint (Descriptor Store)

variable {σ : Type}

/-!
## Installing and moving
-/

theorem install_eq_ok_iff {s after : Session σ} {debugger : σ}
    {simulation : Simulation} {entry : EntryPoint} :
    s.install debugger simulation entry = .ok after ↔
      entry.step < simulation.steps.length ∧
        after =
          { s with
            debugger? := some debugger
            trace? := some simulation.steps
            functions? := simulation.functions
            index := entry.step
            function? := entry.function? } := by
  unfold install
  by_cases hfit : entry.step < simulation.steps.length
  · simp [hfit, eq_comm]
  · simp [hfit]

/-- The session at a step.  The innermost call around the step is the current one, if
there is any. -/
def movedTo (s : Session σ) (index : Nat) : Session σ :=
  { s with
    index
    function? :=
      (s.functions?.bind fun fs => Invocation.innermost? fs index).or s.function? }

theorem moveTo_eq_ok_iff {s after : Session σ} {index : Nat} :
    s.moveTo index = .ok after ↔ index < s.length ∧ after = s.movedTo index := by
  unfold moveTo movedTo
  by_cases hfit : index < s.length
  · simp [hfit, eq_comm]
  · simp [hfit]

theorem length_of_trace {s : Session σ} {steps : List Step}
    (h : s.trace? = some steps) : s.length = steps.length := by
  unfold length
  rw [h]
  rfl

theorem live?_of_install {s after : Session σ} {debugger : σ}
    {simulation : Simulation} {entry : EntryPoint}
    (h : s.install debugger simulation entry = .ok after) :
    after.live? = some ⟨debugger, simulation.steps, simulation.functions⟩ := by
  rcases install_eq_ok_iff.mp h with ⟨_, rfl⟩
  rfl

theorem breakpoints_of_install {s after : Session σ} {debugger : σ}
    {simulation : Simulation} {entry : EntryPoint}
    (h : s.install debugger simulation entry = .ok after) :
    after.breakpoints = s.breakpoints := by
  rcases install_eq_ok_iff.mp h with ⟨_, rfl⟩
  rfl

theorem live?_of_moveTo {s after : Session σ} {index : Nat}
    (h : s.moveTo index = .ok after) : after.live? = s.live? := by
  rcases moveTo_eq_ok_iff.mp h with ⟨_, rfl⟩
  rfl

theorem breakpoints_of_moveTo {s after : Session σ} {index : Nat}
    (h : s.moveTo index = .ok after) : after.breakpoints = s.breakpoints := by
  rcases moveTo_eq_ok_iff.mp h with ⟨_, rfl⟩
  rfl

theorem isLive_clear (s : Session σ) : s.clear.isLive = false := rfl

/-!
## What is found matches what is asked for
-/

variable [Debugger σ]

theorem counters_congr {s t : Session σ} (h : s.live? = t.live?) :
    s.counters = t.counters := by
  funext d
  unfold counters resolve
  rw [h]

/-- What is found for each path is what its breakpoints resolve to. -/
structure Matched (s : Session σ) : Prop where
  coherent : s.breakpoints.Coherent
  resolved : forall path pc,
    pc ∈ s.breakpoints.foundIn path ↔
      exists d, d ∈ s.breakpoints.requests path ∧ pc ∈ s.counters d

theorem matched_empty : Matched ({} : Session σ) where
  coherent := Store.coherent_empty
  resolved := by
    intro path pc
    simp [Store.foundIn, Store.requests]

theorem Matched.mem_pcs_iff {s : Session σ} (h : s.Matched) (pc : Nat) :
    pc ∈ s.breakpoints.pcs ↔
      exists path d, d ∈ s.breakpoints.requests path ∧ pc ∈ s.counters d := by
  rw [h.coherent.gathered]
  simp only [h.resolved]

theorem Matched.pcs_of_dead {s : Session σ} (h : s.Matched)
    (hdead : s.isLive = false) : s.breakpoints.pcs = [] := by
  apply List.eq_nil_iff_forall_not_mem.mpr
  intro pc hpc
  rcases (h.mem_pcs_iff pc).mp hpc with ⟨path, d, _hd, hcounter⟩
  rw [counters_of_dead hdead] at hcounter
  cases hcounter

/-!
## Changes keep a session matched
-/

theorem Matched.clear {s : Session σ} (h : s.Matched) : s.clear.Matched where
  coherent := h.coherent.forgetFound
  resolved := by
    intro path pc
    constructor
    · intro hpc
      cases hpc
    · rintro ⟨d, _hd, hcounter⟩
      rw [counters_of_dead (isLive_clear s)] at hcounter
      cases hcounter

theorem Matched.moveTo {s after : Session σ} (h : s.Matched) {index : Nat}
    (hmove : s.moveTo index = .ok after) : after.Matched where
  coherent := by
    rw [breakpoints_of_moveTo hmove]
    exact h.coherent
  resolved := by
    rw [breakpoints_of_moveTo hmove, counters_congr (live?_of_moveTo hmove)]
    exact h.resolved

theorem Matched.reordered {s : Session σ} (h : s.Matched) {store : Store}
    (horder : s.breakpoints.Reordered store) :
    Matched { s with breakpoints := store } where
  coherent := horder.coherent h.coherent
  resolved := by
    intro path pc
    show pc ∈ store.foundIn path ↔
      exists d, d ∈ store.requests path ∧ pc ∈ s.counters d
    rw [← horder.foundIn_eq h.coherent, ← horder.requests_eq h.coherent]
    exact h.resolved path pc

theorem Matched.setBatch {s : Session σ} (h : s.Matched) (path : String)
    (batch : List Descriptor) : (s.setBatch path batch).2.Matched := by
  -- Replacing forgets what was found for the path alone, and nothing that is
  -- found for it again comes from another path.
  rw [setBatch_session]
  let replaced := { s with breakpoints := s.breakpoints.replace path batch }
  have hsame := sameApart_registerAll replaced path batch
  have hcounters : (replaced.registerAll path batch).counters = s.counters :=
    hsame.counters_eq
  constructor
  · apply coherent_registerAll (h.coherent.replace path batch)
    exact (Store.mem_keys_asked_replace s.breakpoints path path batch).mpr
      (Or.inl rfl)
  · intro other pc
    rw [hcounters, hsame.requests_eq]
    by_cases hother : other = path
    · subst hother
      have hempty : replaced.breakpoints.foundIn other = [] :=
        Store.foundIn_replace_self s.breakpoints other batch
      have hasked : replaced.breakpoints.requests other = batch :=
        Store.requests_replace_self s.breakpoints other batch
      rw [foundIn_registerAll_self, hempty, hasked, List.nil_append,
        List.mem_flatMap]
      exact Iff.rfl
    · have hkept : replaced.breakpoints.foundIn other = s.breakpoints.foundIn other :=
        Store.foundIn_replace_of_ne hother s.breakpoints batch
      have hasked : replaced.breakpoints.requests other = s.breakpoints.requests other :=
        Store.requests_replace_of_ne hother s.breakpoints batch
      rw [foundIn_registerAll_of_ne hother, hkept, hasked]
      exact h.resolved other pc

theorem matched_registerStored {s : Session σ} (h : s.breakpoints.Coherent)
    (hfresh : forall path, s.breakpoints.foundIn path = []) :
    s.registerStored.Matched := by
  rw [registerStored_eq]
  have hsame := sameApart_registerPaths s s.breakpoints.paths
  constructor
  · apply coherent_registerPaths h
    intro path hpath
    exact Store.mem_asked_of_mem_paths hpath
  · intro path pc
    rw [hsame.counters_eq, hsame.requests_eq]
    by_cases hpath : path ∈ s.breakpoints.paths
    · rw [foundIn_registerPaths_of_mem (Store.paths_nodup h.askedOnce) hpath, hfresh,
        List.nil_append, List.mem_flatMap]
    · have hnone : s.breakpoints.requests path = [] := by
        apply Classical.byContradiction
        intro hne
        exact hpath ((Store.mem_paths_iff h.askedOnce path).mpr hne)
      rw [foundIn_registerPaths_of_not_mem hpath, hfresh, hnone]
      simp

theorem Matched.launch {s after : Session σ} (h : s.Matched) {debugger : σ}
    {simulation : Simulation} {entry : EntryPoint}
    (hinstall : s.clear.install debugger simulation entry = .ok after) :
    after.registerStored.Matched := by
  apply matched_registerStored
  · rw [breakpoints_of_install hinstall]
    exact h.coherent.forgetFound
  · intro path
    rw [breakpoints_of_install hinstall]
    rfl

end Session
end TraceAdapter
