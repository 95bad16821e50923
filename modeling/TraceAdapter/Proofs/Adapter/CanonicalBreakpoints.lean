import TraceAdapter.Proofs.Adapter.Reached

/-!
# The breakpoints of a reached session

What a session asks for in a path is the batch that was set last for it, and
what it works on is what the last launch made current.  The program counters at
which it stops are those which these batches resolve to in this launch.  So a
history matters through its last batches and its last launch alone.
-/

namespace TraceAdapter
namespace Adapter

open Breakpoint (Descriptor Store)
open Launch (Launched)
open Protocol (Request)

variable {ω σ : Type}

/-!
## The last batch of a path
-/

/-- The batch that was set last for a path, empty before the first. -/
def lastBatch (past : List (Occasion ω σ)) (path : String) : List Descriptor :=
  past.foldl
    (fun before o =>
      match batch? o.request with
      | none => before
      | some (p, batch) => if p = path then batch else before)
    []

theorem lastBatch_snoc_of_none {o : Occasion ω σ} (h : batch? o.request = none)
    (past : List (Occasion ω σ)) (path : String) :
    lastBatch (past ++ [o]) path = lastBatch past path := by
  simp only [lastBatch, List.foldl_append, List.foldl_cons, List.foldl_nil, h]

theorem lastBatch_snoc_of_some {o : Occasion ω σ} {p : String}
    {batch : List Descriptor} (h : batch? o.request = some (p, batch))
    (past : List (Occasion ω σ)) (path : String) :
    lastBatch (past ++ [o]) path =
      if p = path then batch else lastBatch past path := by
  simp only [lastBatch, List.foldl_append, List.foldl_cons, List.foldl_nil, h]

variable [Debugger σ]

theorem requests_setBatch (s : Session σ) (p : String) (batch : List Descriptor)
    (path : String) :
    (s.setBatch p batch).2.breakpoints.requests path =
      if p = path then batch else s.breakpoints.requests path := by
  rw [Session.setBatch_session, (Session.sameApart_registerAll _ p batch).requests_eq]
  by_cases hpath : p = path
  · subst hpath
    rw [if_pos rfl]
    exact Store.requests_replace_self s.breakpoints p batch
  · rw [if_neg hpath]
    exact Store.requests_replace_of_ne (Ne.symm hpath) s.breakpoints batch

theorem requests_registerStored (s : Session σ) :
    s.registerStored.breakpoints.requests = s.breakpoints.requests :=
  (Session.sameApart_registerPaths s s.breakpoints.paths).requests_eq

/-- A change makes the batch that it sets the one asked for and keeps all
others. -/
theorem Change.requests_eq_lastBatch {s after : Session σ} {o : Occasion ω σ}
    {past : List (Occasion ω σ)} (h : Change o.collaborators s o.request after)
    (hs : forall path, s.breakpoints.requests path = lastBatch past path)
    (path : String) :
    after.breakpoints.requests path = lastBatch (past ++ [o]) path := by
  cases h with
  | stays hbatch =>
      rw [lastBatch_snoc_of_none hbatch]
      exact hs path
  | moves hbatch _ hmove =>
      rw [lastBatch_snoc_of_none hbatch, Session.breakpoints_of_moveTo hmove]
      exact hs path
  | sets hbatch =>
      rw [lastBatch_snoc_of_some hbatch, requests_setBatch, hs path]
  | fails hbatch =>
      rw [lastBatch_snoc_of_none hbatch]
      exact hs path
  | launches hbatch _ _ hinstall =>
      rw [lastBatch_snoc_of_none hbatch, requests_registerStored,
        Session.breakpoints_of_install hinstall]
      exact hs path

theorem Reached.requests_eq_lastBatch {past : List (Occasion ω σ)}
    {s : Session σ} (h : Reached past s) (path : String) :
    s.breakpoints.requests path = lastBatch past path := by
  induction h generalizing path with
  | start => rfl
  | reordered h horder ih =>
      rw [← horder.requests_eq h.matched.coherent]
      exact ih path
  | handled o _h ih =>
      exact (change_handle o.collaborators _ o.request).requests_eq_lastBatch ih path

/-!
## The last launch
-/

/-- What the last launch made current, none if it failed and none before the
first. -/
def lastLaunch (past : List (Occasion ω σ)) : Option (Launched σ) :=
  past.foldl
    (fun before o =>
      match launchArguments? o.request with
      | none => before
      | some a => launched? o.collaborators a)
    none

theorem lastLaunch_snoc_of_none {o : Occasion ω σ}
    (h : launchArguments? o.request = none) (past : List (Occasion ω σ)) :
    lastLaunch (past ++ [o]) = lastLaunch past := by
  simp only [lastLaunch, List.foldl_append, List.foldl_cons, List.foldl_nil, h]

theorem lastLaunch_snoc_of_some {o : Occasion ω σ}
    {a : Protocol.LaunchArguments} (h : launchArguments? o.request = some a)
    (past : List (Occasion ω σ)) :
    lastLaunch (past ++ [o]) = launched? o.collaborators a := by
  simp only [lastLaunch, List.foldl_append, List.foldl_cons, List.foldl_nil, h]

omit [Debugger σ] in
def current (l : Launched σ) : Live σ :=
  ⟨l.debugger, l.simulation.steps, l.simulation.functions⟩

theorem Change.live?_eq_lastLaunch {s after : Session σ} {o : Occasion ω σ}
    {past : List (Occasion ω σ)} (h : Change o.collaborators s o.request after)
    (hs : s.live? = (lastLaunch past).map current) :
    after.live? = (lastLaunch (past ++ [o])).map current := by
  cases h with
  | stays _ hlaunch =>
      rw [lastLaunch_snoc_of_none hlaunch]
      exact hs
  | moves _ hlaunch hmove =>
      rw [lastLaunch_snoc_of_none hlaunch, Session.live?_of_moveTo hmove]
      exact hs
  | sets _ hlaunch =>
      rw [lastLaunch_snoc_of_none hlaunch, Session.setBatch_session,
        (Session.sameApart_registerAll _ _ _).live?_eq]
      exact hs
  | fails _ hlaunch hfailed =>
      rw [lastLaunch_snoc_of_some hlaunch, hfailed]
      rfl
  | launches _ hlaunch hlaunched hinstall =>
      rw [lastLaunch_snoc_of_some hlaunch, hlaunched, Session.registerStored_eq,
        (Session.sameApart_registerPaths _ _).live?_eq,
        Session.live?_of_install hinstall]
      rfl

theorem Reached.live?_eq_lastLaunch {past : List (Occasion ω σ)} {s : Session σ}
    (h : Reached past s) : s.live? = (lastLaunch past).map current := by
  induction h with
  | start => rfl
  | reordered _h _horder ih => exact ih
  | handled o _h ih =>
      exact (change_handle o.collaborators _ o.request).live?_eq_lastLaunch ih

/-!
## Where a reached session stops
-/

theorem Reached.counters_eq {past past' : List (Occasion ω σ)}
    {s s' : Session σ} (h : Reached past s) (h' : Reached past' s')
    (hlaunch : lastLaunch past = lastLaunch past') : s.counters = s'.counters := by
  apply Session.counters_congr
  rw [h.live?_eq_lastLaunch, h'.live?_eq_lastLaunch, hlaunch]

theorem Reached.mem_pcs_iff {past : List (Occasion ω σ)} {s : Session σ}
    (h : Reached past s) (pc : Nat) :
    pc ∈ s.breakpoints.pcs ↔
      exists path d, d ∈ lastBatch past path ∧ pc ∈ s.counters d := by
  rw [h.matched.mem_pcs_iff]
  simp only [h.requests_eq_lastBatch]

theorem mem_counters_of_live {s : Session σ} {l : Live σ}
    (hlive : s.live? = some l) (d : Descriptor) (pc : Nat) :
    pc ∈ s.counters d ↔
      exists pcs,
        Debugger.resolve l.debugger d l.steps l.functions = .ok pcs ∧ pc ∈ pcs := by
  rw [Session.mem_counters]
  unfold Session.resolve
  rw [hlive]

/-- A reached session asks for the last batch of each path, works on the last
launch, and stops at what the one resolves to in the other.  Two histories with
the same last batches and the same last launch stop at the same places. -/
theorem breakpoints_canonical {past : List (Occasion ω σ)} {s : Session σ}
    (h : Reached past s) :
    (forall path, s.breakpoints.requests path = lastBatch past path) ∧
      s.live? = (lastLaunch past).map current ∧
      (forall l, s.live? = some l ->
        forall pc, pc ∈ s.breakpoints.pcs ↔
          exists path d pcs,
            d ∈ s.breakpoints.requests path ∧
              Debugger.resolve l.debugger d l.steps l.functions = .ok pcs ∧
              pc ∈ pcs) ∧
      (s.isLive = false -> s.breakpoints.pcs = []) ∧
      (forall (past' : List (Occasion ω σ)) (s' : Session σ), Reached past' s' ->
        (forall path, lastBatch past path = lastBatch past' path) ->
        lastLaunch past = lastLaunch past' ->
        forall pc, pc ∈ s.breakpoints.pcs ↔ pc ∈ s'.breakpoints.pcs) := by
  refine ⟨h.requests_eq_lastBatch, h.live?_eq_lastLaunch, ?_, ?_, ?_⟩
  · intro l hlive pc
    rw [h.matched.mem_pcs_iff]
    simp only [mem_counters_of_live hlive]
    constructor
    · rintro ⟨path, d, hd, pcs, hpcs, hpc⟩
      exact ⟨path, d, pcs, hd, hpcs, hpc⟩
    · rintro ⟨path, d, pcs, hd, hpcs, hpc⟩
      exact ⟨path, d, hd, pcs, hpcs, hpc⟩
  · exact h.matched.pcs_of_dead
  · intro past' s' h' hbatch hlaunch pc
    rw [h.mem_pcs_iff, h'.mem_pcs_iff, h.counters_eq h' hlaunch]
    simp only [hbatch]

theorem breakpoints_canonical_around_launch :
    exists early late : Session Scripted,
      Reached [Sample.setting, Sample.launching] early ∧
        Reached [Sample.launching, Sample.setting] late ∧
        late.breakpoints.pcs = [7] ∧ 7 ∈ early.breakpoints.pcs := by
  have hearly := (Reached.start.handled Sample.setting).handled Sample.launching
  have hlate := (Reached.start.handled Sample.launching).handled Sample.setting
  refine ⟨_, _, hearly, hlate, rfl, ?_⟩
  rcases breakpoints_canonical hearly with ⟨_, _, _, _, hsame⟩
  rw [hsame _ _ hlate (fun path => rfl) rfl]
  decide +kernel

end Adapter
end TraceAdapter
