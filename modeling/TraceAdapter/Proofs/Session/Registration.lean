import TraceAdapter.Proofs.Breakpoint.Coherence
import TraceAdapter.Session.Batch

/-!
# Registration

Looking breakpoints up changes nothing in a session but the program counters
that it keeps.  Those of a path become what the breakpoints of the path resolve
to; those of other paths stay.
-/

namespace TraceAdapter
namespace Session

open Breakpoint (Descriptor Store)

variable {σ : Type}

theorem live?_eq_none_iff (s : Session σ) : s.live? = none ↔ s.isLive = false := by
  unfold live? isLive
  cases s.debugger? with
  | none => simp
  | some debugger =>
      cases s.trace? with
      | none => simp
      | some steps => simp

theorem isLive_iff_exists_live? (s : Session σ) :
    s.isLive = true ↔ exists l, s.live? = some l := by
  rw [← Option.isSome_iff_exists, ← Bool.not_eq_false, ← live?_eq_none_iff,
    ← Option.isNone_iff_eq_none, Option.isSome_iff_ne_none, Option.isNone_iff_eq_none]

theorem live?_eq_some_iff {s : Session σ} {l : Live σ} :
    s.live? = some l ↔
      s.debugger? = some l.debugger ∧ s.trace? = some l.steps ∧
        s.functions? = l.functions := by
  unfold live?
  rcases l with ⟨debugger, steps, functions⟩
  cases s.debugger? with
  | none => simp
  | some debugger =>
      cases s.trace? with
      | none => simp
      | some steps => simp

/-!
## What stays
-/

/-- A session differs from another at most in what is found for breakpoints. -/
structure SameApart (s after : Session σ) : Prop where
  rest : after = { s with breakpoints := after.breakpoints }
  asked : after.breakpoints.asked = s.breakpoints.asked

namespace SameApart

variable {s after last : Session σ}

theorem refl (s : Session σ) : SameApart s s := ⟨rfl, rfl⟩

theorem trans (h : SameApart s after) (hlast : SameApart after last) :
    SameApart s last where
  rest := by
    rw [hlast.rest, h.rest]
  asked := hlast.asked.trans h.asked

theorem live?_eq (h : SameApart s after) : after.live? = s.live? := by
  rw [h.rest]
  rfl

theorem isLive_eq (h : SameApart s after) : after.isLive = s.isLive := by
  rw [h.rest]
  rfl

theorem requests_eq (h : SameApart s after) :
    after.breakpoints.requests = s.breakpoints.requests := by
  funext path
  unfold Store.requests
  rw [h.asked]

end SameApart

variable [Debugger σ]

/-!
## What a breakpoint resolves to
-/

/-- The program counters that a breakpoint resolves to, none if it fails. -/
def counters (s : Session σ) (d : Descriptor) : List Nat :=
  match s.resolve d with
  | .ok pcs => pcs
  | .error _ => []

theorem mem_counters {s : Session σ} {d : Descriptor} {pc : Nat} :
    pc ∈ s.counters d ↔ exists pcs, s.resolve d = .ok pcs ∧ pc ∈ pcs := by
  unfold counters
  cases s.resolve d with
  | error e => simp
  | ok pcs => simp

theorem resolve_of_dead {s : Session σ} (h : s.isLive = false) (d : Descriptor) :
    s.resolve d = .error (.breakpointFailed d.display .noSession) := by
  unfold resolve
  rw [(live?_eq_none_iff s).mpr h]

theorem counters_of_dead {s : Session σ} (h : s.isLive = false)
    (d : Descriptor) : s.counters d = [] := by
  unfold counters
  rw [resolve_of_dead h]

theorem SameApart.resolve_eq {s after : Session σ} (h : SameApart s after)
    (d : Descriptor) : after.resolve d = s.resolve d := by
  unfold resolve
  rw [h.live?_eq]

theorem SameApart.counters_eq {s after : Session σ} (h : SameApart s after) :
    after.counters = s.counters := by
  funext d
  unfold counters
  rw [h.resolve_eq]

/-!
## One breakpoint
-/

theorem tryRegister_eq (s : Session σ) (path : String) (d : Descriptor) :
    s.tryRegister path d =
      match s.resolve d with
      | .ok pcs => { s with breakpoints := s.breakpoints.register path pcs }
      | .error _ => s := by
  unfold tryRegister register
  cases s.resolve d with
  | error e => rfl
  | ok pcs => rfl

theorem sameApart_tryRegister (s : Session σ) (path : String) (d : Descriptor) :
    SameApart s (s.tryRegister path d) := by
  rw [tryRegister_eq]
  cases s.resolve d with
  | error e => exact SameApart.refl s
  | ok pcs => exact ⟨rfl, rfl⟩

theorem foundIn_tryRegister_self (s : Session σ) (path : String)
    (d : Descriptor) :
    (s.tryRegister path d).breakpoints.foundIn path =
      s.breakpoints.foundIn path ++ s.counters d := by
  rw [tryRegister_eq]
  unfold counters
  cases s.resolve d with
  | error e => simp
  | ok pcs => exact Store.foundIn_register_self s.breakpoints path pcs

theorem foundIn_tryRegister_of_ne {path other : String} (h : other ≠ path)
    (s : Session σ) (d : Descriptor) :
    (s.tryRegister path d).breakpoints.foundIn other =
      s.breakpoints.foundIn other := by
  rw [tryRegister_eq]
  cases s.resolve d with
  | error e => rfl
  | ok pcs => exact Store.foundIn_register_of_ne h s.breakpoints pcs

theorem coherent_tryRegister {s : Session σ} (h : s.breakpoints.Coherent)
    {path : String} (hpath : path ∈ Keyed.keys s.breakpoints.asked)
    (d : Descriptor) : (s.tryRegister path d).breakpoints.Coherent := by
  rw [tryRegister_eq]
  cases s.resolve d with
  | error e => exact h
  | ok pcs => exact h.register hpath pcs

/-!
## All breakpoints of a path
-/

theorem registerAll_cons (s : Session σ) (path : String) (d : Descriptor)
    (rest : List Descriptor) :
    s.registerAll path (d :: rest) = (s.tryRegister path d).registerAll path rest :=
  rfl

theorem sameApart_registerAll (s : Session σ) (path : String)
    (batch : List Descriptor) : SameApart s (s.registerAll path batch) := by
  induction batch generalizing s with
  | nil => exact SameApart.refl s
  | cons d rest ih => exact (sameApart_tryRegister s path d).trans (ih _)

theorem foundIn_registerAll_self (s : Session σ) (path : String)
    (batch : List Descriptor) :
    (s.registerAll path batch).breakpoints.foundIn path =
      s.breakpoints.foundIn path ++ batch.flatMap s.counters := by
  induction batch generalizing s with
  | nil => simp [registerAll]
  | cons d rest ih =>
      rw [registerAll_cons, ih, foundIn_tryRegister_self,
        (sameApart_tryRegister s path d).counters_eq, List.flatMap_cons,
        List.append_assoc]

theorem foundIn_registerAll_of_ne {path other : String} (h : other ≠ path)
    (s : Session σ) (batch : List Descriptor) :
    (s.registerAll path batch).breakpoints.foundIn other =
      s.breakpoints.foundIn other := by
  induction batch generalizing s with
  | nil => rfl
  | cons d rest ih => rw [registerAll_cons, ih, foundIn_tryRegister_of_ne h]

theorem coherent_registerAll {s : Session σ} (h : s.breakpoints.Coherent)
    {path : String} (hpath : path ∈ Keyed.keys s.breakpoints.asked)
    (batch : List Descriptor) : (s.registerAll path batch).breakpoints.Coherent := by
  induction batch generalizing s with
  | nil => exact h
  | cons d rest ih =>
      have hsame := sameApart_tryRegister s path d
      apply ih (coherent_tryRegister h hpath d)
      rw [hsame.asked]
      exact hpath

/-!
## Batches with records

Recording what becomes of each breakpoint does not change what is found.
-/

theorem recordAll_session (s : Session σ) (path : String)
    (batch : List Descriptor) :
    (s.recordAll path batch).2 = s.registerAll path batch := by
  induction batch generalizing s with
  | nil => rfl
  | cons d rest ih =>
      unfold recordAll
      rw [registerAll_cons]
      cases hlive : s.isLive with
      | false =>
          have hstay : s.tryRegister path d = s := by
            rw [tryRegister_eq, resolve_of_dead hlive]
          rw [hstay]
          exact ih s
      | true =>
          unfold tryRegister
          cases s.register path d with
          | error e => exact ih s
          | ok after => exact ih after

theorem setBatch_session (s : Session σ) (path : String)
    (batch : List Descriptor) :
    (s.setBatch path batch).2 =
      { s with breakpoints := s.breakpoints.replace path batch }.registerAll
        path batch :=
  recordAll_session _ path batch

/-!
## All breakpoints of several paths
-/

def registerPaths (s : Session σ) (order : List String) : Session σ :=
  order.foldl
    (fun s path => s.registerAll path (s.breakpoints.requests path)) s

theorem registerPaths_cons (s : Session σ) (path : String) (order : List String) :
    s.registerPaths (path :: order) =
      (s.registerAll path (s.breakpoints.requests path)).registerPaths order :=
  rfl

theorem registerStored_eq (s : Session σ) :
    s.registerStored = s.registerPaths s.breakpoints.paths := rfl

theorem sameApart_registerPaths (s : Session σ) (order : List String) :
    SameApart s (s.registerPaths order) := by
  induction order generalizing s with
  | nil => exact SameApart.refl s
  | cons path order ih => exact (sameApart_registerAll s path _).trans (ih _)

theorem coherent_registerPaths {s : Session σ} (h : s.breakpoints.Coherent)
    {order : List String}
    (horder : forall path, path ∈ order -> path ∈ Keyed.keys s.breakpoints.asked) :
    (s.registerPaths order).breakpoints.Coherent := by
  induction order generalizing s with
  | nil => exact h
  | cons path order ih =>
      rw [registerPaths_cons]
      apply ih (coherent_registerAll h (horder path List.mem_cons_self) _)
      intro other hother
      rw [(sameApart_registerAll s path _).asked]
      exact horder other (List.mem_cons_of_mem _ hother)

theorem foundIn_registerPaths_of_not_mem {s : Session σ} {order : List String}
    {path : String} (h : path ∉ order) :
    (s.registerPaths order).breakpoints.foundIn path =
      s.breakpoints.foundIn path := by
  induction order generalizing s with
  | nil => rfl
  | cons first order ih =>
      rw [List.mem_cons, not_or] at h
      rcases h with ⟨hne, hrest⟩
      rw [registerPaths_cons, ih hrest, foundIn_registerAll_of_ne hne]

theorem foundIn_registerPaths_of_mem {s : Session σ} {order : List String}
    (honce : order.Nodup) {path : String} (h : path ∈ order) :
    (s.registerPaths order).breakpoints.foundIn path =
      s.breakpoints.foundIn path ++
        (s.breakpoints.requests path).flatMap s.counters := by
  induction order generalizing s with
  | nil => cases h
  | cons first order ih =>
      rcases List.nodup_cons.mp honce with ⟨hfresh, hrest⟩
      rw [registerPaths_cons]
      rcases List.mem_cons.mp h with heq | hmem
      · subst heq
        rw [foundIn_registerPaths_of_not_mem hfresh, foundIn_registerAll_self]
      · have hne : path ≠ first := by
          intro heq
          exact hfresh (heq ▸ hmem)
        have hsame := sameApart_registerAll s first (s.breakpoints.requests first)
        rw [ih hrest hmem, foundIn_registerAll_of_ne hne, hsame.requests_eq,
          hsame.counters_eq]

end Session
end TraceAdapter
