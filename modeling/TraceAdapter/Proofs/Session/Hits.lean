import Mathlib.Data.List.Sort
import TraceAdapter.Proofs.Session.Walking

/-!
# Running on again and again

Running on over and over, each time from the last stop, stops at every hit behind
the first place in turn.  After the last of them it stops at the last step each
time.
-/

namespace TraceAdapter
namespace Walk

/-- The steps behind a place at which there is a stop, in order. -/
def hits (steps : List Step) (stopsAt : Nat -> Bool) (start : Nat) : List Nat :=
  (List.range steps.length).filter fun index =>
    start < index && (steps[index]?).any fun step => stopsAt step.pc

/-- Where running on stops, and why, when it was run on some times before, each
time from the stop before it. -/
def stop (steps : List Step) (stopsAt : Nat -> Bool) (start : Nat) :
    Nat -> Nat × StopReason
  | 0 => toBreakpoint steps start stopsAt
  | n + 1 => toBreakpoint steps (stop steps stopsAt start n).1 stopsAt

theorem stop_succ (steps : List Step) (stopsAt : Nat -> Bool) (start n : Nat) :
    stop steps stopsAt start (n + 1) =
      stop steps stopsAt (toBreakpoint steps start stopsAt).1 n := by
  induction n with
  | zero => rfl
  | succ n ih =>
      rw [stop, ih]
      rfl

theorem stop_lt {steps : List Step} (h : 0 < steps.length) (stopsAt : Nat -> Bool)
    (start n : Nat) : (stop steps stopsAt start n).1 < steps.length := by
  cases n with
  | zero => exact toBreakpoint_lt h start stopsAt
  | succ n => exact toBreakpoint_lt h _ stopsAt

/-!
## The hits behind a place
-/

variable {steps : List Step} {stopsAt : Nat -> Bool} {start index : Nat}

theorem mem_hits :
    index ∈ hits steps stopsAt start ↔
      start < index ∧
        exists step, steps[index]? = some step ∧ stopsAt step.pc = true := by
  unfold hits
  rw [List.mem_filter, List.mem_range, Bool.and_eq_true, decide_eq_true_eq,
    Option.any_eq_true]
  constructor
  · rintro ⟨_, hlater, hstop⟩
    exact ⟨hlater, hstop⟩
  · rintro ⟨hlater, step, hstep, hstop⟩
    rcases List.getElem?_eq_some_iff.mp hstep with ⟨hbound, _⟩
    exact ⟨hbound, hlater, step, hstep, hstop⟩

theorem pairwise_hits (steps : List Step) (stopsAt : Nat -> Bool) (start : Nat) :
    (hits steps stopsAt start).Pairwise (· < ·) :=
  List.Pairwise.filter _ List.pairwise_lt_range

theorem hits_eq_nil (h : NoStopAfter steps start fun pc => stopsAt pc = true) :
    hits steps stopsAt start = [] := by
  apply List.eq_nil_iff_forall_not_mem.mpr
  intro index hindex
  rcases mem_hits.mp hindex with ⟨hlater, step, hstep, hstop⟩
  exact h index step hlater hstep hstop

theorem hits_lastIndex (steps : List Step) (stopsAt : Nat -> Bool) :
    hits steps stopsAt (lastIndex steps) = [] := by
  apply hits_eq_nil
  intro index step hlater hstep
  rcases List.getElem?_eq_some_iff.mp hstep with ⟨hbound, _⟩
  unfold lastIndex at hlater
  omega

/-- The next stop is the first hit, and the others are the hits behind it. -/
theorem hits_eq_cons (h : NextStop steps start (fun pc => stopsAt pc = true) index) :
    hits steps stopsAt start = index :: hits steps stopsAt index := by
  apply List.Pairwise.eq_of_mem_iff (pairwise_hits steps stopsAt start)
  · apply List.pairwise_cons.mpr
    refine ⟨?_, pairwise_hits steps stopsAt index⟩
    intro later hlater
    exact (mem_hits.mp hlater).1
  · intro hit
    rw [List.mem_cons, mem_hits, mem_hits]
    constructor
    · rintro ⟨hlater, step, hstep, hstop⟩
      rcases Nat.lt_trichotomy hit index with hbefore | heq | hbehind
      · exact absurd hstop (h.first hit step hlater hbefore hstep)
      · exact Or.inl heq
      · exact Or.inr ⟨hbehind, step, hstep, hstop⟩
    · rintro (rfl | ⟨hbehind, hstop⟩)
      · exact ⟨h.later, h.stop⟩
      · exact ⟨Nat.lt_trans h.later hbehind, hstop⟩

/-!
## The stops are the hits
-/

theorem next_cases (steps : List Step) (stopsAt : Nat -> Bool) (start : Nat) :
    (exists index,
      NextStop steps start (fun pc => stopsAt pc = true) index ∧
        toBreakpoint steps start stopsAt = (index, .breakpoint)) ∨
      NoStopAfter steps start (fun pc => stopsAt pc = true) ∧
        toBreakpoint steps start stopsAt = (lastIndex steps, .endOfTrace) :=
  toBreakpoint_cases steps start fun _ => Iff.rfl

theorem toBreakpoint_eq_breakpoint_iff :
    toBreakpoint steps start stopsAt = (index, .breakpoint) ↔
      NextStop steps start (fun pc => stopsAt pc = true) index := by
  rcases next_cases steps stopsAt start with ⟨next, hnext, hstop⟩ | ⟨hnone, hstop⟩
  · rw [hstop, Prod.mk.injEq]
    constructor
    · rintro ⟨rfl, _⟩
      exact hnext
    · intro hindex
      exact ⟨hnext.unique hindex, rfl⟩
  · rw [hstop, Prod.mk.injEq]
    constructor
    · rintro ⟨_, hreason⟩
      cases hreason
    · intro hindex
      rcases hindex.stop with ⟨step, hstep, hhit⟩
      exact absurd hhit (hnone index step hindex.later hstep)

theorem toBreakpoint_halts (steps : List Step) (stopsAt : Nat -> Bool) (start : Nat) :
    (exists step, steps[(toBreakpoint steps start stopsAt).1]? = some step ∧
      stopsAt step.pc = true) ∨
      (toBreakpoint steps start stopsAt).1 = lastIndex steps := by
  rcases next_cases steps stopsAt start with ⟨index, hnext, hstop⟩ | ⟨_, hstop⟩
  · rw [hstop]
    exact Or.inl hnext.stop
  · rw [hstop]
    exact Or.inr rfl

theorem toBreakpoint_of_hit {step : Step} (hlater : start < index)
    (hreached : index ≤ (toBreakpoint steps start stopsAt).1)
    (hstep : steps[index]? = some step) (hhit : stopsAt step.pc = true) :
    toBreakpoint steps start stopsAt = (index, .breakpoint) := by
  rcases next_cases steps stopsAt start with ⟨next, hnext, hstop⟩ | ⟨hnone, _⟩
  · rw [hstop] at hreached ⊢
    rcases Nat.lt_or_eq_of_le hreached with hbefore | heq
    · exact absurd hhit (hnext.first index step hlater hbefore hstep)
    · rw [heq]
  · exact absurd hhit (hnone index step hlater hstep)

theorem stop_eq (steps : List Step) (stopsAt : Nat -> Bool) (start n : Nat) :
    stop steps stopsAt start n =
      match (hits steps stopsAt start)[n]? with
      | some index => (index, .breakpoint)
      | none => (lastIndex steps, .endOfTrace) := by
  -- Each run takes the first of the hits that are left.
  induction n generalizing start with
  | zero =>
      rcases next_cases steps stopsAt start with ⟨index, hnext, hstop⟩ | ⟨hnone, hstop⟩
      · rw [stop, hstop, hits_eq_cons hnext]
        rfl
      · rw [stop, hstop, hits_eq_nil hnone]
        rfl
  | succ n ih =>
      rw [stop_succ, ih]
      rcases next_cases steps stopsAt start with ⟨index, hnext, hstop⟩ | ⟨hnone, hstop⟩
      · rw [hstop, hits_eq_cons hnext]
        rfl
      · rw [hstop, hits_eq_nil hnone, hits_lastIndex]
        rfl

theorem stop_eq_breakpoint_iff {n : Nat} :
    stop steps stopsAt start n = (index, .breakpoint) ↔
      (hits steps stopsAt start)[n]? = some index := by
  rw [stop_eq]
  cases (hits steps stopsAt start)[n]? with
  | none => simp
  | some hit => simp

theorem stop_of_none {n : Nat} (h : (hits steps stopsAt start)[n]? = none) :
    stop steps stopsAt start n = (lastIndex steps, .endOfTrace) := by
  rw [stop_eq, h]

theorem existsUnique_stop_iff :
    (∃! n, stop steps stopsAt start n = (index, .breakpoint)) ↔
      index ∈ hits steps stopsAt start := by
  simp only [stop_eq_breakpoint_iff]
  constructor
  · rintro ⟨n, hn, _⟩
    exact List.mem_of_getElem? hn
  · intro hmem
    rcases List.mem_iff_getElem?.mp hmem with ⟨n, hn⟩
    refine ⟨n, hn, ?_⟩
    intro m hm
    have honce : (hits steps stopsAt start).Nodup :=
      (pairwise_hits steps stopsAt start).imp Nat.ne_of_lt
    rcases List.getElem?_eq_some_iff.mp hm with ⟨hbound, _⟩
    exact (List.getElem?_inj hbound honce).mp (hm.trans hn.symm)

/-- Running on over and over stops at a hit, and before it only at earlier ones. -/
theorem exists_stop_of_mem_hits (h : index ∈ hits steps stopsAt start) :
    exists n, stop steps stopsAt start n = (index, .breakpoint) ∧
      forall k, k < n -> (stop steps stopsAt start k).1 < index := by
  rcases List.mem_iff_getElem?.mp h with ⟨n, hn⟩
  refine ⟨n, stop_eq_breakpoint_iff.mpr hn, ?_⟩
  intro k hk
  rcases List.getElem?_eq_some_iff.mp hn with ⟨hbound, hhit⟩
  have hbound' : k < (hits steps stopsAt start).length := Nat.lt_trans hk hbound
  have hbefore := List.pairwise_iff_getElem.mp
    (pairwise_hits steps stopsAt start) k n hbound' hbound hk
  rw [stop_eq_breakpoint_iff.mpr (List.getElem?_eq_getElem hbound'), ← hhit]
  exact hbefore

theorem getElem?_hits_of_last {n m : Nat}
    (hlast : (hits steps stopsAt start)[n]? = some (lastIndex steps)) (h : n < m) :
    (hits steps stopsAt start)[m]? = none := by
  cases hm : (hits steps stopsAt start)[m]? with
  | none => rfl
  | some hit =>
      rcases mem_hits.mp (List.mem_of_getElem? hm) with ⟨_, step, hstep, _⟩
      rcases List.getElem?_eq_some_iff.mp hstep with ⟨hbound, _⟩
      rcases List.getElem?_eq_some_iff.mp hlast with ⟨hn, hlast⟩
      rcases List.getElem?_eq_some_iff.mp hm with ⟨hm, hhit⟩
      have hbehind := List.pairwise_iff_getElem.mp
        (pairwise_hits steps stopsAt start) n m hn hm h
      rw [hlast, hhit] at hbehind
      unfold lastIndex at hbehind
      omega

/-- Running on over and over stops at the hits behind the first place, in order and
each once, and from then on at the last step.  One run stops at the nearest hit
and passes none over; a hit at the last step is a breakpoint once and the end
of the trace from then on. -/
theorem stops_enumerate_hits (steps : List Step) (stopsAt : Nat -> Bool)
    (start : Nat) :
    (hits steps stopsAt start).Pairwise (· < ·) ∧
      (forall index, index ∈ hits steps stopsAt start ↔
        start < index ∧
          exists step, steps[index]? = some step ∧ stopsAt step.pc = true) ∧
      (forall n, stop steps stopsAt start n =
        match (hits steps stopsAt start)[n]? with
        | some index => (index, .breakpoint)
        | none => (steps.length - 1, .endOfTrace)) ∧
      (forall index, (∃! n, stop steps stopsAt start n = (index, .breakpoint)) ↔
        index ∈ hits steps stopsAt start) ∧
      (forall index, toBreakpoint steps start stopsAt = (index, .breakpoint) ↔
        NextStop steps start (fun pc => stopsAt pc = true) index) ∧
      (forall place index step, place < index ->
        index ≤ (toBreakpoint steps place stopsAt).1 ->
        steps[index]? = some step -> stopsAt step.pc = true ->
        toBreakpoint steps place stopsAt = (index, .breakpoint)) ∧
      (steps.length - 1 ∈ hits steps stopsAt start ->
        exists n, stop steps stopsAt start n = (steps.length - 1, .breakpoint) ∧
          forall m, n < m ->
            stop steps stopsAt start m = (steps.length - 1, .endOfTrace)) := by
  refine ⟨pairwise_hits steps stopsAt start, fun index => mem_hits,
    stop_eq steps stopsAt start, fun index => existsUnique_stop_iff,
    fun index => toBreakpoint_eq_breakpoint_iff,
    fun place index step => toBreakpoint_of_hit, ?_⟩
  intro hmem
  rcases List.mem_iff_getElem?.mp hmem with ⟨n, hn⟩
  refine ⟨n, stop_eq_breakpoint_iff.mpr hn, ?_⟩
  intro m hm
  exact stop_of_none (getElem?_hits_of_last hn hm)

/-- The step that one starts from is no hit, the last one is. -/
example :
    (List.range 3).map
      (stop [{ pc := 7, op := "ADD" }, { pc := 7, op := "STOP" }] (· == 7) 0) =
      [(1, .breakpoint), (1, .endOfTrace), (1, .endOfTrace)] := by
  decide

end Walk
end TraceAdapter
