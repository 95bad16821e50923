import TraceAdapter.Session.Basic

/-!
# Walking stays in the trace

A search finds the nearest later step that passes its test, and every target of
a walk through a trace that is not empty is a step of it.  The innermost call of
a step is one of the calls.
-/

namespace TraceAdapter
namespace Walk

/-!
## The nearest later step
-/

theorem firstAfter?_eq_some_iff {steps : List Step} {start index : Nat}
    {test : Step -> Bool} :
    firstAfter? steps start test = some index ↔
      start < index ∧
        (exists step, steps[index]? = some step ∧ test step = true) ∧
        forall k step, start < k -> k < index -> steps[k]? = some step ->
          test step = false := by
  unfold firstAfter?
  rw [Option.map_eq_some_iff]
  constructor
  · rintro ⟨offset, hfind, rfl⟩
    rcases List.findIdx?_eq_some_iff_getElem.mp hfind with ⟨hbound, htest, hbefore⟩
    refine ⟨by omega, ⟨_, ?_, htest⟩, ?_⟩
    · rw [← List.getElem?_drop]
      exact List.getElem?_eq_getElem hbound
    · intro k step hstart hk hstep
      have hoffset : k = start + 1 + (k - (start + 1)) := by
        omega
      rw [hoffset, ← List.getElem?_drop] at hstep
      rcases List.getElem?_eq_some_iff.mp hstep with ⟨_hk, hget⟩
      have hfalse := hbefore (k - (start + 1)) (by omega)
      rw [hget] at hfalse
      simpa using hfalse
  · rintro ⟨hstart, ⟨step, hstep, htest⟩, hbefore⟩
    have hoffset : start + 1 + (index - (start + 1)) = index := by
      omega
    refine ⟨index - (start + 1), ?_, hoffset⟩
    rw [← hoffset, ← List.getElem?_drop] at hstep
    rcases List.getElem?_eq_some_iff.mp hstep with ⟨hbound, hget⟩
    refine List.findIdx?_eq_some_iff_getElem.mpr ⟨hbound, ?_, ?_⟩
    · rw [hget]
      exact htest
    · intro j hj
      have hbound' : j < (steps.drop (start + 1)).length := by
        omega
      have hget' : steps[start + 1 + j]? = some (steps.drop (start + 1))[j] := by
        rw [← List.getElem?_drop]
        exact List.getElem?_eq_getElem hbound'
      rw [hbefore (start + 1 + j) _ (by omega) (by omega) hget']
      simp

theorem firstAfter?_eq_none_iff {steps : List Step} {start : Nat}
    {test : Step -> Bool} :
    firstAfter? steps start test = none ↔
      forall k step, start < k -> steps[k]? = some step -> test step = false := by
  unfold firstAfter?
  rw [Option.map_eq_none_iff, List.findIdx?_eq_none_iff]
  constructor
  · intro hnone k step hstart hstep
    apply hnone
    have hoffset : k = start + 1 + (k - (start + 1)) := by
      omega
    rw [hoffset, ← List.getElem?_drop] at hstep
    exact List.mem_of_getElem? hstep
  · intro hnone step hmem
    rcases List.mem_iff_getElem?.mp hmem with ⟨offset, hoffset⟩
    rw [List.getElem?_drop] at hoffset
    exact hnone (start + 1 + offset) step (by omega) hoffset

theorem firstAfter?_lt {steps : List Step} {start index : Nat}
    {test : Step -> Bool} (h : firstAfter? steps start test = some index) :
    index < steps.length := by
  rcases firstAfter?_eq_some_iff.mp h with ⟨_, ⟨step, hstep, _⟩, _⟩
  rcases List.getElem?_eq_some_iff.mp hstep with ⟨hbound, _⟩
  exact hbound

/-!
## The next stop
-/

/-- A step is the first one behind an index at which there is a stop. -/
structure NextStop (steps : List Step) (start : Nat) (stops : Nat -> Prop)
    (index : Nat) : Prop where
  later : start < index
  stop : exists step, steps[index]? = some step ∧ stops step.pc
  first : forall k step, start < k -> k < index -> steps[k]? = some step ->
    ¬ stops step.pc

def NoStopAfter (steps : List Step) (start : Nat) (stops : Nat -> Prop) : Prop :=
  forall k step, start < k -> steps[k]? = some step -> ¬ stops step.pc

theorem NextStop.unique {steps : List Step} {start j k : Nat} {stops : Nat -> Prop}
    (hj : NextStop steps start stops j) (hk : NextStop steps start stops k) :
    j = k := by
  rcases hj.stop with ⟨stepJ, hstepJ, hstopJ⟩
  rcases hk.stop with ⟨stepK, hstepK, hstopK⟩
  rcases Nat.lt_trichotomy j k with hlt | heq | hgt
  · exact absurd hstopJ (hk.first j stepJ hj.later hlt hstepJ)
  · exact heq
  · exact absurd hstopK (hj.first k stepK hk.later hgt hstepK)

/-- Running on ends at the next stop, or at the last step if there is none. -/
theorem toBreakpoint_cases (steps : List Step) (start : Nat) {stopsAt : Nat -> Bool}
    {stops : Nat -> Prop} (h : forall pc, stopsAt pc = true ↔ stops pc) :
    (exists index,
      NextStop steps start stops index ∧
        toBreakpoint steps start stopsAt = (index, .breakpoint)) ∨
      NoStopAfter steps start stops ∧
        toBreakpoint steps start stopsAt = (lastIndex steps, .endOfTrace) := by
  have hnot (pc : Nat) (hfalse : stopsAt pc = false) : ¬ stops pc := by
    intro hstops
    rw [(h pc).mpr hstops] at hfalse
    cases hfalse
  unfold toBreakpoint
  cases hfind : firstAfter? steps start fun s => stopsAt s.pc with
  | some index =>
      left
      rcases firstAfter?_eq_some_iff.mp hfind with
        ⟨hlater, ⟨step, hstep, htest⟩, hbefore⟩
      refine ⟨index, ⟨hlater, ⟨step, hstep, (h step.pc).mp htest⟩, ?_⟩, rfl⟩
      intro k earlier hstart hk hearlier
      exact hnot earlier.pc (hbefore k earlier hstart hk hearlier)
  | none =>
      right
      refine ⟨?_, rfl⟩
      intro k later hstart hlater
      exact hnot later.pc (firstAfter?_eq_none_iff.mp hfind k later hstart hlater)

/-!
## Targets lie ahead in the trace
-/

theorem lastIndex_lt {steps : List Step} (h : 0 < steps.length) :
    lastIndex steps < steps.length := by
  unfold lastIndex
  omega

/-- A target is later in the trace than a place before the last step, and the last
step itself from there on. -/
structure Ahead (steps : List Step) (start target : Nat) : Prop where
  within : target ≤ lastIndex steps
  later : start < lastIndex steps -> start < target
  pinned : lastIndex steps ≤ start -> target = lastIndex steps

theorem Ahead.lt {steps : List Step} {start target : Nat}
    (h : Ahead steps start target) (hsteps : 0 < steps.length) :
    target < steps.length :=
  Nat.lt_of_le_of_lt h.within (lastIndex_lt hsteps)

theorem Ahead.le {steps : List Step} {start target : Nat}
    (h : Ahead steps start target) (hstart : start ≤ lastIndex steps) :
    start ≤ target := by
  rcases Nat.lt_or_eq_of_le hstart with hlt | heq
  · exact Nat.le_of_lt (h.later hlt)
  · rw [h.pinned (Nat.le_of_eq heq.symm)]
    exact hstart

theorem ahead_lastIndex (steps : List Step) (start : Nat) :
    Ahead steps start (lastIndex steps) :=
  ⟨Nat.le_refl _, id, fun _ => rfl⟩

theorem ahead_of_firstAfter? {steps : List Step} {start index : Nat}
    {test : Step -> Bool} (h : firstAfter? steps start test = some index) :
    Ahead steps start index := by
  have hlater : start < index := (firstAfter?_eq_some_iff.mp h).1
  have hwithin : index ≤ lastIndex steps := Nat.le_sub_one_of_lt (firstAfter?_lt h)
  refine ⟨hwithin, fun _ => hlater, ?_⟩
  intro hend
  omega

theorem ahead_toBreakpoint (steps : List Step) (start : Nat)
    (stopsAt : Nat -> Bool) : Ahead steps start (toBreakpoint steps start stopsAt).1 := by
  unfold toBreakpoint
  cases hfind : firstAfter? steps start fun s => stopsAt s.pc with
  | none => exact ahead_lastIndex steps start
  | some index => exact ahead_of_firstAfter? hfind

theorem ahead_instruction (steps : List Step) (start : Nat) :
    Ahead steps start (instruction steps start) := by
  unfold instruction
  refine ⟨Nat.min_le_right _ _, ?_, ?_⟩
  · intro hbefore
    omega
  · intro hend
    omega

theorem ahead_sourceLine (steps : List Step) (start : Nat)
    (map : Option SourceMap) : Ahead steps start (sourceLine steps start map) := by
  unfold sourceLine
  split
  · exact ahead_instruction steps start
  · split
    · rename_i index hfind
      exact ahead_of_firstAfter? hfind
    · exact ahead_lastIndex steps start

theorem toBreakpoint_lt {steps : List Step} (h : 0 < steps.length) (start : Nat)
    (stopsAt : Nat -> Bool) :
    (toBreakpoint steps start stopsAt).1 < steps.length :=
  (ahead_toBreakpoint steps start stopsAt).lt h

theorem instruction_lt {steps : List Step} (h : 0 < steps.length) (start : Nat) :
    instruction steps start < steps.length :=
  (ahead_instruction steps start).lt h

theorem sourceLine_lt {steps : List Step} (h : 0 < steps.length) (start : Nat)
    (map : Option SourceMap) : sourceLine steps start map < steps.length :=
  (ahead_sourceLine steps start map).lt h

end Walk

namespace Invocation

/-!
## The innermost call is one of the calls
-/

theorem later_eq (best f : Invocation × Nat) :
    later (some best) f = some best ∨ later (some best) f = some f := by
  unfold later
  by_cases h : best.1.entryStep ≤ f.1.entryStep
  · exact Or.inr (if_pos h)
  · exact Or.inl (if_neg h)

theorem mem_of_foldl_later {calls : List (Invocation × Nat)}
    {best : Option (Invocation × Nat)} {f : Invocation × Nat}
    (h : calls.foldl later best = some f) : best = some f ∨ f ∈ calls := by
  induction calls generalizing best with
  | nil => exact Or.inl h
  | cons g rest ih =>
      rcases ih h with hlater | hmem
      · cases best with
        | none =>
            cases hlater
            exact Or.inr List.mem_cons_self
        | some b =>
            rcases later_eq b g with hkept | htaken
            · exact Or.inl (hkept.symm.trans hlater)
            · cases htaken.symm.trans hlater
              exact Or.inr List.mem_cons_self
      · exact Or.inr (List.mem_cons_of_mem g hmem)

theorem innermost?_lt {functions : List Invocation} {index i : Nat}
    (h : innermost? functions index = some i) : i < functions.length := by
  unfold innermost? at h
  rcases Option.map_eq_some_iff.mp h with ⟨⟨f, j⟩, hfold, rfl⟩
  rcases mem_of_foldl_later hfold with hnone | hmem
  · cases hnone
  · have hzip := (List.mem_filter.mp hmem).1
    exact (List.mem_zipIdx' hzip).1

theorem isSome_foldl_later (calls : List (Invocation × Nat)) (b : Invocation × Nat) :
    (calls.foldl later (some b)).isSome = true := by
  induction calls generalizing b with
  | nil => rfl
  | cons f rest ih =>
      rw [List.foldl_cons]
      rcases later_eq b f with hkept | htaken
      · rw [hkept]
        exact ih b
      · rw [htaken]
        exact ih f

theorem exists_innermost? {functions : List Invocation} {index : Nat} {f : Invocation}
    (hf : f ∈ functions) (hcontains : f.contains index = true) :
    exists i, innermost? functions index = some i := by
  rcases List.mem_iff_getElem?.mp hf with ⟨place, hplace⟩
  have hmem : (f, place) ∈ functions.zipIdx.filter fun g => g.1.contains index :=
    List.mem_filter.mpr ⟨List.mem_zipIdx_iff_getElem?.mpr hplace, hcontains⟩
  unfold innermost?
  cases hcalls : functions.zipIdx.filter fun g => g.1.contains index with
  | nil =>
      rw [hcalls] at hmem
      cases hmem
  | cons g rest =>
      rcases Option.isSome_iff_exists.mp (isSome_foldl_later rest g) with ⟨best, hbest⟩
      refine ⟨best.2, ?_⟩
      rw [List.foldl_cons]
      show (rest.foldl later (some g)).map Prod.snd = some best.2
      rw [hbest]
      rfl

end Invocation
end TraceAdapter
