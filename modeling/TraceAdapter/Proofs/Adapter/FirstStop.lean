import Mathlib.Tactic.SplitIfs
import TraceAdapter.Proofs.Adapter.Asking

/-!
# Where a launch stops first

A target is named in full or by the part of its name before the parameters.  The first
call with either name is the first stop, and without one it is the second call, or the
only one.  So the full name comes first only as long as no call with the shorter name
stands before it.
-/

namespace TraceAdapter

open Protocol (LaunchArguments Request)

namespace EntryPoint

variable {calls : List Invocation} {target name : String} {i j : Nat}

/-!
## Calls by their names
-/

/-- The first call of some name. -/
structure FirstNamed (calls : List Invocation) (name : String) (i : Nat) : Prop where
  named : exists f, calls[i]? = some f ∧ f.name = name
  before : forall j, j < i -> forall f, calls[j]? = some f -> f.name ≠ name

def NoneNamed (calls : List Invocation) (name : String) : Prop :=
  forall f, f ∈ calls -> f.name ≠ name

def bare (target : String) : String := Text.before '(' target

theorem FirstNamed.not_noneNamed (h : FirstNamed calls name i) : ¬ NoneNamed calls name := by
  intro hnone
  rcases h.named with ⟨f, hf, hname⟩
  exact hnone f (List.mem_of_getElem? hf) hname

theorem FirstNamed.unique (h : FirstNamed calls name i) (h' : FirstNamed calls name j) :
    i = j := by
  rcases h.named with ⟨f, hf, hname⟩
  rcases h'.named with ⟨g, hg, hname'⟩
  rcases Nat.lt_trichotomy i j with hlt | heq | hlt
  · exact absurd hname (h'.before i hlt f hf)
  · exact heq
  · exact absurd hname' (h.before j hlt g hg)

theorem exists_first_of_findIdx? {p : Invocation -> Bool} (h : calls.findIdx? p = some i) :
    (exists f, calls[i]? = some f ∧ p f = true) ∧
      forall j, j < i -> forall f, calls[j]? = some f -> p f = false := by
  rcases List.findIdx?_eq_some_iff_getElem.mp h with ⟨hi, hp, hbefore⟩
  refine ⟨⟨calls[i], List.getElem?_eq_getElem hi, hp⟩, ?_⟩
  intro j hj f hf
  rcases List.getElem?_eq_some_iff.mp hf with ⟨_, rfl⟩
  exact eq_false_of_ne_true (hbefore j hj)

theorem exists_firstNamed (h : ¬ NoneNamed calls name) :
    exists i, FirstNamed calls name i := by
  cases hfind : calls.findIdx? fun f => f.name == name with
  | none =>
      refine absurd ?_ h
      intro f hf hname
      have hno := List.findIdx?_eq_none_iff.mp hfind f hf
      simp [hname] at hno
  | some i =>
      rcases exists_first_of_findIdx? hfind with ⟨⟨f, hf, hname⟩, hbefore⟩
      refine ⟨i, ⟨f, hf, eq_of_beq hname⟩, ?_⟩
      intro j hj g hg
      exact ne_of_beq_false (hbefore j hj g hg)

/-!
## The call that is asked for
-/

/-- The call to stop at by the full name of a target, by its bare name where no call has
the full one, and else by its place. -/
inductive Preferred (calls : List Invocation) (target : String) : Nat -> Prop where
  | full {i : Nat} (h : FirstNamed calls target i) : Preferred calls target i
  | bare {i : Nat} (hfull : NoneNamed calls target) (h : FirstNamed calls (bare target) i) :
      Preferred calls target i
  | second (hfull : NoneNamed calls target) (hbare : NoneNamed calls (bare target))
      (hmany : 1 < calls.length) : Preferred calls target 1
  | only (hfull : NoneNamed calls target) (hbare : NoneNamed calls (bare target))
      (hone : calls.length = 1) : Preferred calls target 0

/-- A call with the bare name stands before all with the full name. -/
def Overtaken (calls : List Invocation) (target : String) : Prop :=
  exists i j, FirstNamed calls (bare target) i ∧ FirstNamed calls target j ∧ i < j

/-- The call that is preferred, unless it is overtaken; then the one that overtakes it. -/
structure Picks (calls : List Invocation) (target : String) (i : Nat) : Prop where
  preferred : Preferred calls target i ↔ ¬ Overtaken calls target
  overtaking : Overtaken calls target -> FirstNamed calls (bare target) i

theorem Preferred.full_of_firstNamed (h : Preferred calls target i)
    (hj : FirstNamed calls target j) : i = j := by
  cases h with
  | full h => exact h.unique hj
  | bare hfull _ => exact absurd hfull hj.not_noneNamed
  | second hfull _ _ => exact absurd hfull hj.not_noneNamed
  | only hfull _ _ => exact absurd hfull hj.not_noneNamed

theorem picks_of_not_overtaken (h : Preferred calls target i)
    (hnot : ¬ Overtaken calls target) : Picks calls target i :=
  ⟨⟨fun _ => hnot, fun _ => h⟩, fun hovertaken => absurd hovertaken hnot⟩

theorem picks_of_overtaken (h : FirstNamed calls (bare target) i)
    (hj : FirstNamed calls target j) (hlt : i < j) : Picks calls target i := by
  have hovertaken : Overtaken calls target := ⟨i, j, h, hj, hlt⟩
  refine ⟨⟨?_, fun hnot => absurd hovertaken hnot⟩, fun _ => h⟩
  intro hpreferred
  exact absurd (hpreferred.full_of_firstNamed hj) (Nat.ne_of_lt hlt)

/-!
## The call that is picked
-/

theorem isTarget_iff (htarget : target ≠ "") {f : Invocation} :
    isTarget target f = true ↔ f.name = target ∨ f.name = bare target := by
  have hsome : target.isEmpty = false := by simpa using htarget
  unfold isTarget
  rw [hsome, Bool.not_false, Bool.true_and, Bool.or_eq_true, beq_iff_eq, beq_iff_eq]
  rfl

theorem position_lt (hcalls : calls ≠ []) (target : String) :
    position calls target < calls.length := by
  have hpos : 0 < calls.length := List.length_pos_iff.mpr hcalls
  unfold position
  cases hfind : calls.findIdx? (isTarget target) with
  | some i => exact (List.findIdx?_eq_some_iff_getElem.mp hfind).1
  | none =>
      rw [Option.getD_none]
      split_ifs with hmany
      · exact hmany
      · exact hpos

theorem find_eq {f : Invocation} (h : calls[position calls target]? = some f) :
    find (some calls) target = ⟨f.entryStep, some (position calls target)⟩ := by
  unfold find
  dsimp only [Option.getD_some]
  rw [h]

theorem picks_of_findIdx? (htarget : target ≠ "")
    (h : calls.findIdx? (isTarget target) = some i) : Picks calls target i := by
  rcases exists_first_of_findIdx? h with ⟨⟨f, hf, hnamed⟩, hbefore⟩
  have hneither (j : Nat) (hj : j < i) (g : Invocation) (hg : calls[j]? = some g) :
      g.name ≠ target ∧ g.name ≠ bare target := by
    rw [← not_or, ← isTarget_iff htarget, hbefore j hj g hg]
    exact Bool.false_ne_true
  by_cases hfull : f.name = target
  · have hfirst : FirstNamed calls target i :=
      ⟨⟨f, hf, hfull⟩, fun j hj g hg => (hneither j hj g hg).1⟩
    apply picks_of_not_overtaken (.full hfirst)
    rintro ⟨k, j, hbare, hother, hlt⟩
    rcases hbare.named with ⟨g, hg, hname⟩
    rw [hother.unique hfirst] at hlt
    exact (hneither k hlt g hg).2 hname
  · have hbare : f.name = bare target :=
      ((isTarget_iff htarget).mp hnamed).resolve_left hfull
    have hfirst : FirstNamed calls (bare target) i :=
      ⟨⟨f, hf, hbare⟩, fun j hj g hg => (hneither j hj g hg).2⟩
    by_cases hnone : NoneNamed calls target
    · apply picks_of_not_overtaken (.bare hnone hfirst)
      rintro ⟨_, j, _, hother, _⟩
      exact hother.not_noneNamed hnone
    · rcases exists_firstNamed hnone with ⟨j, hj⟩
      apply picks_of_overtaken hfirst hj
      rcases hj.named with ⟨g, hg, hname⟩
      rcases Nat.lt_trichotomy i j with hlt | rfl | hlt
      · exact hlt
      · cases hf.symm.trans hg
        exact absurd hname hfull
      · exact absurd hname (hneither j hlt g hg).1

theorem picks_position (hcalls : calls ≠ []) (htarget : target ≠ "") :
    Picks calls target (position calls target) := by
  unfold position
  cases hfind : calls.findIdx? (isTarget target) with
  | some i => exact picks_of_findIdx? htarget hfind
  | none =>
      have hneither (f : Invocation) (hf : f ∈ calls) :
          f.name ≠ target ∧ f.name ≠ bare target := by
        rw [← not_or, ← isTarget_iff htarget, List.findIdx?_eq_none_iff.mp hfind f hf]
        exact Bool.false_ne_true
      have hfull : NoneNamed calls target := fun f hf => (hneither f hf).1
      have hbare : NoneNamed calls (bare target) := fun f hf => (hneither f hf).2
      have hnot : ¬ Overtaken calls target := by
        rintro ⟨_, j, _, hother, _⟩
        exact hother.not_noneNamed hfull
      have hpos : 0 < calls.length := List.length_pos_iff.mpr hcalls
      rw [Option.getD_none]
      split_ifs with hmany
      · exact picks_of_not_overtaken (.second hfull hbare hmany) hnot
      · exact picks_of_not_overtaken (.only hfull hbare (by omega)) hnot

namespace Sample

def overtaking : List Invocation :=
  [⟨"transfer", 1, some 5⟩, ⟨"transfer(address)", 7, some 9⟩]

end Sample

/-- A target that is named in full is passed over for the bare name before it. -/
theorem find_of_overtaking :
    FirstNamed Sample.overtaking "transfer(address)" 1 ∧
      find (some Sample.overtaking) "transfer(address)" = ⟨1, some 0⟩ ∧
      ¬ Preferred Sample.overtaking "transfer(address)" 0 := by
  have hfull : FirstNamed Sample.overtaking "transfer(address)" 1 := by
    refine ⟨⟨_, rfl, rfl⟩, ?_⟩
    intro j hj f hf
    cases Nat.lt_one_iff.mp hj
    cases hf
    decide
  refine ⟨hfull, rfl, ?_⟩
  intro hpreferred
  cases hpreferred.full_of_firstNamed hfull

end EntryPoint

namespace Launch

variable {ω σ : Type} {c : Collaborators ω σ} {a : LaunchArguments}

/-- A deployment does not change what function is asked for. -/
theorem functionName_findTarget {target : Target} (h : (findTarget c a).target = .ok target) :
    target.functionName = a.functionName?.getD "" := by
  have hfound := findTarget_found c a
  generalize findTarget c a = search at h hfound
  cases hfound with
  | missing _ => cases h
  | attached _ =>
      cases h
      rfl
  | helpless _ _ => cases h
  | refused _ _ _ => cases h
  | @deployed _ deploy request _ _ _ =>
      dsimp only at h
      cases hdeployed : (deploy c.world request).1 with
      | error e =>
          rw [hdeployed] at h
          cases h
      | ok d =>
          rw [hdeployed] at h
          cases h
          rfl

theorem entry_of_launch [Debugger σ] {l : Launched σ} (h : (launch c a).result = .ok l) :
    l.entry = EntryPoint.find l.simulation.functions (a.functionName?.getD "") := by
  rcases launch_ok h with ⟨target, debugger, world, htarget, _, hstart⟩
  rcases start_ok hstart with ⟨_, _, _, _, _, hentry⟩
  rw [hentry, functionName_findTarget htarget]

end Launch

namespace Adapter

/-!
## The session after a launch
-/

variable {ω σ : Type} [Debugger σ]

theorem session_of_launch {c : Launch.Collaborators ω σ} {s : Session σ} {a : LaunchArguments}
    {reply : Reply} (h : (launch c s a).result = .ok reply) :
    (launch c s a).session.index =
        (EntryPoint.find (launch c s a).session.functions? (a.functionName?.getD "")).step ∧
      (launch c s a).session.function? =
        (EntryPoint.find (launch c s a).session.functions?
          (a.functionName?.getD "")).function? := by
  rcases launch_cases c s a with ⟨e, _, hresult, _⟩ | ⟨l, after, hlaunched, hinstall, _, hsession⟩
  · rw [hresult] at h
    cases h
  · have hentry := Launch.entry_of_launch (launched?_eq_some_iff.mp hlaunched).1
    have hbare := Session.bare_registerStored after
    rcases Session.install_eq_ok_iff.mp hinstall with ⟨_, hafter⟩
    have hindex : after.registerStored.index = l.entry.step := by
      rw [hafter] at hbare ⊢
      exact congrArg Session.index hbare
    have hfunction : after.registerStored.function? = l.entry.function? := by
      rw [hafter] at hbare ⊢
      exact congrArg Session.function? hbare
    have hfunctions : after.registerStored.functions? = l.simulation.functions := by
      rw [hafter] at hbare ⊢
      exact congrArg Session.functions? hbare
    rw [hsession, hindex, hfunction, hfunctions, ← hentry]
    exact ⟨rfl, rfl⟩

/-- For every trace with calls and every target the first stop is at the call that is
preferred, unless a call with the bare name overtakes it, and a launch that succeeds stops
there. -/
theorem stops_first_at {calls : List Invocation} {target : String} (hcalls : calls ≠ [])
    (htarget : target ≠ "") (c : Launch.Collaborators ω σ) (s : Session σ) (r : Request) :
    exists i f, calls[i]? = some f ∧ EntryPoint.Picks calls target i ∧
      EntryPoint.find (some calls) target = ⟨f.entryStep, some i⟩ ∧
      forall a reply, launchArguments? r = some a -> a.functionName? = some target ->
        (handle c s r).result = .ok reply ->
        (handle c s r).session.functions? = some calls ->
        (handle c s r).session.index = f.entryStep ∧
          (handle c s r).session.function? = some i ∧
          (handle c s r).session.currentFunction? = some f := by
  have hlt := EntryPoint.position_lt hcalls target
  have hcall := List.getElem?_eq_getElem hlt
  refine ⟨_, _, hcall, EntryPoint.picks_position hcalls htarget, EntryPoint.find_eq hcall, ?_⟩
  intro a reply ha hname hresult hfunctions
  rw [handle_of_launchArguments ha] at hresult hfunctions ⊢
  rcases session_of_launch hresult with ⟨hindex, hfunction⟩
  rw [hfunctions, hname, Option.getD_some, EntryPoint.find_eq hcall] at hindex hfunction
  refine ⟨hindex, hfunction, ?_⟩
  unfold Session.currentFunction?
  rw [hfunctions, hfunction]
  exact hcall

namespace Sample

def overloads : List Invocation :=
  [⟨"dispatcher", 0, none⟩, ⟨"transfer(address)", 2, none⟩, ⟨"transfer", 1, none⟩]

def overloaded : Launch.Collaborators Unit Scripted where
  world := ()
  create := fun _ _ => .ok { debugger with functions := some overloads }

def launchingOverload : Request where
  seq := 2
  command := "launch"
  arguments :=
    some <| .object
      [("contractAddress", .string "0x01"), ("ethdebugDir", .string "out"),
        ("function", .string "transfer(address)")]

end Sample

theorem stops_first_at_overload :
    EntryPoint.Picks Sample.overloads "transfer(address)" 1 ∧
      (handle Sample.overloaded {} Sample.launchingOverload).session.index = 2 ∧
      (handle Sample.overloaded {} Sample.launchingOverload).session.function? = some 1 := by
  rcases stops_first_at (show Sample.overloads ≠ [] from List.cons_ne_nil _ _)
      (show "transfer(address)" ≠ "" by decide) Sample.overloaded {}
      Sample.launchingOverload with
    ⟨i, f, _, hpicks, hfind, hstops⟩
  have hplace : EntryPoint.find (some Sample.overloads) "transfer(address)" = ⟨2, some 1⟩ := rfl
  rw [hplace] at hfind
  rcases EntryPoint.mk.inj hfind with ⟨hstep, hposition⟩
  cases hposition
  rcases hstops _ _ rfl rfl rfl rfl with ⟨hindex, hfunction, _⟩
  exact ⟨hpicks, hindex.trans hstep.symm, hfunction⟩

end Adapter
end TraceAdapter
