import Mathlib.Data.List.Induction
import Mathlib.Tactic.SplitIfs
import TraceAdapter.Proofs.Breakpoint.Coherence
import TraceAdapter.Proofs.History

/-!
# Histories of a store

A store may be changed in any order: batches replaced and program counters registered for
any path, also for one that was never asked for.  What it then holds can be read off the
history.  Counters stand until their path is replaced, and the last batch of a path is
the one asked for there.  Changes of different paths do not touch each other.
-/

namespace TraceAdapter
namespace Breakpoint
namespace Store

inductive Operation where
  | replace (path : String) (batch : List Descriptor)
  | register (path : String) (pcs : List Nat)

namespace Operation

def path : Operation -> String
  | replace path _ => path
  | register path _ => path

def apply (store : Store) : Operation -> Store
  | replace path batch => store.replace path batch
  | register path pcs => store.register path pcs

def Replaces (path : String) (op : Operation) : Prop := exists batch, op = replace path batch

def Registers (path : String) (pc : Nat) (op : Operation) : Prop :=
  exists pcs, op = register path pcs ∧ pc ∈ pcs

end Operation

open History (Stands not_stands_nil stands_snoc)
open Operation (Replaces Registers)

def applyAll (store : Store) (ops : List Operation) : Store := ops.foldl Operation.apply store

def after (ops : List Operation) : Store := applyAll {} ops

theorem applyAll_cons (store : Store) (op : Operation) (ops : List Operation) :
    store.applyAll (op :: ops) = (op.apply store).applyAll ops := rfl

theorem applyAll_append (store : Store) (first second : List Operation) :
    store.applyAll (first ++ second) = (store.applyAll first).applyAll second :=
  List.foldl_append

theorem after_append (first second : List Operation) :
    after (first ++ second) = (after first).applyAll second :=
  applyAll_append {} first second

theorem after_snoc (ops : List Operation) (op : Operation) :
    after (ops ++ [op]) = op.apply (after ops) :=
  after_append ops [op]

/-!
## What stands of a history
-/

/-- A program counter was registered for a path, which was not replaced since. -/
def Holds (ops : List Operation) (path : String) (pc : Nat) : Prop :=
  Stands (Registers path pc) (Replaces path) ops

/-- A batch was the last that replaced a path. -/
def LastReplaced (ops : List Operation) (path : String) (batch : List Descriptor) : Prop :=
  Stands (· = .replace path batch) (Replaces path) ops

theorem holds_snoc {ops : List Operation} {op : Operation} {path : String} {pc : Nat} :
    Holds (ops ++ [op]) path pc ↔
      Registers path pc op ∨ (Holds ops path pc ∧ ¬ Replaces path op) :=
  stands_snoc

/-!
## What each change does to a path
-/

theorem get?_asked_apply (store : Store) (op : Operation) (path : String) :
    Keyed.get? path (op.apply store).asked =
      match op with
      | .replace p batch => if path = p then some batch else Keyed.get? path store.asked
      | .register _ _ => Keyed.get? path store.asked := by
  cases op with
  | replace p batch =>
      show Keyed.get? path (Keyed.put p batch store.asked) = ite _ _ _
      split_ifs with hpath
      · rw [hpath, Keyed.get?_put_self]
      · exact Keyed.get?_put_of_ne hpath batch store.asked
  | register p pcs => rfl

theorem mem_keys_found_apply (store : Store) (op : Operation) (path : String) :
    path ∈ Keyed.keys (op.apply store).found ↔
      match op with
      | .replace p _ => path ≠ p ∧ path ∈ Keyed.keys store.found
      | .register p _ => path = p ∨ path ∈ Keyed.keys store.found := by
  cases op with
  | replace p batch => exact Keyed.mem_keys_drop
  | register p pcs => exact Keyed.mem_keys_put

theorem mem_foundIn_apply (store : Store) (op : Operation) (path : String) (pc : Nat) :
    pc ∈ (op.apply store).foundIn path ↔
      Registers path pc op ∨ (pc ∈ store.foundIn path ∧ ¬ Replaces path op) := by
  cases op with
  | replace p batch =>
      show pc ∈ (store.replace p batch).foundIn path ↔ _
      by_cases hpath : path = p
      · subst hpath
        simp [foundIn_replace_self, Registers, Replaces]
      · simp [foundIn_replace_of_ne hpath, Registers, Replaces, Ne.symm hpath]
  | register p pcs =>
      show pc ∈ (store.register p pcs).foundIn path ↔ _
      by_cases hpath : path = p
      · subst hpath
        simp [foundIn_register_self, Registers, Replaces, or_comm]
      · simp [foundIn_register_of_ne hpath, Registers, Replaces, Ne.symm hpath]

/-!
## What a history leaves behind
-/

/-- A store keeps no path twice and stops at the counters of all its paths. -/
structure Tidy (store : Store) : Prop where
  askedOnce : (Keyed.keys store.asked).Nodup
  foundOnce : (Keyed.keys store.found).Nodup
  gathered : forall pc, pc ∈ store.pcs ↔ exists path, pc ∈ store.foundIn path

theorem Tidy.apply {store : Store} (h : store.Tidy) (op : Operation) :
    (op.apply store).Tidy := by
  cases op with
  | replace path batch =>
      exact ⟨Keyed.nodup_keys_put h.askedOnce, Keyed.nodup_keys_drop h.foundOnce,
        mem_rebuild_pcs (Keyed.nodup_keys_drop h.foundOnce)⟩
  | register path pcs =>
      exact ⟨h.askedOnce, Keyed.nodup_keys_put h.foundOnce,
        mem_rebuild_pcs (Keyed.nodup_keys_put h.foundOnce)⟩

theorem tidy_after (ops : List Operation) : (after ops).Tidy := by
  induction ops using List.reverseRecOn with
  | nil => exact ⟨List.nodup_nil, List.nodup_nil, coherent_empty.gathered⟩
  | append_singleton ops op ih =>
      rw [after_snoc]
      exact ih.apply op

theorem mem_foundIn_after_iff (ops : List Operation) (path : String) (pc : Nat) :
    pc ∈ (after ops).foundIn path ↔ Holds ops path pc := by
  induction ops using List.reverseRecOn with
  | nil => exact iff_of_false List.not_mem_nil not_stands_nil
  | append_singleton ops op ih => rw [after_snoc, mem_foundIn_apply, ih, holds_snoc]

theorem get?_asked_after_iff (ops : List Operation) (path : String) (batch : List Descriptor) :
    Keyed.get? path (after ops).asked = some batch ↔ LastReplaced ops path batch := by
  induction ops using List.reverseRecOn with
  | nil => exact iff_of_false nofun not_stands_nil
  | append_singleton ops op ih =>
      unfold LastReplaced at ih ⊢
      rw [after_snoc, get?_asked_apply, stands_snoc, ← ih]
      cases op with
      | replace p other =>
          by_cases hpath : path = p
          · subst hpath
            simp [Replaces]
          · simp [Replaces, hpath, Ne.symm hpath]
      | register p pcs => simp [Replaces]

theorem mem_pcs_after_iff (ops : List Operation) (pc : Nat) :
    pc ∈ (after ops).pcs ↔ exists path, Holds ops path pc := by
  simp only [(tidy_after ops).gathered, mem_foundIn_after_iff]

/-!
## Stores that hold the same
-/

/-- Two stores keep the same for a path. -/
structure AlikeAt (path : String) (first second : Store) : Prop where
  asked : Keyed.get? path first.asked = Keyed.get? path second.asked
  kept : path ∈ Keyed.keys first.found ↔ path ∈ Keyed.keys second.found
  found : forall pc, pc ∈ first.foundIn path ↔ pc ∈ second.foundIn path

/-- Two stores hold the same, in whatever order. -/
structure Same (first second : Store) : Prop where
  alike : forall path, AlikeAt path first second
  pcs : forall pc, pc ∈ first.pcs ↔ pc ∈ second.pcs
  paths : first.paths.Perm second.paths

namespace AlikeAt

variable {first second third : Store} {path : String}

theorem symm (h : AlikeAt path first second) : AlikeAt path second first :=
  ⟨h.asked.symm, h.kept.symm, fun pc => (h.found pc).symm⟩

theorem trans (h : AlikeAt path first second) (h' : AlikeAt path second third) :
    AlikeAt path first third :=
  ⟨h.asked.trans h'.asked, h.kept.trans h'.kept, fun pc => (h.found pc).trans (h'.found pc)⟩

theorem requests_eq (h : AlikeAt path first second) :
    first.requests path = second.requests path := by
  unfold requests
  rw [h.asked]

theorem apply (h : AlikeAt path first second) (op : Operation) :
    AlikeAt path (op.apply first) (op.apply second) where
  asked := by
    rw [get?_asked_apply, get?_asked_apply, h.asked]
  kept := by
    rw [mem_keys_found_apply, mem_keys_found_apply, h.kept]
  found := by
    intro pc
    rw [mem_foundIn_apply, mem_foundIn_apply, h.found]

theorem applyAll (h : AlikeAt path first second) (ops : List Operation) :
    AlikeAt path (first.applyAll ops) (second.applyAll ops) := by
  induction ops generalizing first second with
  | nil => exact h
  | cons op ops ih => exact ih (h.apply op)

end AlikeAt

theorem same_of_alike {first second : Store} (h : forall path, AlikeAt path first second)
    (hfirst : first.Tidy) (hsecond : second.Tidy) : Same first second where
  alike := h
  pcs := by
    intro pc
    rw [hfirst.gathered, hsecond.gathered]
    exact exists_congr fun path => (h path).found pc
  paths := by
    apply (List.perm_ext_iff_of_nodup (paths_nodup hfirst.askedOnce)
      (paths_nodup hsecond.askedOnce)).mpr
    intro path
    rw [mem_paths_iff hfirst.askedOnce, mem_paths_iff hsecond.askedOnce,
      (h path).requests_eq]

/-!
## Changes of different paths
-/

theorem alikeAt_apply_of_ne {op : Operation} {path : String} (h : path ≠ op.path)
    (store : Store) : AlikeAt path (op.apply store) store := by
  cases op with
  | replace p batch =>
      refine ⟨Keyed.get?_put_of_ne h batch store.asked, ?_, ?_⟩
      · exact Keyed.mem_keys_drop.trans (and_iff_right h)
      · intro pc
        have hstays : (store.replace p batch).foundIn path = store.foundIn path :=
          foundIn_replace_of_ne h store batch
        show pc ∈ (store.replace p batch).foundIn path ↔ _
        rw [hstays]
  | register p pcs =>
      refine ⟨rfl, Keyed.mem_keys_put.trans (or_iff_right h), ?_⟩
      intro pc
      have hstays : (store.register p pcs).foundIn path = store.foundIn path :=
        foundIn_register_of_ne h store pcs
      show pc ∈ (store.register p pcs).foundIn path ↔ _
      rw [hstays]

/-- Of two changes of different paths, one at most acts on any path. -/
theorem alikeAt_swap {first second : Operation} (h : first.path ≠ second.path) (store : Store)
    (path : String) :
    AlikeAt path (second.apply (first.apply store)) (first.apply (second.apply store)) := by
  by_cases hpath : path = first.path
  · have hother : path ≠ second.path := hpath ▸ h
    have hsecond := alikeAt_apply_of_ne hother store
    exact (alikeAt_apply_of_ne hother _).trans (hsecond.symm.apply first)
  · have hfirst := alikeAt_apply_of_ne hpath store
    exact (hfirst.apply second).trans (alikeAt_apply_of_ne hpath _).symm

theorem same_after_swap {first second : Operation} (h : first.path ≠ second.path)
    (ops later : List Operation) :
    Same (after (ops ++ first :: second :: later)) (after (ops ++ second :: first :: later)) := by
  apply same_of_alike _ (tidy_after _) (tidy_after _)
  intro path
  rw [after_append, after_append]
  exact (alikeAt_swap h (after ops) path).applyAll later

/-!
## Repeating a batch
-/

def registrations (found : List (String × List Nat)) : List Operation :=
  found.map fun e => .register e.1 e.2

theorem get?_asked_registrations (store : Store) (found : List (String × List Nat))
    (path : String) :
    Keyed.get? path (store.applyAll (registrations found)).asked =
      Keyed.get? path store.asked := by
  induction found generalizing store with
  | nil => rfl
  | cons e rest ih => exact ih (store.register e.1 e.2)

theorem mem_keys_found_registrations (store : Store) (found : List (String × List Nat))
    (path : String) :
    path ∈ Keyed.keys (store.applyAll (registrations found)).found ↔
      path ∈ Keyed.keys found ∨ path ∈ Keyed.keys store.found := by
  induction found generalizing store with
  | nil => simp [registrations, applyAll]
  | cons e rest ih =>
      show path ∈ Keyed.keys ((Operation.apply store (.register e.1 e.2)).applyAll
        (registrations rest)).found ↔ _
      rw [ih, mem_keys_found_apply, Keyed.keys_cons, List.mem_cons, or_left_comm, or_assoc]

theorem mem_foundIn_registrations (store : Store) (found : List (String × List Nat))
    (path : String) (pc : Nat) :
    pc ∈ (store.applyAll (registrations found)).foundIn path ↔
      (exists pcs, (path, pcs) ∈ found ∧ pc ∈ pcs) ∨ pc ∈ store.foundIn path := by
  induction found generalizing store with
  | nil => simp [registrations, applyAll]
  | cons e rest ih =>
      rcases e with ⟨p, counters⟩
      have hcons : (exists pcs, (path, pcs) ∈ (p, counters) :: rest ∧ pc ∈ pcs) ↔
          Registers path pc (.register p counters) ∨
            exists pcs, (path, pcs) ∈ rest ∧ pc ∈ pcs := by
        simp only [List.mem_cons, Prod.mk.injEq, or_and_right, exists_or, Registers,
          Operation.register.injEq, eq_comm]
      have hkeeps : ¬ Replaces path (.register p counters) := by
        rintro ⟨batch, hbatch⟩
        cases hbatch
      show pc ∈ ((Operation.apply store (.register p counters)).applyAll
        (registrations rest)).foundIn path ↔ _
      rw [ih, mem_foundIn_apply, hcons, and_iff_left hkeeps, or_left_comm, or_assoc]

/-- A batch and what is found for it, set again, change nothing: what was kept for the path
is forgotten first, and what is found again for other paths is there already. -/
theorem alikeAt_repeated (store : Store) (path other : String) (batch : List Descriptor)
    (found : List (String × List Nat)) :
    AlikeAt other
      ((store.applyAll (.replace path batch :: registrations found)).applyAll
        (.replace path batch :: registrations found))
      (store.applyAll (.replace path batch :: registrations found)) where
  asked := by
    rw [applyAll_cons, get?_asked_registrations, get?_asked_apply, applyAll_cons,
      get?_asked_registrations, get?_asked_apply]
    dsimp only
    split_ifs <;> rfl
  kept := by
    rw [applyAll_cons, mem_keys_found_registrations, mem_keys_found_apply, applyAll_cons,
      mem_keys_found_registrations, mem_keys_found_apply]
    dsimp only
    by_cases hfound : other ∈ Keyed.keys found <;> simp [hfound]
  found := by
    intro pc
    rw [applyAll_cons, mem_foundIn_registrations, mem_foundIn_apply, applyAll_cons,
      mem_foundIn_registrations, mem_foundIn_apply]
    by_cases hfound : exists pcs, (other, pcs) ∈ found ∧ pc ∈ pcs
    · exact iff_of_true (Or.inl hfound) (Or.inl hfound)
    · have hnone : ¬ Registers other pc (.replace path batch) := by
        rintro ⟨pcs, hpcs, _⟩
        cases hpcs
      simp [hfound, hnone]

theorem same_after_repeated (ops later : List Operation) (path : String)
    (batch : List Descriptor) (found : List (String × List Nat)) :
    Same
      (after (ops ++ (.replace path batch :: registrations found) ++
        (.replace path batch :: registrations found) ++ later))
      (after (ops ++ (.replace path batch :: registrations found) ++ later)) := by
  apply same_of_alike _ (tidy_after _) (tidy_after _)
  intro other
  rw [after_append, after_append, after_append, after_append, after_append]
  exact (alikeAt_repeated (after ops) path other batch found).applyAll later

/-!
## Any history
-/

theorem requests_after_of_lastReplaced {ops : List Operation} {path : String}
    {batch : List Descriptor} (h : LastReplaced ops path batch) :
    (after ops).requests path = batch := by
  unfold requests
  rw [(get?_asked_after_iff ops path batch).mpr h, Option.getD_some]

theorem requests_after_of_never {ops : List Operation} {path : String}
    (h : forall batch, ¬ LastReplaced ops path batch) : (after ops).requests path = [] := by
  have hnone : Keyed.get? path (after ops).asked = none := by
    apply Option.eq_none_iff_forall_ne_some.mpr
    intro batch hbatch
    exact h batch ((get?_asked_after_iff ops path batch).mp hbatch)
  unfold requests
  rw [hnone, Option.getD_none]

theorem mem_paths_after_iff (ops : List Operation) (path : String) :
    path ∈ (after ops).paths ↔ exists batch, LastReplaced ops path batch ∧ batch ≠ [] := by
  rw [mem_paths_iff (tidy_after ops).askedOnce]
  constructor
  · intro hsome
    by_cases hlast : exists batch, LastReplaced ops path batch
    · rcases hlast with ⟨batch, hbatch⟩
      rw [requests_after_of_lastReplaced hbatch] at hsome
      exact ⟨batch, hbatch, hsome⟩
    · exact absurd (requests_after_of_never (not_exists.mp hlast)) hsome
  · rintro ⟨batch, hbatch, hsome⟩
    rw [requests_after_of_lastReplaced hbatch]
    exact hsome

theorem holds_replaced_iff {ops : List Operation} {path other : String}
    {batch : List Descriptor} {pc : Nat} :
    Holds (ops ++ [.replace path batch]) other pc ↔ other ≠ path ∧ Holds ops other pc := by
  have hnone : ¬ Registers other pc (.replace path batch) := by
    rintro ⟨pcs, hpcs, _⟩
    cases hpcs
  have hreplaces : Replaces other (.replace path batch) ↔ other = path := by
    constructor
    · rintro ⟨found, hfound⟩
      cases hfound
      rfl
    · rintro rfl
      exact ⟨batch, rfl⟩
  rw [holds_snoc, or_iff_right hnone, hreplaces, and_comm]

theorem not_mem_pcs_replaced_iff (ops : List Operation) (path : String)
    (batch : List Descriptor) (pc : Nat) :
    pc ∈ (after ops).pcs ∧ pc ∉ (after (ops ++ [.replace path batch])).pcs ↔
      Holds ops path pc ∧ forall other, Holds ops other pc -> other = path := by
  rw [mem_pcs_after_iff, mem_pcs_after_iff]
  simp only [holds_replaced_iff]
  constructor
  · rintro ⟨⟨holder, hholder⟩, hgone⟩
    have honly : forall other, Holds ops other pc -> other = path := by
      intro other hother
      by_contra hne
      exact hgone ⟨other, hne, hother⟩
    exact ⟨honly holder hholder ▸ hholder, honly⟩
  · rintro ⟨hpath, honly⟩
    refine ⟨⟨path, hpath⟩, ?_⟩
    rintro ⟨other, hne, hother⟩
    exact hne (honly other hother)

/-- After any changes a store stops at the counters that stand for some path, asks for the
last batch of each path, and lists the paths whose last batch asks for something.
Replacing a path takes away the counters that it alone holds, a batch set twice in a row
is set once, and changes of different paths may change places, whatever comes after. -/
theorem after_history (ops : List Operation) :
    (forall pc, pc ∈ (after ops).pcs ↔ exists path, Holds ops path pc) ∧
      (forall path batch, LastReplaced ops path batch -> (after ops).requests path = batch) ∧
      (forall path, (forall batch, .replace path batch ∉ ops) ->
        (after ops).requests path = []) ∧
      (after ops).paths.Nodup ∧
      (forall path, path ∈ (after ops).paths ↔
        exists batch, LastReplaced ops path batch ∧ batch ≠ []) ∧
      (forall path batch pc,
        pc ∈ (after ops).pcs ∧ pc ∉ (after (ops ++ [.replace path batch])).pcs ↔
          Holds ops path pc ∧ forall other, Holds ops other pc -> other = path) ∧
      (forall path batch found later,
        Same
          (after (ops ++ (.replace path batch :: registrations found) ++
            (.replace path batch :: registrations found) ++ later))
          (after (ops ++ (.replace path batch :: registrations found) ++ later))) ∧
      (forall first second later, first.path ≠ second.path ->
        Same (after (ops ++ first :: second :: later))
          (after (ops ++ second :: first :: later))) := by
  refine ⟨mem_pcs_after_iff ops, fun path batch => requests_after_of_lastReplaced, ?_,
    paths_nodup (tidy_after ops).askedOnce, mem_paths_after_iff ops,
    not_mem_pcs_replaced_iff ops, ?_, ?_⟩
  · intro path hnever
    apply requests_after_of_never
    rintro batch ⟨before, op, later, rfl, rfl, _⟩
    exact hnever batch (List.mem_append_right before List.mem_cons_self)
  · intro path batch found later
    exact same_after_repeated ops later path batch found
  · intro first second later hpaths
    exact same_after_swap hpaths ops later

/-- A counter that two paths hold goes with the second of them, and one registered for a
path that was never asked for goes with none. -/
theorem after_history_shared :
    exists ops : List Operation,
      10 ∈ (after ops).pcs ∧ 10 ∈ (after (ops ++ [.replace "A.sol" []])).pcs ∧
        10 ∉ (after (ops ++ [.replace "A.sol" [], .replace "B.sol" []])).pcs ∧
        7 ∈ (after (ops ++ [.replace "A.sol" [], .replace "B.sol" []])).pcs ∧
        Same (after (ops ++ [.replace "A.sol" [], .replace "B.sol" []]))
          (after (ops ++ [.replace "B.sol" [], .replace "A.sol" []])) := by
  let ops : List Operation :=
    [.replace "A.sol" [.line "A.sol" 3], .register "A.sol" [10, 11],
      .register "B.sol" [10], .register "C.sol" [7]]
  rcases after_history ops with ⟨_, _, _, _, _, _, _, hswap⟩
  refine ⟨ops, by decide, by decide, by decide, by decide, ?_⟩
  exact hswap (.replace "A.sol" []) (.replace "B.sol" []) [] (by decide)

end Store
end Breakpoint
end TraceAdapter
