import TraceAdapter.Breakpoint.Store

/-!
# Coherent stores

A store keeps the program counters of all paths beside those of each path.  In
a coherent store the two agree, no path is kept twice, and nothing is found for
a path in which nothing was ever asked for.  Every change of a batch and every
registration for a path that was asked for keeps a store coherent.
-/

namespace TraceAdapter
namespace Breakpoint
namespace Store

/-- The parts of a store agree with each other. -/
structure Coherent (store : Store) : Prop where
  askedOnce : (Keyed.keys store.asked).Nodup
  foundOnce : (Keyed.keys store.found).Nodup
  gathered : forall pc, pc ∈ store.pcs ↔ exists path, pc ∈ store.foundIn path
  foundAsked : forall path,
    path ∈ Keyed.keys store.found -> path ∈ Keyed.keys store.asked

theorem coherent_empty : Coherent {} where
  askedOnce := List.nodup_nil
  foundOnce := List.nodup_nil
  gathered := by simp [foundIn]
  foundAsked := by simp

/-!
## Gathering
-/

theorem mem_rebuild_pcs {store : Store} (honce : (Keyed.keys store.found).Nodup)
    (pc : Nat) :
    pc ∈ store.rebuild.pcs ↔ exists path, pc ∈ store.rebuild.foundIn path := by
  show pc ∈ store.found.flatMap Prod.snd ↔
    exists path, pc ∈ (Keyed.get? path store.found).getD []
  rw [List.mem_flatMap]
  constructor
  · rintro ⟨⟨path, pcs⟩, hmem, hpc⟩
    refine ⟨path, ?_⟩
    rw [Keyed.get?_of_mem honce hmem]
    exact hpc
  · rintro ⟨path, hpc⟩
    cases hget : Keyed.get? path store.found with
    | none =>
        rw [hget] at hpc
        cases hpc
    | some pcs =>
        rw [hget] at hpc
        exact ⟨(path, pcs), Keyed.mem_of_get?_eq_some hget, hpc⟩

/-!
## What each change does to a path
-/

theorem foundIn_register_self (store : Store) (path : String) (pcs : List Nat) :
    (store.register path pcs).foundIn path = store.foundIn path ++ pcs := by
  simp [register, rebuild, foundIn, Keyed.get?_put_self]

theorem foundIn_register_of_ne {path other : String} (h : other ≠ path)
    (store : Store) (pcs : List Nat) :
    (store.register path pcs).foundIn other = store.foundIn other := by
  simp [register, rebuild, foundIn, Keyed.get?_put_of_ne h]

theorem foundIn_replace_self (store : Store) (path : String)
    (batch : List Descriptor) : (store.replace path batch).foundIn path = [] := by
  simp [replace, rebuild, foundIn, Keyed.get?_drop_self]

theorem foundIn_replace_of_ne {path other : String} (h : other ≠ path)
    (store : Store) (batch : List Descriptor) :
    (store.replace path batch).foundIn other = store.foundIn other := by
  simp [replace, rebuild, foundIn, Keyed.get?_drop_of_ne h]

theorem mem_keys_asked_replace (store : Store) (path other : String)
    (batch : List Descriptor) :
    other ∈ Keyed.keys (store.replace path batch).asked ↔
      other = path ∨ other ∈ Keyed.keys store.asked :=
  Keyed.mem_keys_put

/-!
## Changes keep a store coherent
-/

theorem Coherent.replace {store : Store} (h : store.Coherent) (path : String)
    (batch : List Descriptor) : (store.replace path batch).Coherent where
  askedOnce := Keyed.nodup_keys_put h.askedOnce
  foundOnce := Keyed.nodup_keys_drop h.foundOnce
  gathered := mem_rebuild_pcs (Keyed.nodup_keys_drop h.foundOnce)
  foundAsked := by
    intro other hother
    have hfound := Keyed.mem_keys_drop.mp hother
    rw [mem_keys_asked_replace]
    exact Or.inr (h.foundAsked other hfound.2)

theorem Coherent.register {store : Store} (h : store.Coherent) {path : String}
    (hpath : path ∈ Keyed.keys store.asked) (pcs : List Nat) :
    (store.register path pcs).Coherent where
  askedOnce := h.askedOnce
  foundOnce := Keyed.nodup_keys_put h.foundOnce
  gathered := mem_rebuild_pcs (Keyed.nodup_keys_put h.foundOnce)
  foundAsked := by
    intro other hother
    rcases Keyed.mem_keys_put.mp hother with heq | hmem
    · exact heq ▸ hpath
    · exact h.foundAsked other hmem

theorem Coherent.forgetFound {store : Store} (h : store.Coherent) :
    store.forgetFound.Coherent where
  askedOnce := h.askedOnce
  foundOnce := List.nodup_nil
  gathered := mem_rebuild_pcs List.nodup_nil
  foundAsked := by
    intro other hother
    cases hother

/-!
## Paths with something to find
-/

theorem mem_asked_of_mem_paths {store : Store} {path : String}
    (h : path ∈ store.paths) : path ∈ Keyed.keys store.asked := by
  rcases List.mem_map.mp h with ⟨p, hp, rfl⟩
  exact List.mem_map_of_mem (List.mem_filter.mp hp).1

theorem paths_nodup {store : Store} (honce : (Keyed.keys store.asked).Nodup) :
    store.paths.Nodup :=
  List.Nodup.sublist (List.filter_sublist.map Prod.fst) honce

theorem mem_paths_iff {store : Store} (honce : (Keyed.keys store.asked).Nodup)
    (path : String) : path ∈ store.paths ↔ store.requests path ≠ [] := by
  constructor
  · intro hpath
    rcases List.mem_map.mp hpath with ⟨⟨key, batch⟩, hp, rfl⟩
    rcases List.mem_filter.mp hp with ⟨hmem, hsome⟩
    simpa [requests, Keyed.get?_of_mem honce hmem] using hsome
  · intro hne
    cases hget : Keyed.get? path store.asked with
    | none => exact absurd (by simp [requests, hget]) hne
    | some batch =>
        have hbatch : batch ≠ [] := by
          simpa [requests, hget] using hne
        refine List.mem_map.mpr ⟨(path, batch), ?_, rfl⟩
        refine List.mem_filter.mpr ⟨Keyed.mem_of_get?_eq_some hget, ?_⟩
        simpa using hbatch

/-!
## The order in which a store is walked

The order of the pairs in a store is an accident.  Two stores that differ in it
alone hold the same.
-/

/-- Two stores differ only in the order in which their parts are walked. -/
structure Reordered (first second : Store) : Prop where
  asked : first.asked.Perm second.asked
  found : first.found.Perm second.found
  pcs : first.pcs.Perm second.pcs

theorem Reordered.requests_eq {first second : Store} (h : first.Reordered second)
    (hcoherent : first.Coherent) (path : String) :
    first.requests path = second.requests path := by
  unfold requests
  rw [Keyed.get?_perm h.asked hcoherent.askedOnce]

theorem Reordered.foundIn_eq {first second : Store} (h : first.Reordered second)
    (hcoherent : first.Coherent) (path : String) :
    first.foundIn path = second.foundIn path := by
  unfold foundIn
  rw [Keyed.get?_perm h.found hcoherent.foundOnce]

theorem Reordered.coherent {first second : Store} (h : first.Reordered second)
    (hcoherent : first.Coherent) : second.Coherent where
  askedOnce := (h.asked.map Prod.fst).nodup_iff.mp hcoherent.askedOnce
  foundOnce := (h.found.map Prod.fst).nodup_iff.mp hcoherent.foundOnce
  gathered := by
    intro pc
    rw [← h.pcs.mem_iff, hcoherent.gathered]
    simp only [h.foundIn_eq hcoherent]
  foundAsked := by
    intro path hpath
    have hfirst : path ∈ Keyed.keys first.found :=
      (h.found.map Prod.fst).mem_iff.mpr hpath
    exact (h.asked.map Prod.fst).mem_iff.mp (hcoherent.foundAsked path hfirst)

end Store
end Breakpoint
end TraceAdapter
