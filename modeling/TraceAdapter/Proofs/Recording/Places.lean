import TraceAdapter.Recording.Basic

/-!
# Places of instructions

The places of a recording ascend by program counter.  The place of a program
counter is the one in the last entry for it whose source is known: entries of
unknown sources neither give a place nor take one away.
-/

namespace TraceAdapter
namespace Recording

/-!
## Ascending places
-/

/-- Places in the order of their program counters, one for each. -/
def Ascending (places : List (Nat × SourceOffset)) : Prop :=
  (places.map Prod.fst).Pairwise (· < ·)

def placeIn? (pc : Nat) (places : List (Nat × SourceOffset)) : Option SourceOffset :=
  (places.find? fun p => p.1 == pc).map Prod.snd

theorem placeIn?_cons (pc : Nat) (p : Nat × SourceOffset)
    (rest : List (Nat × SourceOffset)) :
    placeIn? pc (p :: rest) = if p.1 = pc then some p.2 else placeIn? pc rest := by
  unfold placeIn?
  by_cases h : p.1 = pc
  · simp [h]
  · simp [h]

theorem placeIn?_eq_none_of_lt {pc : Nat} {places : List (Nat × SourceOffset)}
    (h : forall p, p ∈ places -> pc < p.1) : placeIn? pc places = none := by
  unfold placeIn?
  rw [Option.map_eq_none_iff, List.find?_eq_none]
  intro p hp heq
  have hlt := h p hp
  rw [eq_of_beq heq] at hlt
  exact Nat.lt_irrefl pc hlt

theorem ascending_cons {p : Nat × SourceOffset} {rest : List (Nat × SourceOffset)} :
    Ascending (p :: rest) ↔ (forall q, q ∈ rest -> p.1 < q.1) ∧ Ascending rest := by
  unfold Ascending
  rw [List.map_cons, List.pairwise_cons]
  constructor
  · rintro ⟨hfirst, hrest⟩
    exact ⟨fun q hq => hfirst q.1 (List.mem_map_of_mem hq), hrest⟩
  · rintro ⟨hfirst, hrest⟩
    refine ⟨?_, hrest⟩
    intro x hx
    rcases List.mem_map.mp hx with ⟨q, hq, rfl⟩
    exact hfirst q hq

theorem mem_iff_placeIn? {places : List (Nat × SourceOffset)} (h : Ascending places)
    {pc : Nat} {place : SourceOffset} :
    (pc, place) ∈ places ↔ placeIn? pc places = some place := by
  induction places with
  | nil => simp [placeIn?]
  | cons p rest ih =>
      rcases p with ⟨first, found⟩
      rcases ascending_cons.mp h with ⟨hfirst, hrest⟩
      rw [List.mem_cons, placeIn?_cons, ih hrest]
      by_cases hpc : first = pc
      · subst hpc
        rw [if_pos rfl, placeIn?_eq_none_of_lt hfirst]
        constructor
        · rintro (heq | hnone)
          · cases heq
            rfl
          · cases hnone
        · intro hplace
          cases hplace
          exact Or.inl rfl
      · rw [if_neg hpc]
        constructor
        · rintro (heq | hplace)
          · cases heq
            exact absurd rfl hpc
          · exact hplace
        · exact Or.inr

/-!
## Adding a place
-/

theorem fst_mem_addPlace {pc : Nat} {place : SourceOffset}
    {places : List (Nat × SourceOffset)} {q : Nat × SourceOffset}
    (h : q ∈ addPlace pc place places) : q.1 = pc ∨ q ∈ places := by
  induction places with
  | nil =>
      left
      rw [List.mem_singleton.mp h]
  | cons p rest ih =>
      unfold addPlace at h
      by_cases hlt : pc < p.1
      · rw [if_pos hlt] at h
        rcases List.mem_cons.mp h with rfl | hmem
        · exact Or.inl rfl
        · exact Or.inr hmem
      · rw [if_neg hlt] at h
        by_cases heq : pc = p.1
        · rw [if_pos heq] at h
          exact Or.inr h
        · rw [if_neg heq] at h
          rcases List.mem_cons.mp h with rfl | hmem
          · exact Or.inr List.mem_cons_self
          · rcases ih hmem with hpc | hrest
            · exact Or.inl hpc
            · exact Or.inr (List.mem_cons_of_mem p hrest)

theorem ascending_addPlace {places : List (Nat × SourceOffset)}
    (h : Ascending places) (pc : Nat) (place : SourceOffset) :
    Ascending (addPlace pc place places) := by
  induction places with
  | nil => exact List.pairwise_singleton _ _
  | cons p rest ih =>
      rcases ascending_cons.mp h with ⟨hfirst, hrest⟩
      unfold addPlace
      by_cases hlt : pc < p.1
      · rw [if_pos hlt, ascending_cons]
        refine ⟨?_, h⟩
        intro q hq
        rcases List.mem_cons.mp hq with rfl | hmem
        · exact hlt
        · exact Nat.lt_trans hlt (hfirst q hmem)
      · rw [if_neg hlt]
        by_cases heq : pc = p.1
        · rw [if_pos heq]
          exact h
        · rw [if_neg heq, ascending_cons]
          refine ⟨?_, ih hrest⟩
          intro q hq
          rcases fst_mem_addPlace hq with hpc | hmem
          · rw [hpc]
            omega
          · exact hfirst q hmem

theorem placeIn?_addPlace_of_ne {pc other : Nat} (h : other ≠ pc)
    (place : SourceOffset) (places : List (Nat × SourceOffset)) :
    placeIn? other (addPlace pc place places) = placeIn? other places := by
  induction places with
  | nil =>
      unfold addPlace
      rw [placeIn?_cons, if_neg (Ne.symm h)]
  | cons p rest ih =>
      unfold addPlace
      by_cases hlt : pc < p.1
      · rw [if_pos hlt, placeIn?_cons, if_neg (Ne.symm h)]
      · rw [if_neg hlt]
        by_cases heq : pc = p.1
        · rw [if_pos heq]
        · rw [if_neg heq, placeIn?_cons, placeIn?_cons, ih]

theorem placeIn?_addPlace_self {places : List (Nat × SourceOffset)}
    (h : Ascending places) (pc : Nat) (place : SourceOffset) :
    placeIn? pc (addPlace pc place places) =
      some ((placeIn? pc places).getD place) := by
  induction places with
  | nil =>
      unfold addPlace
      rw [placeIn?_cons, if_pos rfl]
      rfl
  | cons p rest ih =>
      rcases ascending_cons.mp h with ⟨hfirst, hrest⟩
      unfold addPlace
      by_cases hlt : pc < p.1
      · have hnone : placeIn? pc (p :: rest) = none := by
          apply placeIn?_eq_none_of_lt
          intro q hq
          rcases List.mem_cons.mp hq with rfl | hmem
          · exact hlt
          · exact Nat.lt_trans hlt (hfirst q hmem)
        rw [if_pos hlt, hnone, placeIn?_cons, if_pos rfl]
        rfl
      · rw [if_neg hlt]
        by_cases heq : pc = p.1
        · rw [if_pos heq, placeIn?_cons, if_pos heq.symm]
          rfl
        · rw [if_neg heq, placeIn?_cons, if_neg (Ne.symm heq), placeIn?_cons,
            if_neg (Ne.symm heq), ih hrest]

/-!
## The last entry with a known source
-/

def placesOf (r : Recording) (entries : List Mapping) : List (Nat × SourceOffset) :=
  entries.foldr
    (fun i found =>
      match r.sourcePath? i.sourceId with
      | some path => addPlace i.pc ⟨path, i.offset⟩ found
      | none => found)
    []

theorem places_eq (r : Recording) : r.places = r.placesOf r.instructions := rfl

theorem placesOf_cons_of_known {r : Recording} {i : Mapping} {path : String}
    (h : r.sourcePath? i.sourceId = some path) (rest : List Mapping) :
    r.placesOf (i :: rest) = addPlace i.pc ⟨path, i.offset⟩ (r.placesOf rest) := by
  simp only [placesOf, List.foldr_cons, h]

theorem placesOf_cons_of_unknown {r : Recording} {i : Mapping}
    (h : r.sourcePath? i.sourceId = none) (rest : List Mapping) :
    r.placesOf (i :: rest) = r.placesOf rest := by
  simp only [placesOf, List.foldr_cons, h]

theorem ascending_placesOf (r : Recording) (entries : List Mapping) :
    Ascending (r.placesOf entries) := by
  induction entries with
  | nil => exact List.Pairwise.nil
  | cons i rest ih =>
      cases hpath : r.sourcePath? i.sourceId with
      | none =>
          rw [placesOf_cons_of_unknown hpath]
          exact ih
      | some path =>
          rw [placesOf_cons_of_known hpath]
          exact ascending_addPlace ih i.pc _

def Unplaced (r : Recording) (entries : List Mapping) (pc : Nat) : Prop :=
  forall i, i ∈ entries -> i.pc = pc -> r.sourcePath? i.sourceId = none

/-- The last entry that gives a place to a program counter gives this one. -/
def PlacedAt (r : Recording) (entries : List Mapping) (pc : Nat)
    (place : SourceOffset) : Prop :=
  exists before i after,
    entries = before ++ i :: after ∧
      i.pc = pc ∧ r.sourcePath? i.sourceId = some place.path ∧
      i.offset = place.offset ∧ r.Unplaced after pc

theorem unplaced_cons {r : Recording} {i : Mapping} {rest : List Mapping}
    {pc : Nat} :
    r.Unplaced (i :: rest) pc ↔
      (i.pc = pc -> r.sourcePath? i.sourceId = none) ∧ r.Unplaced rest pc := by
  unfold Unplaced
  simp only [List.mem_cons, forall_eq_or_imp]

theorem placedAt_cons {r : Recording} {i : Mapping} {rest : List Mapping}
    {pc : Nat} {place : SourceOffset} :
    r.PlacedAt (i :: rest) pc place ↔
      r.PlacedAt rest pc place ∨
        i.pc = pc ∧ r.sourcePath? i.sourceId = some place.path ∧
          i.offset = place.offset ∧ r.Unplaced rest pc := by
  constructor
  · rintro ⟨before, entry, after, hsplit, hentry⟩
    cases before with
    | nil =>
        cases hsplit
        exact Or.inr hentry
    | cons first before =>
        cases hsplit
        exact Or.inl ⟨before, entry, after, rfl, hentry⟩
  · rintro (⟨before, entry, after, rfl, hentry⟩ | hfirst)
    · exact ⟨i :: before, entry, after, rfl, hentry⟩
    · exact ⟨[], i, rest, rfl, hfirst⟩

theorem placeIn?_placesOf_eq_none_iff {r : Recording} {entries : List Mapping}
    {pc : Nat} :
    placeIn? pc (r.placesOf entries) = none ↔ r.Unplaced entries pc := by
  induction entries with
  | nil => simp [placesOf, placeIn?, Unplaced]
  | cons i rest ih =>
      rw [unplaced_cons, ← ih]
      cases hpath : r.sourcePath? i.sourceId with
      | none =>
          rw [placesOf_cons_of_unknown hpath]
          exact ⟨fun h => ⟨fun _ => rfl, h⟩, And.right⟩
      | some path =>
          rw [placesOf_cons_of_known hpath]
          by_cases hpc : i.pc = pc
          · subst hpc
            rw [placeIn?_addPlace_self (r.ascending_placesOf rest)]
            simp
          · rw [placeIn?_addPlace_of_ne (Ne.symm hpc)]
            exact ⟨fun h => ⟨fun heq => absurd heq hpc, h⟩, And.right⟩

theorem placeIn?_placesOf_eq_some_iff {r : Recording} {entries : List Mapping}
    {pc : Nat} {place : SourceOffset} :
    placeIn? pc (r.placesOf entries) = some place ↔ r.PlacedAt entries pc place := by
  -- The entries are taken in from the last on, so the first one gives a place
  -- only to a program counter that the others leave without one.
  induction entries with
  | nil =>
      constructor
      · intro h
        cases h
      · rintro ⟨before, i, after, hsplit, _⟩
        cases before <;> cases hsplit
  | cons i rest ih =>
      rw [placedAt_cons, ← ih, ← placeIn?_placesOf_eq_none_iff]
      cases hpath : r.sourcePath? i.sourceId with
      | none =>
          rw [placesOf_cons_of_unknown hpath]
          simp
      | some path =>
          rw [placesOf_cons_of_known hpath]
          by_cases hpc : i.pc = pc
          · subst hpc
            rw [placeIn?_addPlace_self (r.ascending_placesOf rest)]
            rcases place with ⟨p, offset⟩
            cases placeIn? i.pc (r.placesOf rest) with
            | none => simp
            | some found => simp
          · rw [placeIn?_addPlace_of_ne (Ne.symm hpc)]
            simp [hpc]

end Recording
end TraceAdapter
