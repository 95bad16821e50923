import TraceAdapter.Debugger.Scripted
import TraceAdapter.Proofs.Adapter.Handlers

/-!
# Nested calls

The calls of a trace are nested when no two of them overlap in part.  Of the calls
around a step the current one is the last that was entered latest.  When calls are
nested and each is listed before those made in it, this call lies inside all others
around the step.
-/

namespace TraceAdapter

namespace Invocation

/-!
## The steps of calls
-/

/-- All steps of a trace that lie in one call lie in another. -/
def Inside (length : Nat) (f g : Invocation) : Prop :=
  forall index, index < length -> f.contains index = true -> g.contains index = true

/-- No step of a trace lies in both of two calls. -/
def Apart (length : Nat) (f g : Invocation) : Prop :=
  forall index, index < length -> f.contains index = true -> g.contains index = false

/-- Another call was made in a call: it has steps, all of them lie in the call, and
the call has others. -/
def Around (length : Nat) (f g : Invocation) : Prop :=
  (exists index, index < length ∧ g.contains index = true) ∧
    g.Inside length f ∧ ¬ f.Inside length g

/-- Of any two calls one lies inside the other, or they are apart. -/
def Nested (length : Nat) (calls : List Invocation) : Prop :=
  forall f, f ∈ calls -> forall g, g ∈ calls ->
    f.Apart length g ∨ f.Inside length g ∨ g.Inside length f

/-- No call is listed behind one that was made in it. -/
def CallersFirst (length : Nat) (calls : List Invocation) : Prop :=
  calls.Pairwise fun earlier later => ¬ later.Around length earlier

instance (length : Nat) (f g : Invocation) : Decidable (f.Inside length g) :=
  inferInstanceAs (Decidable (forall index, index < length ->
    f.contains index = true -> g.contains index = true))

instance (length : Nat) (f g : Invocation) : Decidable (f.Apart length g) :=
  inferInstanceAs (Decidable (forall index, index < length ->
    f.contains index = true -> g.contains index = false))

instance (length : Nat) (f g : Invocation) : Decidable (f.Around length g) :=
  inferInstanceAs (Decidable
    ((exists index, index < length ∧ g.contains index = true) ∧
      g.Inside length f ∧ ¬ f.Inside length g))

instance (length : Nat) (calls : List Invocation) : Decidable (Nested length calls) :=
  inferInstanceAs (Decidable (forall f, f ∈ calls -> forall g, g ∈ calls ->
    f.Apart length g ∨ f.Inside length g ∨ g.Inside length f))

instance (length : Nat) (calls : List Invocation) : Decidable (CallersFirst length calls) :=
  inferInstanceAs (Decidable
    (calls.Pairwise fun earlier later => ¬ later.Around length earlier))

theorem entryStep_le_of_contains {f : Invocation} {index : Nat}
    (h : f.contains index = true) : f.entryStep ≤ index := by
  unfold contains at h
  rw [Bool.and_eq_true, decide_eq_true_eq] at h
  exact h.1

theorem contains_entryStep {f : Invocation} {index : Nat}
    (h : f.contains index = true) : f.contains f.entryStep = true := by
  have hentered := entryStep_le_of_contains h
  unfold contains at h ⊢
  rw [Bool.and_eq_true] at h ⊢
  refine ⟨decide_eq_true (Nat.le_refl _), ?_⟩
  cases hexit : f.exitStep with
  | none => rfl
  | some last =>
      have hlast := h.2
      rw [hexit] at hlast
      exact decide_eq_true (Nat.le_trans hentered (of_decide_eq_true hlast))

/-!
## The last call that was entered latest
-/

/-- A call was entered as late as any call before it in a list, and later than those
behind it. -/
def LastEntered (calls : List (Invocation × Nat)) (f : Invocation × Nat) : Prop :=
  exists before after,
    calls = before ++ f :: after ∧
      (forall g, g ∈ before -> g.1.entryStep ≤ f.1.entryStep) ∧
      forall g, g ∈ after -> g.1.entryStep < f.1.entryStep

theorem LastEntered.mem {calls : List (Invocation × Nat)} {f : Invocation × Nat}
    (h : LastEntered calls f) : f ∈ calls := by
  rcases h with ⟨before, after, rfl, _, _⟩
  exact List.mem_append_right before List.mem_cons_self

theorem LastEntered.le {calls : List (Invocation × Nat)} {f g : Invocation × Nat}
    (h : LastEntered calls f) (hg : g ∈ calls) : g.1.entryStep ≤ f.1.entryStep := by
  rcases h with ⟨before, after, rfl, hbefore, hafter⟩
  rcases List.mem_append.mp hg with hg | hg
  · exact hbefore g hg
  · rcases List.mem_cons.mp hg with rfl | hg
    · exact Nat.le_refl _
    · exact Nat.le_of_lt (hafter g hg)

theorem lastEntered_singleton (f : Invocation × Nat) : LastEntered [f] f :=
  ⟨[], [], rfl, fun _ h => absurd h List.not_mem_nil, fun _ h => absurd h List.not_mem_nil⟩

theorem LastEntered.cons {calls : List (Invocation × Nat)} {f g : Invocation × Nat}
    (h : LastEntered calls f) (hg : g.1.entryStep ≤ f.1.entryStep) :
    LastEntered (g :: calls) f := by
  rcases h with ⟨before, after, rfl, hbefore, hafter⟩
  refine ⟨g :: before, after, rfl, ?_, hafter⟩
  intro call hcall
  rcases List.mem_cons.mp hcall with rfl | hcall
  · exact hg
  · exact hbefore call hcall

theorem LastEntered.insert {calls : List (Invocation × Nat)} {b f g : Invocation × Nat}
    (h : LastEntered (b :: calls) f) (hg : g.1.entryStep < b.1.entryStep) :
    LastEntered (b :: g :: calls) f := by
  have hb := h.le List.mem_cons_self
  rcases h with ⟨before, after, heq, hbefore, hafter⟩
  cases before with
  | nil =>
      cases heq
      refine ⟨[], g :: calls, rfl, hbefore, ?_⟩
      intro call hcall
      rcases List.mem_cons.mp hcall with rfl | hcall
      · exact hg
      · exact hafter call hcall
  | cons first before =>
      cases heq
      refine ⟨b :: g :: before, after, rfl, ?_, hafter⟩
      intro call hcall
      rcases List.mem_cons.mp hcall with rfl | hcall
      · exact hb
      · rcases List.mem_cons.mp hcall with rfl | hcall
        · exact Nat.le_trans (Nat.le_of_lt hg) hb
        · exact hbefore call (List.mem_cons_of_mem _ hcall)

theorem lastEntered_foldl_later {calls : List (Invocation × Nat)} {b f : Invocation × Nat}
    (h : calls.foldl later (some b) = some f) : LastEntered (b :: calls) f := by
  -- The call kept so far stands in front for all calls before it: the next one takes its
  -- place, or is dropped from behind it.
  induction calls generalizing b with
  | nil =>
      cases h
      exact lastEntered_singleton _
  | cons g rest ih =>
      rw [List.foldl_cons, later] at h
      by_cases hle : b.1.entryStep ≤ g.1.entryStep
      · rw [if_pos hle] at h
        have hlast := ih h
        exact hlast.cons (Nat.le_trans hle (hlast.le List.mem_cons_self))
      · rw [if_neg hle] at h
        exact (ih h).insert (Nat.lt_of_not_le hle)

/-- The innermost call that contains a step is the last of those around it that were
entered latest. -/
theorem lastEntered_of_innermost? {calls : List Invocation} {index i : Nat}
    (h : innermost? calls index = some i) :
    exists f, calls[i]? = some f ∧
      LastEntered (calls.zipIdx.filter fun g => g.1.contains index) (f, i) := by
  unfold innermost? at h
  rcases Option.map_eq_some_iff.mp h with ⟨⟨f, j⟩, hfold, rfl⟩
  cases hcalls : calls.zipIdx.filter fun g => g.1.contains index with
  | nil =>
      rw [hcalls] at hfold
      cases hfold
  | cons b rest =>
      rw [hcalls] at hfold
      have hlast : LastEntered (b :: rest) (f, j) := lastEntered_foldl_later hfold
      have hmem := hlast.mem
      rw [← hcalls] at hmem
      exact ⟨f, List.mem_zipIdx_iff_getElem?.mp (List.mem_filter.mp hmem).1, hlast⟩

/-!
## Innermost calls
-/

theorem pairwise_zipIdx {calls : List Invocation} {related : Invocation -> Invocation -> Prop}
    (h : calls.Pairwise related) (index : Nat) :
    (calls.zipIdx.filter fun g => g.1.contains index).Pairwise fun a b =>
      related a.1 b.1 := by
  apply List.Pairwise.filter
  rw [← List.zipIdx_map_fst 0 calls, List.pairwise_map] at h
  exact h

/-- Among nested calls with callers first, the innermost call that contains a step lies
inside all others around it. -/
theorem inside_of_innermost? {length index i : Nat} {calls : List Invocation}
    (hnested : Nested length calls) (hfirst : CallersFirst length calls)
    (hindex : index < length) (h : innermost? calls index = some i) :
    exists f, calls[i]? = some f ∧ f.contains index = true ∧
      forall g, g ∈ calls -> g.contains index = true -> f.Inside length g := by
  rcases lastEntered_of_innermost? h with ⟨f, hf, hlast⟩
  have haround : f.contains index = true := (List.mem_filter.mp hlast.mem).2
  refine ⟨f, hf, haround, ?_⟩
  intro g hg hcontains
  rcases hnested f (List.mem_of_getElem? hf) g hg with hapart | hinside | hinside
  · rw [hapart index hindex haround] at hcontains
    cases hcontains
  · exact hinside
  · -- Were `f` wider than `g` it would have been entered earlier, or at the same step
    -- and listed earlier; the last call that was entered latest is neither.
    apply Classical.byContradiction
    intro hwider
    have hcaller : f.Around length g := ⟨⟨index, hindex, hcontains⟩, hinside, hwider⟩
    have hentered : f.entryStep ≤ g.entryStep := by
      have hlt := Nat.lt_of_le_of_lt (entryStep_le_of_contains hcontains) hindex
      exact entryStep_le_of_contains
        (hinside g.entryStep hlt (contains_entryStep hcontains))
    have hpairwise := pairwise_zipIdx hfirst index
    rcases List.mem_iff_getElem?.mp hg with ⟨place, hplace⟩
    have hmem : (g, place) ∈ calls.zipIdx.filter fun call => call.1.contains index :=
      List.mem_filter.mpr ⟨List.mem_zipIdx_iff_getElem?.mpr hplace, hcontains⟩
    rcases hlast with ⟨before, after, hcalls, _, hafter⟩
    rw [hcalls] at hpairwise hmem
    rcases List.mem_append.mp hmem with hbefore | hmem
    · exact (List.pairwise_append.mp hpairwise).2.2 _ hbefore _ List.mem_cons_self hcaller
    · rcases List.mem_cons.mp hmem with heq | hbehind
      · cases heq
        exact hwider hinside
      · exact absurd hentered (Nat.not_le_of_lt (hafter _ hbehind))

theorem innermost?_eq_none {calls : List Invocation} {index : Nat}
    (h : forall g, g ∈ calls -> g.contains index = false) :
    innermost? calls index = none := by
  have hnone : (calls.zipIdx.filter fun g => g.1.contains index) = [] := by
    apply List.filter_eq_nil_iff.mpr
    intro g hg
    rw [h g.1 (List.mem_of_getElem? (List.mem_zipIdx_iff_getElem?.mp hg))]
    exact Bool.false_ne_true
  unfold innermost?
  rw [hnone]
  rfl

end Invocation

/-!
## Moving
-/

namespace Session

open Invocation (Nested CallersFirst)

variable {ω σ : Type}

theorem currentFunction?_movedTo {s : Session σ} {calls : List Invocation}
    {f : Invocation} {index i : Nat} (hcalls : s.functions? = some calls)
    (hinner : Invocation.innermost? calls index = some i) (hf : calls[i]? = some f) :
    (s.movedTo index).currentFunction? = some f := by
  unfold movedTo currentFunction?
  dsimp only
  rw [hcalls]
  show ((Invocation.innermost? calls index).or s.function?).bind (fun i => calls[i]?) =
    some f
  rw [hinner]
  exact hf

theorem function?_movedTo_of_none {s : Session σ} {index : Nat}
    (h : forall calls, s.functions? = some calls ->
      Invocation.innermost? calls index = none) :
    (s.movedTo index).function? = s.function? := by
  unfold movedTo
  dsimp only
  cases hcalls : s.functions? with
  | none => rfl
  | some calls => rw [Option.bind_some, h calls hcalls, Option.none_or]

theorem error_of_moveTo {s : Session σ} {index : Nat} {e : Error}
    (h : s.moveTo index = .error e) : e = .stepOutOfRange index s.length := by
  unfold moveTo at h
  by_cases hindex : index < s.length
  · rw [if_pos hindex] at h
    cases h
  · rw [if_neg hindex] at h
    cases h
    rfl

/-- In a live session a move succeeds just when it is to a step of the trace.  When the
calls are nested and callers are listed first, the current call is then around the step
and inside all others around it; without any call around it the current call stays.  A
move that fails leaves the session. -/
theorem moveTo_innermost {s : Session σ} {l : Live σ} (hlive : s.live? = some l)
    (hnested : Nested l.steps.length (l.functions.getD []))
    (hfirst : CallersFirst l.steps.length (l.functions.getD [])) (index : Nat) :
    let calls := l.functions.getD []
    ((exists after, s.moveTo index = .ok after) ↔ index < l.steps.length) ∧
      (forall after, s.moveTo index = .ok after ->
        after.index = index ∧
          ((exists g, g ∈ calls ∧ g.contains index = true) ->
            exists f, after.currentFunction? = some f ∧ f ∈ calls ∧
              f.contains index = true ∧
              forall g, g ∈ calls -> g.contains index = true ->
                f.Inside l.steps.length g) ∧
          ((forall g, g ∈ calls -> g.contains index = false) ->
            after.function? = s.function? ∧
              after.currentFunction? = s.currentFunction?)) ∧
      (forall e reply, s.moveTo index = .error e ->
        e = .stepOutOfRange index l.steps.length ∧
          (Adapter.moveAndReply s index reply : Handled ω σ).result = .error e ∧
          (Adapter.moveAndReply s index reply : Handled ω σ).session = s) := by
  rcases live?_eq_some_iff.mp hlive with ⟨_, htrace, hfunctions⟩
  have hlength := length_of_trace htrace
  refine ⟨?_, ?_, ?_⟩
  · rw [← hlength]
    constructor
    · rintro ⟨after, hmove⟩
      exact (moveTo_eq_ok_iff.mp hmove).1
    · intro hindex
      exact ⟨s.movedTo index, moveTo_eq_ok_iff.mpr ⟨hindex, rfl⟩⟩
  · intro after hmove
    rcases moveTo_eq_ok_iff.mp hmove with ⟨hindex, rfl⟩
    rw [hlength] at hindex
    refine ⟨rfl, ?_, ?_⟩
    · rintro ⟨g, hg, hcontains⟩
      cases hcalls : l.functions with
      | none =>
          rw [hcalls] at hg
          cases hg
      | some calls =>
          rw [hcalls, Option.getD_some] at hg hnested hfirst
          rcases Invocation.exists_innermost? hg hcontains with ⟨i, hinner⟩
          rcases Invocation.inside_of_innermost? hnested hfirst hindex hinner with
            ⟨f, hf, haround, hinside⟩
          exact ⟨f, currentFunction?_movedTo (hfunctions.trans hcalls) hinner hf,
            List.mem_of_getElem? hf, haround, hinside⟩
    · intro hnone
      have hstays : (s.movedTo index).function? = s.function? := by
        apply function?_movedTo_of_none
        intro calls hcalls
        apply Invocation.innermost?_eq_none
        rw [← hfunctions, hcalls] at hnone
        exact hnone
      refine ⟨hstays, ?_⟩
      show (s.functions?.bind fun fs =>
        (s.movedTo index).function?.bind fun i => fs[i]?) = s.currentFunction?
      rw [hstays]
      rfl
  · intro e reply hmove
    rw [← hlength]
    unfold Adapter.moveAndReply
    rw [hmove]
    exact ⟨error_of_moveTo hmove, rfl, rfl⟩

namespace Sample

def payments : List Invocation :=
  [⟨"main", 0, none⟩, ⟨"pay", 1, some 4⟩, ⟨"pay", 1, some 2⟩, ⟨"send", 3, some 4⟩]

def paying : Session Scripted where
  debugger? := some {}
  trace? := some <| (List.range 6).map fun pc =>
    ⟨pc, "JUMPDEST", [], none, none, none, none, none⟩
  functions? := some payments
  function? := some 0

end Sample

/-- Of two calls entered at one step, the one made in the other becomes the current
call. -/
theorem moveTo_innermost_recursive :
    Nested 6 Sample.payments ∧ CallersFirst 6 Sample.payments ∧
      exists after f,
        Sample.paying.moveTo 2 = .ok after ∧ after.currentFunction? = some f ∧
          f = ⟨"pay", 1, some 2⟩ ∧
          forall g, g ∈ Sample.payments -> g.contains 2 = true -> f.Inside 6 g := by
  have hnested : Nested 6 Sample.payments := by decide
  have hfirst : CallersFirst 6 Sample.payments := by decide
  have hmoves := moveTo_innermost (ω := Unit) (s := Sample.paying)
    (l := ⟨{}, (List.range 6).map fun pc =>
      ⟨pc, "JUMPDEST", [], none, none, none, none, none⟩, some Sample.payments⟩)
    rfl hnested hfirst 2
  rcases hmoves with ⟨hiff, hok, _⟩
  rcases hiff.mpr (by decide) with ⟨after, hafter⟩
  rcases (hok after hafter).2.1 ⟨⟨"main", 0, none⟩, by decide, rfl⟩ with
    ⟨f, hf, _, _, hinside⟩
  cases hafter
  cases hf
  exact ⟨hnested, hfirst, _, _, rfl, rfl, rfl, hinside⟩

end Session

end TraceAdapter
