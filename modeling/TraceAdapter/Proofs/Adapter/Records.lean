import TraceAdapter.Proofs.Adapter.Navigating

/-!
# Records of a batch

A batch of breakpoints is answered by a record of each, in order.  The record of a
breakpoint depends on what the session works on and on that breakpoint alone.
-/

namespace TraceAdapter

open Breakpoint (Descriptor)
open Protocol (Request SetBreakpointsArguments SourceBreakpoint)

variable {ω σ : Type}

/-- What a debugger resolves a breakpoint to is what its source map and the calls of
the trace give. -/
def Debugger.ResolvesByDefault [Debugger σ] (debugger : σ) : Prop :=
  forall d steps functions,
    Debugger.resolve debugger d steps functions =
      Breakpoint.resolve (Debugger.sourceMap? debugger) d steps functions

theorem Breakpoint.ne_nil_of_resolve {map : Option SourceMap} {d : Descriptor}
    {steps : List Step} {functions : Option (List Invocation)} {pcs : List Nat}
    (h : Breakpoint.resolve map d steps functions = .ok pcs) : pcs ≠ [] := by
  have hfound {found : List Nat} {e : Error}
      (hok : (if found.isEmpty then Except.error e else .ok found) = .ok pcs) :
      pcs ≠ [] := by
    cases found with
    | nil => cases hok
    | cons first rest =>
        cases hok
        exact List.cons_ne_nil first rest
  unfold Breakpoint.resolve at h
  cases d with
  | line path n =>
      cases map with
      | none => cases h
      | some map => exact hfound h
  | function name =>
      dsimp only at h
      cases hraw : Breakpoint.rawPc? name with
      | some pc =>
          rw [hraw] at h
          cases h
          exact List.cons_ne_nil pc []
      | none =>
          rw [hraw] at h
          exact hfound h

namespace Session

variable [Debugger σ]

/-!
## One record
-/

def fault? (s : Session σ) (d : Descriptor) : Option Error :=
  match s.resolve d with
  | .ok _ => none
  | .error e => some e

def record (s : Session σ) (d : Descriptor) : Protocol.Breakpoint :=
  verification s.isLive d (s.fault? d)

/-- The records of one entry of a batch: one for its line and one for its function,
as far as it has them. -/
def records (s : Session σ) (path : String) (b : SourceBreakpoint) :
    List Protocol.Breakpoint :=
  (b.line.map fun n => s.record (.line path n)).toList ++
    (b.functionName.map fun name => s.record (.function name)).toList

theorem fault?_eq_none_iff {s : Session σ} {d : Descriptor} :
    s.fault? d = none ↔
      exists l pcs, s.live? = some l ∧
        Debugger.resolve l.debugger d l.steps l.functions = .ok pcs := by
  unfold fault? resolve
  cases s.live? with
  | none => simp
  | some l =>
      cases hresolve : Debugger.resolve l.debugger d l.steps l.functions with
      | error e => simp [hresolve]
      | ok pcs => simp [hresolve]

theorem record_verified_iff (s : Session σ) (d : Descriptor) :
    (s.record d).verified = true ↔
      exists l pcs, s.live? = some l ∧
        Debugger.resolve l.debugger d l.steps l.functions = .ok pcs := by
  have hverified : (s.record d).verified = (s.fault? d).isNone := by
    cases d with
    | line path n => rfl
    | function name => rfl
  rw [hverified, Option.isNone_iff_eq_none]
  exact fault?_eq_none_iff

theorem record_message_isSome (s : Session σ) (d : Descriptor) :
    (s.record d).message.isSome = (s.isLive && ! (s.record d).verified) := by
  have hmessage : (s.record d).message =
      if s.isLive then (s.fault? d).map Error.message else none := by
    cases d with
    | line path n => rfl
    | function name => rfl
  have hverified : (s.record d).verified = (s.fault? d).isNone := by
    cases d with
    | line path n => rfl
    | function name => rfl
  rw [hmessage, hverified]
  cases s.isLive with
  | false => rfl
  | true =>
      cases s.fault? d with
      | none => rfl
      | some e => rfl

theorem record_congr {s t : Session σ} (h : s.live? = t.live?) : s.record = t.record := by
  have hlive : s.isLive = t.isLive := by
    rw [Bool.eq_iff_iff, isLive_iff_exists_live?, isLive_iff_exists_live?, h]
  funext d
  unfold record fault? resolve
  rw [h, hlive]

theorem records_congr {s t : Session σ} (h : s.live? = t.live?) :
    s.records = t.records := by
  funext path b
  unfold records
  rw [record_congr h]

theorem map_record_descriptors (s : Session σ) (path : String) (b : SourceBreakpoint) :
    (descriptors path b).map s.record = s.records path b := by
  unfold descriptors records
  rw [List.map_append, Option.toList_map, Option.toList_map, Option.toList_map,
    Option.toList_map, List.map_map, List.map_map]
  rfl

/-!
## All records of a batch
-/

/-- Each record is that of its breakpoint by itself, since looking one breakpoint up
does not change what another resolves to. -/
theorem recordAll_records (s : Session σ) (path : String) (batch : List Descriptor) :
    (s.recordAll path batch).1 = batch.map s.record := by
  induction batch generalizing s with
  | nil => rfl
  | cons d rest ih =>
      rw [List.map_cons]
      unfold recordAll
      cases hlive : s.isLive with
      | false =>
          have hrecord : s.record d =
              verification false d (some (.breakpointFailed d.display .noSession)) := by
            unfold record fault?
            rw [hlive, resolve_of_dead hlive]
          rw [hrecord, ← ih s]
          rfl
      | true =>
          have hrecord : s.record d = verification true d (s.fault? d) := by
            unfold record
            rw [hlive]
          rw [hrecord]
          unfold register fault?
          cases s.resolve d with
          | error e =>
              rw [← ih s]
              rfl
          | ok pcs =>
              let after := { s with breakpoints := s.breakpoints.register path pcs }
              have hsame : after.record = s.record := record_congr rfl
              rw [← hsame, ← ih after]
              rfl

theorem setBatch_records (s : Session σ) (path : String) (batch : List Descriptor) :
    (s.setBatch path batch).1 = batch.map s.record := by
  unfold setBatch
  rw [recordAll_records]
  exact congrArg batch.map (record_congr rfl)

end Session

namespace Adapter

/-- A request sets a batch of breakpoints, with good arguments. -/
def Sets (r : Request) (a : SetBreakpointsArguments) : Prop :=
  r.command = "setBreakpoints" ∧ arguments SetBreakpointsArguments.decode {} r = .ok a

def path (a : SetBreakpointsArguments) : String := a.source.path.getD ""

variable [Debugger σ]

theorem handle_of_sets {r : Request} {a : SetBreakpointsArguments} (h : Sets r a)
    (c : Launch.Collaborators ω σ) (s : Session σ) :
    handle c s r = setBreakpoints s a := by
  rw [handle_of_command .setBreakpoints h.1]
  exact withArguments_of_ok h.2 s (setBreakpoints s)

theorem setBreakpoints_result (s : Session σ) (a : SetBreakpointsArguments) :
    (setBreakpoints s a : Handled ω σ).result =
      .ok (.breakpoints (a.breakpoints.flatMap (s.records (path a)))) := by
  unfold setBreakpoints
  dsimp only
  rw [Session.setBatch_records, List.map_flatMap]
  simp only [Session.map_record_descriptors]
  rfl

theorem live?_setBreakpoints (s : Session σ) (a : SetBreakpointsArguments) :
    (setBreakpoints s a : Handled ω σ).session.live? = s.live? :=
  Session.live?_of_bare (bare_setBreakpoints s a)

theorem mem_pcs_setBreakpoints {s : Session σ} (h : s.Matched)
    {a : SetBreakpointsArguments} {d : Descriptor} {pc : Nat}
    (hd : d ∈ a.breakpoints.flatMap (Session.descriptors (path a)))
    (hpc : pc ∈ s.counters d) :
    pc ∈ (setBreakpoints s a : Handled ω σ).session.breakpoints.pcs := by
  have hafter := h.setBatch (path a)
    (a.breakpoints.flatMap (Session.descriptors (path a)))
  show pc ∈ (s.setBatch (path a)
    (a.breakpoints.flatMap (Session.descriptors (path a)))).2.breakpoints.pcs
  rw [hafter.mem_pcs_iff]
  refine ⟨path a, d, ?_, ?_⟩
  · rw [requests_setBatch, if_pos rfl]
    exact hd
  · have hcounters := Session.counters_congr (live?_setBreakpoints (ω := ω) s a)
    show pc ∈ (setBreakpoints s a : Handled ω σ).session.counters d
    rw [hcounters]
    exact hpc

/-- By default a record is verified if its breakpoint resolves to some program
counters, and the session stops at all of them afterwards. -/
theorem record_verified_iff_of_default {s : Session σ} (h : s.Matched)
    {a : SetBreakpointsArguments} {l : Live σ} {d : Descriptor}
    (hlive : s.live? = some l)
    (hd : d ∈ a.breakpoints.flatMap (Session.descriptors (path a)))
    (hdefault : Debugger.ResolvesByDefault l.debugger) :
    (s.record d).verified = true ↔
      exists pcs,
        Breakpoint.resolve (Debugger.sourceMap? l.debugger) d l.steps l.functions =
          .ok pcs ∧
        pcs ≠ [] ∧
        forall pc, pc ∈ pcs ->
          pc ∈ (setBreakpoints s a : Handled ω σ).session.breakpoints.pcs := by
  rw [s.record_verified_iff]
  constructor
  · rintro ⟨l', pcs, hlive', hok⟩
    cases hlive.symm.trans hlive'
    have hstops (pc : Nat) (hpc : pc ∈ pcs) :
        pc ∈ (setBreakpoints s a : Handled ω σ).session.breakpoints.pcs :=
      mem_pcs_setBreakpoints h hd
        ((mem_counters_of_live hlive d pc).mpr ⟨pcs, hok, hpc⟩)
    rw [hdefault] at hok
    exact ⟨pcs, hok, Breakpoint.ne_nil_of_resolve hok, hstops⟩
  · rintro ⟨pcs, hok, _, _⟩
    rw [← hdefault] at hok
    exact ⟨l, pcs, hlive, hok⟩

/-- A batch that is set is answered by the records of its entries in order.  A record
is verified if the session is live and its breakpoint resolves, which by default
means to some program counters, and the session then stops at all of them.  A
record names what it is about, depends on nothing else that was or is asked for,
and has a message if it is not verified while the session is live. -/
theorem batch_recorded {past : List (Occasion ω σ)} {s : Session σ}
    (h : Reached past s) {r : Request} {a : SetBreakpointsArguments} (hset : Sets r a)
    (c : Launch.Collaborators ω σ) :
    (handle c s r).result =
        .ok (.breakpoints (a.breakpoints.flatMap (s.records (path a)))) ∧
      (forall p n, (s.record (.line p n)).line = some n ∧
        (s.record (.line p n)).functionName = none) ∧
      (forall name, (s.record (.function name)).functionName = some name ∧
        (s.record (.function name)).line = none) ∧
      (forall d, (s.record d).verified = true ↔
        exists l pcs, s.live? = some l ∧
          Debugger.resolve l.debugger d l.steps l.functions = .ok pcs) ∧
      (forall l d, s.live? = some l ->
        d ∈ a.breakpoints.flatMap (Session.descriptors (path a)) ->
        Debugger.ResolvesByDefault l.debugger ->
        ((s.record d).verified = true ↔
          exists pcs,
            Breakpoint.resolve (Debugger.sourceMap? l.debugger) d l.steps l.functions =
              .ok pcs ∧
            pcs ≠ [] ∧
            forall pc, pc ∈ pcs -> pc ∈ (handle c s r).session.breakpoints.pcs)) ∧
      (forall d, (s.record d).verified = false ->
        ((s.record d).message.isSome = true ↔ s.isLive = true)) ∧
      (forall t : Session σ, t.live? = s.live? -> t.records = s.records) ∧
      (handle c s r).session.live? = s.live? ∧
      (forall (first rest : Request) (x y : SetBreakpointsArguments) (t : Session σ),
        Sets first x -> Sets rest y -> path x = path a -> path y = path a ->
        a.breakpoints = x.breakpoints ++ y.breakpoints -> t.live? = s.live? ->
          exists xs ys,
            (handle c s first).result = .ok (.breakpoints xs) ∧
            (handle c t rest).result = .ok (.breakpoints ys) ∧
            (handle c s r).result = .ok (.breakpoints (xs ++ ys))) := by
  have hresult := setBreakpoints_result (ω := ω) s a
  rw [handle_of_sets hset]
  refine ⟨hresult, fun p n => ⟨rfl, rfl⟩, fun name => ⟨rfl, rfl⟩, s.record_verified_iff,
    ?_, ?_, fun t => Session.records_congr, live?_setBreakpoints s a, ?_⟩
  · intro l d hlive hd hdefault
    exact record_verified_iff_of_default h.matched hlive hd hdefault
  · intro d hverified
    rw [s.record_message_isSome, hverified, Bool.not_false, Bool.and_true]
  · intro first rest x y t hfirst hrest hx hy happend hlive
    refine ⟨x.breakpoints.flatMap (s.records (path a)),
      y.breakpoints.flatMap (s.records (path a)), ?_, ?_, ?_⟩
    · rw [handle_of_sets hfirst, setBreakpoints_result, hx]
    · rw [handle_of_sets hrest, setBreakpoints_result, hy, Session.records_congr hlive]
    · rw [hresult, happend, List.flatMap_append]

namespace Sample

def batchOf (entries : List Json.Value) : Request where
  seq := 3
  command := "setBreakpoints"
  arguments :=
    some <| .object
      [("source", .object [("path", .string "Token.sol")]),
        ("breakpoints", .array entries)]

def early : List Json.Value :=
  [.object [("line", .nat 3), ("functionName", .string "transfer")], .object []]

def late : List Json.Value :=
  [.object [("line", .nat 9)], .object [("functionName", .string "0x1f")]]

end Sample

/-- Four entries are answered as two halves of them are, and the session stops at the
program counter that is given by a number. -/
theorem batch_recorded_halves :
    exists (s : Session Scripted) (xs ys : List Protocol.Breakpoint),
      Reached [Sample.launching] s ∧ s.isLive = true ∧
        (handle Sample.collaborators s (Sample.batchOf Sample.early)).result =
          .ok (.breakpoints xs) ∧
        (handle Sample.collaborators s (Sample.batchOf Sample.late)).result =
          .ok (.breakpoints ys) ∧
        (handle Sample.collaborators s
            (Sample.batchOf (Sample.early ++ Sample.late))).result =
          .ok (.breakpoints (xs ++ ys)) ∧
        (s.record (.line "Token.sol" 9)).verified = false ∧
        (s.record (.line "Token.sol" 9)).message.isSome = true ∧
        31 ∈ (handle Sample.collaborators s
          (Sample.batchOf (Sample.early ++ Sample.late))).session.breakpoints.pcs := by
  have hreached := Reached.start.handled Sample.launching
  have hset : Sets (Sample.batchOf (Sample.early ++ Sample.late))
      ⟨{ path := some "Token.sol" },
        [⟨some 3, some "transfer"⟩, ⟨none, none⟩, ⟨some 9, none⟩, ⟨none, some "0x1f"⟩]⟩ :=
    ⟨rfl, rfl⟩
  have hearly : Sets (Sample.batchOf Sample.early)
      ⟨{ path := some "Token.sol" }, [⟨some 3, some "transfer"⟩, ⟨none, none⟩]⟩ :=
    ⟨rfl, rfl⟩
  have hlate : Sets (Sample.batchOf Sample.late)
      ⟨{ path := some "Token.sol" }, [⟨some 9, none⟩, ⟨none, some "0x1f"⟩]⟩ :=
    ⟨rfl, rfl⟩
  rcases batch_recorded hreached hset Sample.collaborators with
    ⟨_, _, _, _, hdefault, hmessage, _, _, hhalves⟩
  rcases hhalves _ _ _ _ _ hearly hlate rfl rfl rfl rfl with ⟨xs, ys, hxs, hys, hall⟩
  have hpcs := hdefault
    ⟨Sample.debugger, Sample.debugger.steps, Sample.debugger.functions⟩
    (.function "0x1f") rfl (by decide) (fun _ _ _ => rfl)
  rcases hpcs.mp rfl with ⟨pcs, hok, _, hstops⟩
  cases hok
  have hnone := (hmessage (.line "Token.sol" 9) rfl).mpr rfl
  exact ⟨_, xs, ys, hreached, rfl, hxs, hys, hall, rfl, hnone,
    hstops 31 List.mem_cons_self⟩

end Adapter
end TraceAdapter
