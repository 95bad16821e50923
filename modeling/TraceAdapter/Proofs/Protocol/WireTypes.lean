import Mathlib.Algebra.Order.Group.Multiset
import TraceAdapter.Proofs.Json.Records
import TraceAdapter.Proofs.Protocol.LenientNumbers
import TraceAdapter.Protocol.Arguments
import TraceAdapter.Protocol.Body

/-!
# Arguments and bodies are read again

All arguments of requests and all records in bodies are stable.  A part that is left
out where it is absent comes back as absent, and a part that is always written comes
back from what stands for its default.
-/

namespace TraceAdapter
namespace Protocol

open Json
open Json.Schema

/-!
## Sources and places to stop
-/

theorem Source.stable_decode : Source.decode.Stable Source.toJson := by
  have hkeeps := (keeps_optional "name" Decoder.stable_text nofun).map Source.mk
    |>.seq (keeps_optional "path" Decoder.stable_text nofun)
  exact hkeeps.stable (by decide) (fun _ => List.Perm.refl _) "Source"

theorem SourceBreakpoint.stable_decode :
    SourceBreakpoint.decode.Stable SourceBreakpoint.toJson := by
  have hkeeps := (keeps_optional "line" Decoder.stable_nat32 nofun).map SourceBreakpoint.mk
    |>.seq (keeps_optional "functionName" Decoder.stable_text nofun)
  exact hkeeps.stable (by decide) (fun _ => List.Perm.refl _) "SourceBreakpoint"

theorem Source.reads_toJson (s : Source) : Source.decode.Reads s.toJson s := by
  have htext {a : String} : Decoder.text.Reads (.string a) a ∧ Value.string a ≠ .null :=
    ⟨fun _ _ => rfl, nofun⟩
  have hname : WrittenAs "name" (Decoder.option Decoder.text) (some none) s.name <|
      entry? "name" .string s.name := writtenAs_optional fun _ _ => htext
  have hpath : WrittenAs "path" (Decoder.option Decoder.text) (some none) s.path <|
      entry? "path" .string s.path := writtenAs_optional fun _ _ => htext
  exact (((restores_default hname).map Source.mk).seq (restores_default hpath)
    (by decide)).reads "Source"

theorem SourceBreakpoint.reads_toJson {b : SourceBreakpoint}
    (h : forall n, b.line = some n -> n < Numeral.bound32) :
    SourceBreakpoint.decode.Reads b.toJson b := by
  have hline : WrittenAs "line" (Decoder.option Decoder.nat32) (some none) b.line <|
      entry? "line" .nat b.line :=
    writtenAs_optional fun n hn => ⟨Decoder.reads_natural (h n hn) "u32", nofun⟩
  have hname : WrittenAs "functionName" (Decoder.option Decoder.text) (some none)
      b.functionName <| entry? "functionName" .string b.functionName :=
    writtenAs_optional fun _ _ => ⟨fun _ _ => rfl, nofun⟩
  exact (((restores_default hline).map SourceBreakpoint.mk).seq (restores_default hname)
    (by decide)).reads "SourceBreakpoint"

/-!
## Arguments
-/

theorem SetBreakpointsArguments.stable_decode :
    SetBreakpointsArguments.decode.Stable SetBreakpointsArguments.toJson := by
  have hsource : Source.decode.Reads (Source.toJson {}) {} :=
    Source.stable_decode .tree (.object [] true) {} rfl
  have hkeeps :=
    (keeps_always "source" {} Source.stable_decode hsource).map SetBreakpointsArguments.mk
    |>.seq (keeps_always "breakpoints" [] SourceBreakpoint.stable_decode.list
      (Decoder.reads_nil _))
  exact hkeeps.stable (by decide) (fun _ => List.Perm.refl _) "SetBreakpointsArguments"

theorem SetBreakpointsArguments.reads_toJson {a : SetBreakpointsArguments}
    (h : forall b, b ∈ a.breakpoints -> forall n, b.line = some n -> n < Numeral.bound32) :
    SetBreakpointsArguments.decode.Reads a.toJson a := by
  have hsource : (default "source" Source.decode {}).Restores
      [("source", a.source.toJson)] a.source :=
    restores_default (.entry (Source.reads_toJson a.source))
  have hplaces : (default "breakpoints" (Decoder.list SourceBreakpoint.decode) []).Restores
      [("breakpoints", .array (a.breakpoints.map SourceBreakpoint.toJson))] a.breakpoints :=
    restores_default (.entry (Decoder.reads_list fun b hb =>
      SourceBreakpoint.reads_toJson (h b hb)))
  exact ((hsource.map SetBreakpointsArguments.mk).seq hplaces (by decide)).reads
    "SetBreakpointsArguments"

theorem ContinueArguments.stable_decode :
    ContinueArguments.decode.Stable ContinueArguments.toJson := by
  have hkeeps := (keeps_always "threadId" 0 Decoder.stable_int64
    (Decoder.reads_integer (by decide) _)).map ContinueArguments.mk
  exact hkeeps.stable (by decide) (fun _ => List.Perm.refl _) "ContinueArguments"

theorem StackTraceArguments.stable_decode :
    StackTraceArguments.decode.Stable StackTraceArguments.toJson := by
  have hkeeps := (keeps_always "threadId" 0 Decoder.stable_int64
      (Decoder.reads_integer (by decide) _)).map StackTraceArguments.mk
    |>.seq (keeps_optional "startFrame" Decoder.stable_int64 nofun)
    |>.seq (keeps_optional "levels" Decoder.stable_int64 nofun)
  exact hkeeps.stable (by decide) (fun _ => List.Perm.refl _) "StackTraceArguments"

theorem VariablesArguments.stable_decode :
    VariablesArguments.decode.Stable VariablesArguments.toJson := by
  have hkeeps := (keeps_always "variablesReference" 0 Decoder.stable_int64
    (Decoder.reads_integer (by decide) _)).map VariablesArguments.mk
  exact hkeeps.stable (by decide) (fun _ => List.Perm.refl _) "VariablesArguments"

theorem EvaluateArguments.stable_decode :
    EvaluateArguments.decode.Stable EvaluateArguments.toJson := by
  have hexpression : Decoder.text.Reads (.string "") "" := fun _ _ => rfl
  have hkeeps :=
    (keeps_always "expression" "" Decoder.stable_text hexpression).map EvaluateArguments.mk
    |>.seq (keeps_optional "frameId" Decoder.stable_int64 nofun)
    |>.seq (keeps_optional "context" Decoder.stable_text nofun)
  exact hkeeps.stable (by decide) (fun _ => List.Perm.refl _) "EvaluateArguments"

namespace LaunchArguments

theorem writtenAs_number (name : String) {n? : Option Nat}
    (h : forall n, n? = some n -> n < Numeral.bound64) :
    WrittenAs name numberOrText (some none) n? <| entry? name .nat n? := by
  cases n? with
  | none => exact WrittenAs.omitted rfl
  | some n =>
      apply WrittenAs.entry
      intro o _
      -- It does not matter where a number stands.
      show ofValue numberOrText (.nat n) = .ok (some n)
      exact ofValue_numberOrText_iff.mpr (.integer (h n rfl))

theorem keeps_number (name : String) :
    (Schema.default name numberOrText none).Keeps id fun n? =>
      entry? name .nat n? :=
  keeps_default name
    (fun _ _ _ hread =>
      writtenAs_number name fun _ hn => lt_of_numberOrText (hn ▸ hread))
    (writtenAs_number name nofun)

theorem keeps_filled (name : String) :
    (Schema.default name (Decoder.list Decoder.value) []).Keeps id fun vs =>
      if vs.isEmpty then [] else [(name, .array vs)] := by
  apply keeps_default
  · intro o d vs hvs
    cases vs with
    | nil => exact WrittenAs.omitted rfl
    | cons v rest => exact WrittenAs.entry (Decoder.stable_values o d _ hvs)
  · exact WrittenAs.omitted rfl

theorem stable_decode : decode.Stable toJson := by
  have htext (name : String) := keeps_optional name Decoder.stable_text nofun
  have hflag (name : String) := keeps_always name false Decoder.stable_bool fun _ _ => rfl
  have hvalues (name : String) := keeps_optional name Decoder.stable_values nofun
  have hkeeps := (htext "contractFile").map LaunchArguments.mk
    |>.seq (htext "contractAddress")
    |>.seq (htext "ethdebugDir")
    |>.seq (htext "abiPath")
    |>.seq (htext "rpc")
    |>.seq (keeps_filled "constructorArgs")
    |>.seq (htext "forkUrl")
    |>.seq (keeps_number "forkBlock")
    |>.seq (keeps_number "forkPort")
    |>.seq (hflag "reuseFork")
    |>.seq (hflag "keepFork")
    |>.seq (hflag "noSnapshot")
    |>.seq (htext "function_signature")
    |>.seq (htext "function")
    |>.seq (hvalues "function_args")
    |>.seq (hvalues "functionArgs")
  refine hkeeps.stable (by decide) (fun p => List.Perm.of_eq ?_) "LaunchArguments"
  simp only [List.append_assoc, List.cons_append, List.nil_append, id]

end LaunchArguments

/-!
## Records in bodies

Their entries stand in the order of the keys, which is not that of the fields.
-/

theorem Breakpoint.stable_decode : Breakpoint.decode.Stable Breakpoint.toJson := by
  have hkeeps := (keeps_required "verified" Decoder.stable_bool).map Breakpoint.mk
    |>.seq (keeps_optional "line" Decoder.stable_nat32 nofun)
    |>.seq (keeps_optional "functionName" Decoder.stable_text nofun)
    |>.seq (keeps_optional "message" Decoder.stable_text nofun)
  refine hkeeps.stable (by decide) (fun p => ?_) "Breakpoint"
  simp only [← Multiset.coe_eq_coe, ← Multiset.coe_add, ← Multiset.cons_coe,
    ← Multiset.singleton_add, Multiset.coe_nil, add_zero, id_eq]
  ac_rfl

theorem StackFrame.stable_decode : StackFrame.decode.Stable StackFrame.toJson := by
  have hkeeps := (keeps_required "id" Decoder.stable_int64).map StackFrame.mk
    |>.seq (keeps_required "name" Decoder.stable_text)
    |>.seq (keeps_required "source" Source.stable_decode)
    |>.seq (keeps_required "line" Decoder.stable_nat32)
    |>.seq (keeps_required "column" Decoder.stable_nat32)
  refine hkeeps.stable (by decide) (fun p => ?_) "StackFrame"
  simp only [← Multiset.coe_eq_coe, ← Multiset.coe_add, ← Multiset.cons_coe,
    ← Multiset.singleton_add, Multiset.coe_nil, add_zero, id_eq]
  ac_rfl

theorem Scope.stable_decode : Scope.decode.Stable Scope.toJson := by
  have hkeeps := (keeps_required "name" Decoder.stable_text).map Scope.mk
    |>.seq (keeps_required "variablesReference" Decoder.stable_int64)
    |>.seq (keeps_required "expensive" Decoder.stable_bool)
  refine hkeeps.stable (by decide) (fun p => ?_) "Scope"
  simp only [← Multiset.coe_eq_coe, ← Multiset.coe_add, ← Multiset.cons_coe,
    ← Multiset.singleton_add, Multiset.coe_nil, add_zero, id_eq]
  ac_rfl

theorem Variable.stable_decode : Variable.decode.Stable Variable.toJson := by
  have hkeeps := (keeps_required "name" Decoder.stable_text).map Variable.mk
    |>.seq (keeps_required "value" Decoder.stable_text)
    |>.seq (keeps_optional "type" Decoder.stable_text nofun)
    |>.seq (keeps_required "variablesReference" Decoder.stable_int64)
  refine hkeeps.stable (by decide) (fun p => ?_) "Variable"
  simp only [← Multiset.coe_eq_coe, ← Multiset.coe_add, ← Multiset.cons_coe,
    ← Multiset.singleton_add, Multiset.coe_nil, add_zero, id_eq]
  ac_rfl

theorem StoppedBody.stable_decode : StoppedBody.decode.Stable StoppedBody.toJson := by
  have hkeeps := (keeps_required "reason" Decoder.stable_text).map StoppedBody.mk
    |>.seq (keeps_required "threadId" Decoder.stable_int64)
    |>.seq (keeps_optional "description" Decoder.stable_text nofun)
  refine hkeeps.stable (by decide) (fun p => ?_) "StoppedEventBody"
  simp only [← Multiset.coe_eq_coe, ← Multiset.coe_add, ← Multiset.cons_coe,
    ← Multiset.singleton_add, Multiset.coe_nil, add_zero, id_eq]
  ac_rfl

/-!
## Sound bodies

What is written of a record in a body is read as it is.
-/

theorem sound_string (text : String) : (Value.string text).Sound := rfl

theorem sound_int (i : Int) : (Value.int i).Sound := rfl

theorem sound_nat (n : Nat) : (Value.nat n).Sound := rfl

theorem sound_bool (b : Bool) : (Value.bool b).Sound := rfl

theorem Source.sound_toJson (s : Source) : s.toJson.Sound := by
  have hentries := (soundEntries_entry "name" sound_string s.name).append
    (soundEntries_entry "path" sound_string s.path)
  exact hentries.object (by decide)

theorem Breakpoint.sound_toJson (b : Breakpoint) : b.toJson.Sound := by
  have hentries := (soundEntries_entry "functionName" sound_string b.functionName).append
    (soundEntries_entry "line" sound_nat b.line)
    |>.append (soundEntries_entry "message" sound_string b.message)
    |>.append (soundEntries_nil.cons (sound_bool b.verified) "verified")
  exact hentries.object (by decide)

theorem StackFrame.sound_toJson (f : StackFrame) : f.toJson.Sound := by
  have hentries := soundEntries_nil.cons f.source.sound_toJson "source"
    |>.cons (sound_string f.name) "name"
    |>.cons (sound_nat f.line) "line"
    |>.cons (sound_int f.id) "id"
    |>.cons (sound_nat f.column) "column"
  exact hentries.object (by decide)

theorem Scope.sound_toJson (s : Scope) : s.toJson.Sound := by
  have hentries := soundEntries_nil
    |>.cons (sound_int s.variablesReference) "variablesReference"
    |>.cons (sound_string s.name) "name"
    |>.cons (sound_bool s.expensive) "expensive"
  exact hentries.object (by decide)

theorem Variable.sound_toJson (v : Variable) : v.toJson.Sound := by
  have hlast := soundEntries_nil
    |>.cons (sound_int v.variablesReference) "variablesReference"
    |>.cons (sound_string v.value) "value"
  have hentries := (soundEntries_nil.cons (sound_string v.name) "name").append
    (soundEntries_entry "type" sound_string v.typeName)
    |>.append hlast
  exact hentries.object (by decide)

theorem StoppedBody.sound_toJson (b : StoppedBody) : b.toJson.Sound := by
  have hlast := soundEntries_nil
    |>.cons (sound_int b.threadId) "threadId"
    |>.cons (sound_string b.reason) "reason"
  have hentries :=
    (soundEntries_entry "description" sound_string b.description).append hlast
  exact hentries.object (by decide)

theorem sound_outputBody (output : String) : (outputBody output).Sound :=
  (sound_string "stdout").pair (sound_string output) (by decide)

theorem sound_capabilities : capabilities.Sound := by
  have hentries := soundEntries_nil
    |>.cons (sound_bool true) "supportsTerminateRequest"
    |>.cons (sound_bool false) "supportsStepInTargetsRequest"
    |>.cons (sound_bool false) "supportsStepBack"
    |>.cons (sound_bool true) "supportsSetBreakpointsRequest"
    |>.cons (sound_bool false) "supportsExceptionInfoRequest"
    |>.cons (sound_bool false) "supportsEvaluateForHovers"
    |>.cons (sound_bool false) "supportsDataBreakpoints"
    |>.cons (sound_bool true) "supportsConfigurationDoneRequest"
    |>.cons (sound_bool false) "supportsCompletionsRequest"
  exact hentries.object (by decide)

end Protocol
end TraceAdapter
