import TraceAdapter.Debugger.Scripted
import TraceAdapter.Proofs.Evm.TypeNames
import TraceAdapter.Proofs.Text.SignedNumerals
import TraceAdapter.Session.Expression
import TraceAdapter.Session.View

/-!
# Entries of the stack

The stack is shown in three ways: as the entries of its scope, as the values of
expressions, and as the variables of the source that stand on it.  An expression is
answered by what the scope shows, from its start or from its end, and the sum that
counts from the end stays in sixty-four bits.
-/

namespace TraceAdapter

namespace Evm

theorem showWord_of_unruled {name : String} (h : TypeName.Unruled name) (w : Word) :
    showWord (.ofName name) w = w.display := by
  rcases TypeName.unruled_iff.mp h with hname | hname <;> rw [hname] <;> cases w <;> rfl

end Evm

namespace Expression

open Numeral (IndexText signedBound64)

/-!
## Texts of expressions
-/

/-- A text in brackets behind `stack`, with blank characters around the whole. -/
structure Bracketed (text inner : String) : Prop where
  written : exists front back : String,
    text = front ++ "stack[" ++ inner ++ "]" ++ back ∧
      front.toList.all Text.isBlank = true ∧ back.toList.all Text.isBlank = true

theorem trim_eq_of_bracketed {text inner : String} (h : Bracketed text inner) :
    Text.trim text = "stack[" ++ (inner ++ "]") := by
  rcases h.written with ⟨front, back, rfl, hfront, hback⟩
  have htrimmed : Text.Trimmed (front ++ "stack[" ++ inner ++ "]" ++ back).toList
      ("stack[" ++ (inner ++ "]")).toList := by
    refine ⟨⟨front.toList, back.toList, ?_, hfront, hback⟩, ?_, ?_⟩
    · simp only [String.toList_append, List.append_assoc]
    · intro c hc
      have hfirst : c = 's' := by
        rw [String.toList_append] at hc
        exact (Option.some.inj hc).symm
      rw [hfirst]
      decide
    · intro c hc
      have hlast : c = ']' := by
        rw [String.toList_append, String.toList_append, ← List.append_assoc] at hc
        exact (Option.some.inj (List.getLast?_concat.symm.trans hc)).symm
      rw [hlast]
      decide
  unfold Text.trim
  rw [htrimmed.eq_trimChars, String.ofList_toList]

theorem bracketed_iff {text inner : String} :
    (Text.afterStart? "stack[" (Text.trim text)).bind (Text.beforeEnd? "]") = some inner ↔
      Bracketed text inner := by
  constructor
  · intro h
    rcases Option.bind_eq_some_iff.mp h with ⟨rest, hstart, hend⟩
    have htrim := Text.eq_append_of_afterStart? hstart
    rw [Text.eq_append_of_beforeEnd? hend] at htrim
    rcases (Text.trimmed_trimChars text.toList).around with ⟨front, back, htext, hfront, hback⟩
    have hmiddle : Text.trimChars text.toList = ("stack[" ++ (inner ++ "]")).toList := by
      rw [← htrim]
      unfold Text.trim
      rw [String.toList_ofList]
    refine ⟨String.ofList front, String.ofList back, ?_, ?_, ?_⟩
    · rw [← String.toList_inj, htext, hmiddle]
      simp only [String.toList_append, String.toList_ofList, List.append_assoc]
    · rw [String.toList_ofList]
      exact hfront
    · rw [String.toList_ofList]
      exact hback
  · intro h
    rw [trim_eq_of_bracketed h, Text.afterStart?_append]
    exact Text.beforeEnd?_append inner "]"

theorem read_of_index {text inner : String} {k : Int} (htext : Bracketed text inner)
    (hindex : IndexText inner k) : read text = .ok (.stackEntry k) := by
  unfold read
  simp only [bracketed_iff.mpr htext, Numeral.integer64?_trim_eq_some_iff.mpr hindex]

theorem read_of_no_index {text inner : String} (htext : Bracketed text inner)
    (hindex : forall k, ¬ IndexText inner k) :
    read text = .error (.invalidExpression inner) := by
  have hread : Numeral.integer64? (Text.trim inner) = none := by
    rw [Option.eq_none_iff_forall_ne_some]
    intro k hk
    exact hindex k (Numeral.integer64?_trim_eq_some_iff.mp hk)
  unfold read
  simp only [bracketed_iff.mpr htext, hread]

theorem read_of_no_brackets {text : String} (htext : forall inner, ¬ Bracketed text inner) :
    read text = .ok .unknown := by
  have hinner : (Text.afterStart? "stack[" (Text.trim text)).bind (Text.beforeEnd? "]") =
      none := by
    rw [Option.eq_none_iff_forall_ne_some]
    intro inner hinner
    exact htext inner (bracketed_iff.mp hinner)
  unfold read
  simp only [hinner]

/-!
## Entries
-/

theorem position?_of_negative {k : Int} {n : Nat} (hleast : -signedBound64 ≤ k)
    (hnegative : k < 0) (hn : n < signedBound64) :
    position? k n = some (n + k) ∧
      -signedBound64 ≤ (n : Int) + k ∧ (n : Int) + k < signedBound64 := by
  have hbound : Numeral.bound64 = 2 * signedBound64 := rfl
  have hsum : Int.bmod (n + k) Numeral.bound64 = n + k := by
    apply Int.bmod_eq_of_le_mul_two <;> omega
  refine ⟨?_, by omega, by omega⟩
  unfold position?
  rw [if_pos hnegative, if_pos hn, hsum]

theorem position?_of_nonneg {k : Int} {n : Nat} (h : 0 ≤ k) : position? k n = some k :=
  if_neg (Int.not_lt.mpr h)

theorem entry_of_position {stack : List Evm.Word} {k : Int} {i : Nat} {w : Evm.Word}
    (hposition : position? k stack.length = some (i : Int)) (hw : stack[i]? = some w) :
    entry stack k = .ok w := by
  have hentry : ((position? k stack.length).bind Int.toNat?).bind (stack[·]?) = some w := by
    rw [hposition]
    exact hw
  unfold entry
  rw [hentry]

theorem entry_of_outside {stack : List Evm.Word} {k : Int} (hleast : -signedBound64 ≤ k)
    (hfits : stack.length < signedBound64) (hk : k < -stack.length ∨ stack.length ≤ k) :
    entry stack k = .error (.stackIndexOutOfRange k stack.length) := by
  have hnone : ((position? k stack.length).bind Int.toNat?).bind (stack[·]?) = none := by
    rcases hk with hbelow | habove
    · have hnegative : k < 0 := by omega
      rw [(position?_of_negative hleast hnegative hfits).1]
      obtain ⟨distance, hdistance⟩ := Int.eq_negSucc_of_lt_zero
        (show (stack.length : Int) + k < 0 by omega)
      rw [hdistance]
      rfl
    · have hnonneg : 0 ≤ k := by omega
      obtain ⟨i, rfl⟩ := Int.eq_ofNat_of_zero_le hnonneg
      rw [position?_of_nonneg hnonneg]
      exact List.getElem?_eq_none (Int.ofNat_le.mp habove)
  unfold entry
  rw [hnone]

end Expression

namespace Session

open Protocol (Variable)
open Expression (Bracketed)
open Numeral (IndexText signedBound64)

variable {σ : Type}

/-!
## Answers
-/

/-- How an expression is answered by the entries of a scope. -/
inductive Answers (scope : List Variable) (text : String) : Except Error String -> Prop where
  | fromStart {inner : String} {k : Int} {x : Variable} (htext : Bracketed text inner)
      (hindex : IndexText inner k) (hk : 0 ≤ k) (hx : scope[k.toNat]? = some x) :
      Answers scope text (.ok x.value)
  | fromEnd {inner : String} {k : Int} {x : Variable} (htext : Bracketed text inner)
      (hindex : IndexText inner k) (hk : -scope.length ≤ k ∧ k < 0)
      (hx : scope[(scope.length + k).toNat]? = some x) :
      Answers scope text (.ok x.value)
  | outOfRange {inner : String} {k : Int} (htext : Bracketed text inner)
      (hindex : IndexText inner k) (hk : k < -scope.length ∨ scope.length ≤ k) :
      Answers scope text (.error (.stackIndexOutOfRange k scope.length))
  | noIndex {inner : String} (htext : Bracketed text inner)
      (hindex : forall k, ¬ IndexText inner k) :
      Answers scope text (.error (.invalidExpression inner))
  | unknown (htext : forall inner, ¬ Bracketed text inner) : Answers scope text (.ok "n/a")

theorem length_stackVariables (step : Step) :
    (stackVariables step).length = step.stack.length := by
  simp [stackVariables]

theorem getElem?_stackVariables (step : Step) (i : Nat) :
    (stackVariables step)[i]? =
      (step.stack[i]?).map fun w => machineVariable (stackName i) w.display := by
  simp [stackVariables, Function.comp_def]

theorem stack_of_getElem? {step : Step} {i : Nat} {x : Variable}
    (h : (stackVariables step)[i]? = some x) :
    exists w, step.stack[i]? = some w ∧ x = machineVariable (stackName i) w.display := by
  rw [getElem?_stackVariables] at h
  rcases Option.map_eq_some_iff.mp h with ⟨w, hw, hx⟩
  exact ⟨w, hw, hx.symm⟩

theorem evaluate_of_read {s : Session σ} {step : Step} (hstep : s.step? = some step)
    {text : String} {e : Expression} (hread : Expression.read text = .ok e) :
    s.evaluate text = e.evaluate step := by
  unfold evaluate
  simp only [hstep, hread]

theorem evaluate_of_index {s : Session σ} {step : Step} (hstep : s.step? = some step)
    {text inner : String} {k : Int} (htext : Bracketed text inner)
    (hindex : IndexText inner k) :
    s.evaluate text = (Expression.entry step.stack k).map Evm.Word.display := by
  rw [evaluate_of_read hstep (Expression.read_of_index htext hindex)]
  rfl

theorem evaluate_of_unread {s : Session σ} {step : Step} (hstep : s.step? = some step)
    {text : String} {e : Error} (hread : Expression.read text = .error e) :
    s.evaluate text = .error e := by
  unfold evaluate
  simp only [hstep, hread]

theorem evaluate_of_answers {s : Session σ} {step : Step} (hstep : s.step? = some step)
    (hfits : step.stack.length < signedBound64) {text : String}
    {answer : Except Error String} (h : Answers (stackVariables step) text answer) :
    s.evaluate text = answer := by
  have hlength := length_stackVariables step
  cases h with
  | fromStart htext hindex hk hx =>
      rcases stack_of_getElem? hx with ⟨w, hw, rfl⟩
      rw [evaluate_of_index hstep htext hindex, Expression.entry_of_position _ hw]
      · rfl
      · rw [Int.toNat_of_nonneg hk]
        exact Expression.position?_of_nonneg hk
  | fromEnd htext hindex hk hx =>
      rcases stack_of_getElem? hx with ⟨w, hw, rfl⟩
      rw [evaluate_of_index hstep htext hindex, Expression.entry_of_position _ hw]
      · rfl
      · rw [(Expression.position?_of_negative hindex.range.1 hk.2 hfits).1, hlength,
          Int.toNat_of_nonneg (by omega)]
  | outOfRange htext hindex hk =>
      rw [hlength] at hk
      rw [evaluate_of_index hstep htext hindex,
        Expression.entry_of_outside hindex.range.1 hfits hk, hlength]
      rfl
  | noIndex htext hindex =>
      exact evaluate_of_unread hstep (Expression.read_of_no_index htext hindex)
  | unknown htext =>
      exact evaluate_of_read hstep (Expression.read_of_no_brackets htext)

theorem exists_answer (scope : List Variable) (text : String) :
    exists answer, Answers scope text answer := by
  by_cases htext : exists inner, Bracketed text inner
  · rcases htext with ⟨inner, htext⟩
    by_cases hindex : exists k, IndexText inner k
    · rcases hindex with ⟨k, hindex⟩
      by_cases hrange : -scope.length ≤ k ∧ k < scope.length
      · by_cases hk : 0 ≤ k
        · exact ⟨_, .fromStart htext hindex hk (List.getElem?_eq_getElem (by omega))⟩
        · exact ⟨_, .fromEnd htext hindex ⟨hrange.1, Int.not_le.mp hk⟩
            (List.getElem?_eq_getElem (by omega))⟩
      · exact ⟨_, .outOfRange htext hindex (by omega)⟩
    · exact ⟨_, .noIndex htext fun k hk => hindex ⟨k, hk⟩⟩
  · exact ⟨_, .unknown fun inner hinner => htext ⟨inner, hinner⟩⟩

theorem evaluate_eq_iff {s : Session σ} {step : Step} (hstep : s.step? = some step)
    (hfits : step.stack.length < signedBound64) {text : String}
    {answer : Except Error String} :
    s.evaluate text = answer ↔ Answers (stackVariables step) text answer := by
  constructor
  · rintro rfl
    rcases exists_answer (stackVariables step) text with ⟨answer, hanswer⟩
    rw [evaluate_of_answers hstep hfits hanswer]
    exact hanswer
  · exact evaluate_of_answers hstep hfits

/-!
## Names of entries
-/

theorem indexText_of_blank {k : Int} (hleast : -signedBound64 ≤ k) (hmost : k < signedBound64)
    {before after : String} (hbefore : before.toList.all Text.isBlank = true)
    (hafter : after.toList.all Text.isBlank = true) :
    IndexText (before ++ Numeral.signedDecimal k ++ after) k := by
  refine ⟨before.toList, _, after.toList, ?_, hbefore, hafter,
    Numeral.writesInteger_signedDecimal hleast hmost⟩
  rw [String.toList_append, String.toList_append]

theorem evaluate_name {s : Session σ} {step : Step} (hstep : s.step? = some step)
    (hfits : step.stack.length < signedBound64) {x : Variable}
    (hx : x ∈ stackVariables step) : s.evaluate x.name = .ok x.value := by
  rcases List.mem_iff_getElem?.mp hx with ⟨i, hi⟩
  rcases stack_of_getElem? hi with ⟨w, hw, hname⟩
  have hshort : i < step.stack.length := (List.getElem?_eq_some_iff.mp hw).1
  have hindex : IndexText (Numeral.decimal i) (i : Int) := by
    have hspaced : IndexText ("" ++ Numeral.signedDecimal i ++ "") i :=
      indexText_of_blank (by omega) (by omega) rfl rfl
    rw [String.empty_append, String.append_empty] at hspaced
    exact hspaced
  have hbracketed : Bracketed x.name (Numeral.decimal i) := by
    refine ⟨"", "", ?_, rfl, rfl⟩
    rw [hname, String.empty_append, String.append_empty]
    rfl
  apply evaluate_of_answers hstep hfits
  exact .fromStart hbracketed hindex (Int.natCast_nonneg i) hi

/-!
## Variables of the source
-/

theorem value?_of_unruled {step : Step} {v : VariableLocation} {w : Evm.Word}
    (hkind : v.kind = .stack) (htype : Evm.TypeName.Unruled v.typeName)
    (hw : step.stack[v.offset]? = some w) : value? step v = some w.display := by
  unfold value?
  simp only [hkind, hw, Option.map_some, Evm.showWord_of_unruled htype]

variable [Debugger σ]

theorem variablesBehind_stack {s : Session σ} {step : Step} {debugger : σ}
    (hstep : s.step? = some step) (hdebugger : s.debugger? = some debugger) :
    s.variablesBehind stackReference = stackVariables step := by
  unfold variablesBehind
  simp only [hstep, hdebugger]
  rfl

theorem getElem?_locals {s : Session σ} {step : Step} {debugger : σ}
    (hstep : s.step? = some step) (hdebugger : s.debugger? = some debugger)
    {variablesAt : Nat -> List VariableLocation}
    (hknown : Debugger.variables? debugger = some variablesAt) (i : Nat) :
    (s.variablesBehind localsReference)[i]? =
      ((variablesAt step.pc)[i]?).map fun v =>
        ⟨v.name, (value? step v).getD unavailable, some v.typeName, 0⟩ := by
  unfold variablesBehind locals
  simp only [hstep, hdebugger, hknown]
  exact List.getElem?_map

/-- Expressions are answered by the scope of the stack, its names among them, and a
variable on the stack with a type that has no rule shows what the scope shows.  The length
of a stack is an integer of sixty-four bits, as that of every list in memory. -/
theorem evaluate_agrees_with_stack {s : Session σ} {step : Step} {debugger : σ}
    (hstep : s.step? = some step) (hdebugger : s.debugger? = some debugger)
    (hfits : step.stack.length < signedBound64) :
    (s.variablesBehind stackReference).length = step.stack.length ∧
      (forall x, x ∈ s.variablesBehind stackReference -> s.evaluate x.name = .ok x.value) ∧
      (forall text answer,
        s.evaluate text = answer ↔ Answers (s.variablesBehind stackReference) text answer) ∧
      (forall k : Int, -signedBound64 ≤ k -> k < signedBound64 ->
        (forall front before after back : String,
          (forall t, t ∈ [front, before, after, back] -> t.toList.all Text.isBlank = true) ->
          exists inner, IndexText inner k ∧
            Bracketed
              (front ++ "stack[" ++ (before ++ Numeral.signedDecimal k ++ after) ++ "]" ++ back)
              inner) ∧
        (k < 0 -> Expression.position? k step.stack.length = some (step.stack.length + k) ∧
          -signedBound64 ≤ step.stack.length + k ∧ step.stack.length + k < signedBound64)) ∧
      (forall variablesAt, Debugger.variables? debugger = some variablesAt ->
        forall (i : Nat) (v : VariableLocation) (x : Variable),
          (variablesAt step.pc)[i]? = some v -> v.kind = .stack ->
          Evm.TypeName.Unruled v.typeName ->
          (s.variablesBehind stackReference)[v.offset]? = some x ->
          (s.variablesBehind localsReference)[i]? =
            some ⟨v.name, x.value, some v.typeName, 0⟩) := by
  rw [variablesBehind_stack hstep hdebugger]
  refine ⟨length_stackVariables step, fun x => evaluate_name hstep hfits,
    fun text answer => evaluate_eq_iff hstep hfits, ?_, ?_⟩
  · intro k hleast hmost
    constructor
    · intro front before after back hblank
      have hbefore := hblank before (by simp)
      have hafter := hblank after (by simp)
      exact ⟨_, indexText_of_blank hleast hmost hbefore hafter,
        ⟨front, back, rfl, hblank front (by simp), hblank back (by simp)⟩⟩
    · intro hnegative
      exact Expression.position?_of_negative hleast hnegative hfits
  · intro variablesAt hknown i v x hv hkind htype hx
    rcases stack_of_getElem? hx with ⟨w, hw, rfl⟩
    rw [getElem?_locals hstep hdebugger hknown, hv, Option.map_some,
      value?_of_unruled hkind htype hw]
    rfl

def atTwoEntries : Session Scripted where
  debugger? := some { known := some [(⟨"origin", "Point", .stack, 1⟩, none)] }
  trace? := some [⟨7, "MLOAD", [.int 1#256, .text "zz"], none, none, none, none, none⟩]

theorem evaluate_agrees_with_stack_two :
    (exists step, atTwoEntries.step? = some step ∧ step.stack.length < signedBound64) ∧
      (atTwoEntries.variablesBehind stackReference).length = 2 ∧
      atTwoEntries.evaluate "stack[1]" = .ok "zz" ∧
      atTwoEntries.evaluate " stack[ -2 ]" = .ok "0x1" ∧
      atTwoEntries.evaluate "stack[-9223372036854775808]" =
        .error (.stackIndexOutOfRange (-9223372036854775808) 2) ∧
      (atTwoEntries.variablesBehind localsReference)[0]? =
        some ⟨"origin", "zz", some "Point", 0⟩ := by
  have htype : Evm.TypeName.Unruled "Point" := Evm.TypeName.unruled_iff.mpr (Or.inr (by decide))
  rcases evaluate_agrees_with_stack (s := atTwoEntries) rfl rfl (by decide) with
    ⟨hlength, hnames, hanswers, hwritten, hlocals⟩
  refine ⟨⟨_, rfl, by decide⟩, hlength,
    hnames (machineVariable "stack[1]" "zz") (by decide), ?_, ?_,
    hlocals _ rfl 0 _ (machineVariable "stack[1]" "zz") rfl rfl htype (by decide)⟩
  · rcases (hwritten (-2) (by decide) (by decide)).1 " " " " " " "" (by decide) with
      ⟨inner, hindex, htext⟩
    apply (hanswers _ _).mpr
    exact .fromEnd (x := machineVariable "stack[0]" "0x1") htext hindex (by decide) (by decide)
  · rcases (hwritten (-9223372036854775808) (by decide) (by decide)).1 "" "" "" "" (by decide) with
      ⟨inner, hindex, htext⟩
    exact (hanswers _ _).mpr (.outOfRange htext hindex (Or.inl (by decide)))

end Session
end TraceAdapter
